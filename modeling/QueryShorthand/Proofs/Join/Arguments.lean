import QueryShorthand.Proofs.Join.Writing
import QueryShorthand.Proofs.Operand.Items
import QueryShorthand.Proofs.Token.Swap

/-! The arguments of a preset in single quotes, which may hold any characters. -/
namespace QueryShorthand.Join

/-- Arguments in single quotes with commas between them and blanks around each. -/
inductive WritesArguments : List Text → Text → Prop where
  | none {b : Text} (hb : b.Blank) : WritesArguments [] b
  | last {b b' : Text} (arg : Text) (hb : b.Blank) (hb' : b'.Blank) :
      WritesArguments [arg] (b ++ (Text.quoted '\'' arg ++ b'))
  | more {b b' u next : Text} {args : List Text} (arg : Text) (hb : b.Blank) (hb' : b'.Blank)
      (h : WritesArguments (next :: args) u) :
      WritesArguments (arg :: next :: args) (b ++ (Text.quoted '\'' arg ++ b') ++ ',' :: u)

def referenceText (source preset arguments : Text) : Text :=
  source ++ '-' :: '>' :: (preset ++ '(' :: (arguments ++ [')']))

variable {b s t u w preset table arg : Text} {tableAlias : Option Text} {args : List Text}

theorem solid_argument (arg : Text) : Solid (Text.quoted '\'' arg) :=
  solid_quoted rfl (quotes_escape arg)

def Leaf.consText (t : Text) : Option (Text × Text) → Option (Text × Text) :=
  Option.map fun p => (t ++ p.1, p.2)

theorem Leaf.consChar_consText (c : Char) (x : Option (Text × Text)) :
    consChar c (consText t x) = consText (c :: t) x := by
  cases x <;> rfl

theorem Leaf.consText_consText (x : Option (Text × Text)) :
    consText s (consText t x) = consText (s ++ t) x := by
  cases x <;> simp [consText]

def Passes (t : Text) : Prop :=
  ∀ r, Leaf.arguments? none (t ++ r) = Leaf.consText t (Leaf.arguments? none r)

theorem Passes.append (hs : Passes s) (ht : Passes t) : Passes (s ++ t) := by
  intro r
  rw [List.append_assoc, hs, ht, Leaf.consText_consText]

theorem passes_nil : Passes [] := by
  intro r
  rw [List.nil_append]
  cases Leaf.arguments? none r <;> rfl

theorem passes_char {c : Char} (hc : c ∉ [')', '\'', '"']) : Passes [c] := by
  obtain ⟨hp, hs, hd⟩ : c ≠ ')' ∧ c ≠ '\'' ∧ c ≠ '"' := by simpa using hc
  intro r
  rw [List.singleton_append, Leaf.arguments?, if_neg hp, if_neg (by simp [hs, hd])]
  cases Leaf.arguments? none r <;> rfl

theorem passes_blank (hb : b.Blank) : Passes b := by
  have all : ∀ c ∈ [')', '\'', '"'], isBlank c = false := Text.forall_mem_of_all (by decide)
  induction b with
  | nil => exact passes_nil
  | cons c b ih =>
    obtain ⟨hc, hb⟩ := List.forall_mem_cons.1 hb
    have hclose : c ∉ [')', '\'', '"'] := fun hm => by simp [all c hm] at hc
    exact (passes_char hclose).append (ih hb)

theorem arguments?_escape (t r : Text) :
    Leaf.arguments? (some '\'') (Text.escape '\'' t ++ '\'' :: r) =
      Leaf.consText (Text.escape '\'' t ++ ['\'']) (Leaf.arguments? none r) := by
  induction t with
  | nil =>
    rw [Text.escape, List.nil_append, Leaf.arguments?, if_pos rfl]
    · cases Leaf.arguments? none r <;> rfl
    · exact fun _ _ h _ => by cases h
  | cons c t ih =>
    rw [Text.escape]
    split
    · rw [List.cons_append, List.cons_append, Leaf.arguments?, ih, Leaf.consChar_consText,
        Leaf.consChar_consText]
      rfl
    · next h =>
      obtain ⟨hb, hq⟩ := not_or.1 h
      rw [List.cons_append, Leaf.arguments?, if_neg hq, ih, Leaf.consChar_consText]
      · rfl
      · exact fun _ _ h _ => hb h

theorem passes_quoted (arg : Text) : Passes (Text.quoted '\'' arg) := by
  intro r
  rw [Text.quoted, List.cons_append, Leaf.arguments?, if_neg (by decide), if_pos (.inl rfl),
    List.append_assoc, List.singleton_append, arguments?_escape, Leaf.consChar_consText]

namespace WritesArguments

theorem passes (h : WritesArguments args t) : Passes t := by
  have padded {b b' : Text} (arg : Text) (hb : b.Blank) (hb' : b'.Blank) :
      Passes (b ++ (Text.quoted '\'' arg ++ b')) :=
    (passes_blank hb).append ((passes_quoted arg).append (passes_blank hb'))
  induction h with
  | none hb => exact passes_blank hb
  | last arg hb hb' => exact padded arg hb hb'
  | more arg hb hb' _ ih => exact (padded arg hb hb').append ((passes_char (by decide)).append ih)

theorem arguments? (h : WritesArguments args t) (r : Text) :
    Leaf.arguments? Option.none (t ++ ')' :: r) = some (t, r) := by
  rw [h.passes, Leaf.arguments?, if_pos rfl]
  simp [Leaf.consText]

theorem writesList (h : WritesArguments args t) :
    Operand.WritesList (args.map (Text.quoted '\'')) t := by
  induction h with
  | none hb => exact .none hb
  | last arg hb hb' => exact .last hb (solid_argument arg) hb'
  | more arg hb hb' _ ih => exact .more hb (solid_argument arg) hb' ih

theorem argumentTexts (h : WritesArguments args t) : Join.argumentTexts t = .ok args := by
  have hargs : List.Forall₂ (fun t arg => (.ok (Text.unquote t) : Except Error Text) = .ok arg)
      (args.map (Text.quoted '\'')) args := by
    refine List.forall₂_map_left_iff.2 (List.forall₂_same.2 fun arg _ => ?_)
    rw [Text.unquote_quoted (.inr (.inl rfl))]
  exact Operand.items_of_scans (fun _ => rfl) (fun _ => rfl) hargs h.writesList.scans

end WritesArguments

theorem endsWord_of_ascii {c : Char} (hc : c.toNat < 128) (h : isWordChar c = true) :
    endsWord c = true :=
  forall_ascii (p := fun c => isWordChar c = true → endsWord c = true) (by decide) hc h

theorem lastEndsWord_of_ascii (h : Name.IsWord preset) (hascii : ∀ c ∈ preset, c.toNat < 128) :
    lastEndsWord preset = true := by
  obtain ⟨c, r, rfl, -⟩ := id h
  have hlast := List.getLast_mem (List.cons_ne_nil c r)
  rw [lastEndsWord, List.getLast?_eq_some_getLast (List.cons_ne_nil c r)]
  exact endsWord_of_ascii (hascii _ hlast) (h.isWordChar _ hlast)

/-- What a reference is split into; the text behind it decides about the bracket only. -/
theorem Leaf.read?_reference (hs : Source.Writes (.table table tableAlias) s)
    (hp : Name.IsWord preset) (h : WritesArguments args t) (w : Text) :
    Leaf.read? (referenceText s preset t ++ w) =
      (Leaf.bracket? w).map fun b => ⟨tableAlias, table, some (preset, t), b⟩ := by
  have hpreset :
      Leaf.preset? ('-' :: '>' :: (preset ++ '(' :: (t ++ ')' :: w))) = some ((preset, t), w) := by
    have hword := Name.word?_append hp (stops_of_head (c := '(') (r := t ++ ')' :: w) (by decide))
    rw [Leaf.preset?, hword]
    simp [h.arguments? w]
  have htext : referenceText s preset t ++ w =
      s ++ '-' :: '>' :: (preset ++ '(' :: (t ++ ')' :: w)) := by simp [referenceText]
  rw [htext, Leaf.read?_source (stops_of_head (by decide)) (by simp) hs, hpreset]
  rfl

theorem firm_reference (hs : Source.Writes (.table table tableAlias) s) (hp : Name.IsWord preset)
    (hascii : ∀ c ∈ preset, c.toNat < 128) (h : WritesArguments args t) :
    cutter.Firm (referenceText s preset t) where
  inside := by
    obtain ⟨c, r, rfl, hc, -⟩ := id hp
    have hword : cutter.Inside false (c :: r) :=
      Cutter.inside_chars startsIn_cutter fun d hd => not_special_of_isWordChar (hp.isWordChar d hd)
    have hcall : cutter.Inside false (c :: r ++ '(' :: (t ++ [')'])) := by
      refine hword.append ?_
      rw [Cutter.wordAfter_of_ne_nil (by simp), lastEndsWord_of_ascii hp hascii]
      exact Cutter.inside_arguments h.writesList.balanced
    have hne : c ≠ '>' := by
      rintro rfl
      cases hc
    exact (inside_table hs).append (Cutter.inside_single_arrow hne hcall)
  apart v := by
    obtain ⟨c, r, rfl, hc⟩ := Source.Writes.head hs
    have hmarks :
        ∀ m ∈ cutter.marks, (m.tail.all fun d => decide (d ∈ ['=', '<', '>'])) = true := by
      rw [marks_cutter]
      decide
    have hne : ∀ d ∈ ['=', '<', '>'], (referenceText (c :: r) preset t ++ v).head? ≠ some d := by
      rintro d hd heq
      cases heq
      exact hc hd
    exact ⟨hne '=' (by decide), hne '>' (by decide), fun m hm d hd =>
      hne d (Text.forall_mem_of_all (hmarks m hm) d hd)⟩
  head := by
    obtain ⟨c, r, rfl, hc, -⟩ := (solid_table hs).head
    exact ⟨c, _, rfl, hc⟩
  last :=
    ⟨')', by simp [referenceText, List.getLast?_append, List.getLast?_cons], by decide, by decide⟩

end QueryShorthand.Join
