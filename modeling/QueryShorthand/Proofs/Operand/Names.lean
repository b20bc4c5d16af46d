import QueryShorthand.Proofs.Operand.Solid
import QueryShorthand.Proofs.Text.Quotation

/-! The grammar of names and columns. -/
namespace QueryShorthand

theorem Text.quotedRest?_escape {q : Char} (hq : q ≠ '\\' ∧ q ≠ '\n') (m : Bool) (t r : Text) :
    quotedRest? q m (escape q t ++ q :: r) = some (t, r) :=
  (quotation_escape hq.2 t).quotedRest? hq.1 r

namespace Name

/-- A word that needs no backticks; ASCII words are such words. -/
def IsWord (t : Text) : Prop := ∃ c r, t = c :: r ∧ isStart c = true ∧ ∀ d ∈ r, isWordChar d = true

/-- A name as it may be written: bare if it is a word, or in backticks. -/
inductive Writes : Text → Text → Prop where
  | bare {name : Text} (h : IsWord name) : Writes name name
  | quoted {name : Text} (h : name ≠ []) : Writes name (Text.quoted backtick name)

variable {name t r : Text}

theorem IsWord.isWordChar (h : IsWord t) : ∀ c ∈ t, isWordChar c = true := by
  obtain ⟨c, r, rfl, hc, hr⟩ := h
  exact List.forall_mem_cons.2 ⟨isWordChar_of_isStart hc, hr⟩

def Stops (r : Text) : Prop := ∀ c, r.head? = some c → QueryShorthand.isWordChar c = false

theorem word?_append (h : IsWord t) (hr : Stops r) : word? (t ++ r) = some (t, r) := by
  obtain ⟨c, u, rfl, hc, hu⟩ := h
  have hnil : r.takeWhile QueryShorthand.isWordChar = [] ∧
      r.dropWhile QueryShorthand.isWordChar = r := by
    cases r with
    | nil => exact ⟨rfl, rfl⟩
    | cons d r => simp [hr d rfl]
  rw [List.cons_append, word?, if_pos hc, List.takeWhile_append_of_pos hu,
    List.dropWhile_append_of_pos hu, hnil.1, hnil.2, List.append_nil]

theorem read?_start (multiline : Bool) {c : Char} (hc : isStart c = true) :
    read? multiline (c :: r) = word? (c :: r) := by
  rw [read?]
  rintro r' hr
  obtain ⟨rfl, -⟩ := List.cons.inj hr
  exact absurd hc (by decide)

theorem read?_word (multiline : Bool) (h : IsWord t) :
    read? multiline (t ++ r) = word? (t ++ r) := by
  obtain ⟨c, u, rfl, hc, hu⟩ := h
  exact read?_start multiline hc

/-- A name as it may be read. In backticks any character may be escaped, but a line break only if
`multiline`. -/
inductive Spells (multiline : Bool) : Text → Text → Prop where
  | bare {name : Text} (h : IsWord name) : Spells multiline name name
  | quoted {name u : Text} (hne : name ≠ []) (h : Text.Quotation backtick multiline name u) :
      Spells multiline name ('\x60' :: (u ++ ['\x60']))

theorem Writes.spells {multiline : Bool} (h : Writes name t) : Spells multiline name t := by
  cases h with
  | bare h => exact .bare h
  | quoted h => exact .quoted h (Text.quotation_escape (by decide) name)

theorem read?_quoted {multiline : Bool} {u : Text} (hne : name ≠ [])
    (h : Text.Quotation backtick multiline name u) (r : Text) :
    read? multiline ('\x60' :: (u ++ ['\x60']) ++ r) = some (name, r) := by
  have hread : Text.quotedRest? backtick multiline (u ++ '\x60' :: r) = some (name, r) :=
    h.quotedRest? (by decide) r
  rw [List.cons_append, List.append_assoc, List.singleton_append, read?, hread]
  split
  · next heq =>
    cases heq
    exact absurd rfl hne
  · rfl

theorem read?_spells {multiline : Bool} (h : Spells multiline name t) (hr : Stops r) :
    read? multiline (t ++ r) = some (name, r) := by
  cases h with
  | bare h => rw [read?_word multiline h, word?_append h hr]
  | quoted hne h => exact read?_quoted hne h r

theorem read?_writes (multiline : Bool) (h : Writes name t) (hr : Stops r) :
    read? multiline (t ++ r) = some (name, r) := read?_spells h.spells hr

theorem whole?_writes (multiline : Bool) (h : Writes name t) : whole? multiline t = some name := by
  have hread : read? multiline (t ++ []) = some (name, []) :=
    read?_writes multiline h fun _ hc => by cases hc
  rw [List.append_nil] at hread
  rw [whole?, hread]

theorem eq_append_of_word? (h : word? t = some (name, r)) : t = name ++ r := by
  unfold word? at h
  split at h
  · split at h
    · cases h
      rw [List.cons_append, List.takeWhile_append_dropWhile]
    · cases h
  · cases h

theorem ne_nil_of_read? {multiline : Bool} (h : read? multiline t = some (name, r)) :
    name ≠ [] := by
  unfold read? at h
  split at h
  · split at h
    · cases h
    · next hempty =>
      rintro rfl
      exact hempty r h
  · unfold word? at h
    split at h
    · split at h
      · cases h
        simp
      · cases h
    · cases h

theorem exists_of_read? {multiline : Bool} (h : read? multiline t = some (name, r)) :
    ∃ q, Spells multiline name q ∧ t = q ++ r := by
  have hname := ne_nil_of_read? h
  unfold read? at h
  split at h
  · next t =>
    have hrest : Text.quotedRest? backtick multiline t = some (name, r) := by
      split at h
      · cases h
      · exact h
    obtain ⟨-, u, hu, rfl⟩ := Text.quotation_of_quotedRest? hrest
    exact ⟨_, .quoted hname hu, by simp [backtick]⟩
  · refine ⟨name, .bare ?_, eq_append_of_word? h⟩
    unfold word? at h
    split at h
    · next c t _ =>
      split at h
      · next hc =>
        cases h
        exact ⟨c, _, rfl, hc, List.all_eq_true.1 List.all_takeWhile⟩
      · cases h
    · cases h

theorem read?_multiline (h : read? false t = some (name, r)) : read? true t = some (name, r) := by
  obtain ⟨q, hq, rfl⟩ := exists_of_read? h
  cases hq with
  | bare hword =>
    rw [read?_word false hword] at h
    rwa [read?_word true hword]
  | quoted hne hu => exact read?_quoted hne hu.multiline r

end Name

namespace Column

variable {q : Option Text} {name t r : Text} {c : Column}

inductive Writes : Column → Text → Prop where
  | plain {name t : Text} (h : Name.Writes name t) (hne : name ≠ ['*']) : Writes { name } t
  | qualified {q name s t : Text} (hq : Name.Writes q s) (h : Name.Writes name t)
      (hne : name ≠ ['*']) : Writes { qualifier := some q, name } (s ++ '.' :: t)
  | path {q : Option Text} {name p t : Text} {scalar : Bool} (h : Writes ⟨q, name, none⟩ t)
      (hp : p.head? = some '$') :
      Writes ⟨q, name, some ⟨p, scalar⟩⟩ (t ++ (arrow scalar ++ Text.quoted '\'' p))

inductive WritesLast : Text → Text → Prop where
  | name {name t : Text} (h : Name.Writes name t) : WritesLast name t
  | star : WritesLast ['*'] ['*']

/-- A column, or all columns, as it may be written; in backticks the wildcard is one too. -/
inductive Spells : Column → Text → Prop where
  | plain {name t : Text} (h : WritesLast name t) : Spells { name } t
  | qualified {q name s t : Text} (hq : Name.Writes q s) (h : WritesLast name t) :
      Spells { qualifier := some q, name } (s ++ '.' :: t)
  | path {q : Option Text} {name p t : Text} {scalar : Bool} (h : Spells ⟨q, name, none⟩ t)
      (hp : p.head? = some '$') :
      Spells ⟨q, name, some ⟨p, scalar⟩⟩ (t ++ (arrow scalar ++ Text.quoted '\'' p))

theorem Writes.spells (h : Writes c t) : Spells c t := by
  induction h with
  | plain h _ => exact .plain (.name h)
  | qualified hq h _ => exact .qualified hq (.name h)
  | path _ hp ih => exact .path ih hp

theorem name?_writes (h : Name.Writes name t) (hr : Name.Stops r) :
    name? (t ++ r) = some (name, r) := by
  have hstar : ∀ r', t ++ r ≠ '*' :: r' := by
    intro r' heq
    cases h with
    | bare h =>
      obtain ⟨c, u, rfl, hc, -⟩ := h
      obtain ⟨rfl, -⟩ := List.cons.inj heq
      exact absurd hc (by decide)
    | quoted h => exact absurd (List.cons.inj heq).1 (by decide)
  rw [name?]
  · exact Name.read?_writes false h hr
  · exact hstar

def Splits (q : Option Text) (name t : Text) : Prop := ∀ r, Name.Stops r → r.head? ≠ some '.' →
  (splitQualifier (t ++ r)).1 = q ∧ name? (splitQualifier (t ++ r)).2 = some (name, r)

theorem name?_last (h : WritesLast name t) (hr : Name.Stops r) :
    name? (t ++ r) = some (name, r) := by
  cases h with
  | name h => exact name?_writes h hr
  | star => rfl

theorem splitQualifier_last (h : WritesLast name t) (hr : Name.Stops r) (hp : r.head? ≠ some '.') :
    splitQualifier (t ++ r) = (none, t ++ r) := by
  cases h with
  | name h =>
    rw [splitQualifier, Name.read?_writes false h hr]
    split
    · next heq =>
      obtain ⟨-, rfl⟩ := Prod.mk.inj (Option.some.inj heq)
      exact absurd rfl hp
    · rfl
  | star => rfl

theorem Spells.splits (h : Spells ⟨q, name, none⟩ t) : Splits q name t := by
  intro r hr hp
  cases h with
  | plain h =>
    rw [splitQualifier_last h hr hp]
    exact ⟨rfl, name?_last h hr⟩
  | @qualified q _ s t hq h =>
    have hdot : Name.Stops ('.' :: (t ++ r)) := by
      intro c hc
      cases hc
      decide
    have hsplit : splitQualifier (s ++ '.' :: t ++ r) = (some q, t ++ r) := by
      rw [splitQualifier, List.append_assoc, List.cons_append, Name.read?_writes false hq hdot]
      rfl
    rw [hsplit]
    exact ⟨rfl, name?_last h hr⟩

theorem stops_arrow {scalar : Bool} : Name.Stops (arrow scalar ++ r) := by
  intro c hc
  cases scalar <;> cases hc <;> decide

theorem path?_quoted (p : Text) : path? (Text.quoted '\'' p) = some p := by
  have hq : Text.quotedRest? '\'' false (Text.escape '\'' p ++ ['\'']) = some (p, []) :=
    Text.quotedRest?_escape (by decide) false p []
  rw [Text.quoted, path?]
  simp [hq]

theorem Splits.read? (h : Splits q name t) : read? t = .ok (some ⟨q, name, none⟩) := by
  obtain ⟨hq, hname⟩ := h [] (fun _ hc => by cases hc) (by simp)
  rw [List.append_nil] at hq hname
  simp only [Column.read?, hname, hq]

theorem Splits.read?_path {p : Text} (scalar : Bool) (h : Splits q name t)
    (hp : p.head? = some '$') :
    Column.read? (t ++ (arrow scalar ++ Text.quoted '\'' p)) =
      .ok (some ⟨q, name, some ⟨p, scalar⟩⟩) := by
  have hdot : (arrow scalar ++ Text.quoted '\'' p).head? ≠ some '.' := by
    cases scalar <;> simp [arrow]
  obtain ⟨hq, hname⟩ := h _ stops_arrow hdot
  simp only [Column.read?, hname, hq]
  cases scalar with
  | true =>
    show withPath ⟨q, name, none⟩ true (Text.quoted '\'' p) = _
    simp [withPath, path?_quoted, hp]
  | false =>
    show withPath ⟨q, name, none⟩ false (Text.quoted '\'' p) = _
    simp [withPath, path?_quoted, hp]

theorem Spells.read? (h : Spells c t) : Column.read? t = .ok (some c) := by
  cases h with
  | plain h => exact (Spells.plain h).splits.read?
  | qualified hq h => exact (Spells.qualified hq h).splits.read?
  | path h hp => exact h.splits.read?_path _ hp

theorem read?_writes (h : Writes c t) : read? t = .ok (some c) := h.spells.read?

theorem not_isWildcard_of_writes (h : Writes c t) : c.isWildcard = false := by
  have ne {c : Column} (hne : c.name ≠ ['*']) : c.isWildcard = false := by
    simpa [isWildcard] using hne
  cases h with
  | plain h hne => exact ne hne
  | qualified hq h hne => exact ne hne
  | path h hp =>
    cases h with
    | plain h hne => exact ne hne
    | qualified hq h hne => exact ne hne

structure Formed (c : Column) : Prop where
  name : c.name ≠ []
  qualifier : ∀ q, c.qualifier = some q → q ≠ []
  path : ∀ p, c.path = some p → p.text.head? = some '$'

theorem ne_nil_of_splitQualifier (h : (splitQualifier t).1 = some name) : name ≠ [] := by
  unfold splitQualifier at h
  split at h
  · next hread =>
    cases h
    exact Name.ne_nil_of_read? hread
  · cases h

theorem ne_nil_of_name? (h : name? t = some (name, r)) : name ≠ [] := by
  unfold name? at h
  split at h
  · cases h
    simp
  · exact Name.ne_nil_of_read? h

theorem formed_of_read? (h : read? t = .ok (some c)) : c.Formed := by
  have withPath {d : Column} {scalar : Bool} {p : Text} (hd : d.Formed)
      (h : d.withPath scalar p = .ok (some c)) : c.Formed := by
    unfold Column.withPath at h
    split at h
    · cases h
    · split at h
      · next hp =>
        cases h
        refine ⟨hd.name, hd.qualifier, fun p hp' => ?_⟩
        cases hp'
        exact hp
      · cases h
  simp only [read?] at h
  split at h
  · cases h
  · next name rest hname =>
    have formed : Formed { qualifier := (splitQualifier t).1, name } :=
      ⟨ne_nil_of_name? hname, fun _ => ne_nil_of_splitQualifier, fun _ hp => by cases hp⟩
    split at h
    · cases h
      exact formed
    · exact withPath formed h
    · exact withPath formed h
    · exact withPath formed h
    · cases h

end Column

theorem Name.isWord_of_read? {multiline : Bool} {t r : Text} (h : read? multiline t = some (t, r)) :
    IsWord t := by
  obtain ⟨q, hq, ht⟩ := exists_of_read? h
  cases hq with
  | bare h => exact h
  | quoted _ hu =>
    have hle := hu.length_le
    have hlength := congrArg List.length ht
    simp only [List.length_append, List.length_cons] at hlength
    omega

theorem Column.isWord_of_read? {t : Text} {c : Column} (h : read? t = .ok (some c))
    (hp : c.isPlain = true) (hw : c.isWildcard = false) (hn : c.name = t) : Name.IsWord t := by
  have pathless {d : Column} {scalar : Bool} {p : Text} : d.withPath scalar p ≠ .ok (some c) := by
    intro h
    unfold Column.withPath at h
    split at h
    · cases h
    · split at h
      · cases h
        simp [isPlain] at hp
      · cases h
  simp only [read?] at h
  split at h
  · cases h
  · next name rest hname =>
    split at h
    · cases h
      have hq : (splitQualifier t).1 = none := by simpa [isPlain] using hp
      have hr : (splitQualifier t).2 = t := by
        unfold splitQualifier at hq ⊢
        split
        · next heq => simp [heq] at hq
        · rfl
      obtain rfl : name = t := hn
      rw [hr] at hname
      unfold name? at hname
      split at hname
      · cases hname
        cases hw
      · exact Name.isWord_of_read? hname
    · exact absurd h pathless
    · exact absurd h pathless
    · exact absurd h pathless
    · cases h

theorem Name.solid_of_isWord {t : Text} (h : Name.IsWord t) : Solid t := by
  have hword := h.isWordChar
  obtain ⟨c, r, rfl, -⟩ := h
  exact solid_chars (by simp) fun d hd =>
    ⟨not_special_of_isWordChar (hword d hd), isBlank_of_isWordChar (hword d hd)⟩

theorem Name.Writes.solid {name t : Text} (h : Name.Writes name t) : Solid t := by
  cases h with
  | bare h => exact solid_of_isWord h
  | quoted h => exact solid_quoted rfl (quotes_escape name)

theorem Column.Writes.solid {c : Column} {t : Text} (h : Column.Writes c t) : Solid t := by
  induction h with
  | plain h _ => exact h.solid
  | qualified hq h _ => exact hq.solid.dotted h.solid
  | @path q name p t scalar h hp ih =>
    have hquoted : Solid (Text.quoted '\'' p) := solid_quoted rfl (quotes_escape p)
    exact ih.append (solid_arrow scalar rfl hquoted)

end QueryShorthand
