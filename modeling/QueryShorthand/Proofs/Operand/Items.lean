import QueryShorthand.Proofs.Operand.Writing

/-! Lists with commas between single items, and with blanks around each. -/
namespace QueryShorthand.Operand

variable {s t u : Text}

def separated : List Text → List Token
  | [] => []
  | [t] => [.leaf t]
  | t :: u :: ts => .leaf t :: .combinator [','] :: separated (u :: ts)

theorem scans_joined {ts : List Text} (hne : ts ≠ []) (h : ∀ t ∈ ts, IsItem t) :
    commas.Scans [{}] false (Text.joined ", ".toList ts) (separated ts) := by
  have space : Text.Blank [' '] := Text.forall_mem_of_all (by decide)
  induction ts with
  | nil => exact absurd rfl hne
  | cons t ts ih =>
    obtain ⟨ht, hts⟩ := List.forall_mem_cons.1 h
    have hfirst : commas.Scans [{}] false t [.leaf t] := Cutter.read_eq_ok_iff.1 ht
    cases ts with
    | nil =>
      have htext : Text.joined ", ".toList [t] = t := by simp [Text.joined]
      rw [htext]
      exact hfirst
    | cons u us =>
      have htext : Text.joined ", ".toList (t :: u :: us) =
          t ++ ',' :: ' ' :: Text.joined ", ".toList (u :: us) := by
        simp [Text.joined, List.intercalate_cons_cons]
      have hrest : commas.Scans [{}] false (' ' :: Text.joined ", ".toList (u :: us))
          (separated (u :: us)) :=
        (inside_blank usual_commas space).scans ((ih (by simp) hts).padded space)
      rw [htext]
      exact scans_comma hfirst hrest (by simp)

variable {α : Type} {slot : Token → Slot (Except Error α)} {read : Text → Except Error α}
  {ts : List Text} {xs : List α}

theorem alternates_separated (hmark : ∀ s, slot (.combinator s) = .mark s)
    (hitem : ∀ t, slot (.leaf t) = .item fun _ => read t)
    (h : List.Forall₂ (fun t x => read t = .ok x) ts xs) (hne : ts ≠ []) (before : Option Text) :
    Slot.Alternates before ((separated ts).map slot) xs := by
  induction h generalizing before with
  | nil => exact absurd rfl hne
  | @cons t x ts xs ht hts ih =>
    cases hts with
    | nil =>
      rw [separated, List.map_singleton, hitem]
      exact .last ht
    | cons hu hus =>
      rw [separated, List.map_cons, List.map_cons, hitem, hmark]
      exact .more ht (ih (by simp) _)

theorem items_of_scans (hmark : ∀ s, slot (.combinator s) = .mark s)
    (hitem : ∀ t, slot (.leaf t) = .item fun _ => read t)
    (h : List.Forall₂ (fun t x => read t = .ok x) ts xs)
    (hs : commas.Scans [{}] false s (separated ts)) :
    (Token.read [[',']] s >>= fun tokens => Slot.items (tokens.map slot)) = .ok xs := by
  rw [Cutter.read_eq_ok_iff.2 hs]
  by_cases hne : ts = []
  · subst hne
    cases h
    rfl
  · exact Slot.items_eq_ok_iff.2 (.inr (alternates_separated hmark hitem h hne none))

theorem items_joined (hmark : ∀ s, slot (.combinator s) = .mark s)
    (hitem : ∀ t, slot (.leaf t) = .item fun _ => read t) (ht : ∀ t ∈ ts, IsItem t)
    (h : List.Forall₂ (fun t x => read t = .ok x) ts xs) :
    (Token.read [[',']] (Text.joined ", ".toList ts) >>= fun tokens =>
      Slot.items (tokens.map slot)) =
      .ok xs := by
  refine items_of_scans hmark hitem h ?_
  by_cases hne : ts = []
  · subst hne
    exact (inside_blank usual_commas Text.blank_nil).blank Text.blank_nil.trim
  · exact scans_joined hne ht

theorem writtenAll_eq_joined (os : List Operand) :
    writtenAll os = Text.joined ", ".toList (os.map written) := by
  induction os with
  | nil => rfl
  | cons o os ih =>
    cases os with
    | nil => simp [writtenAll, Text.joined]
    | cons p os =>
      rw [writtenAll, ih]
      · simp [Text.joined, List.intercalate_cons_cons]
      · simp

theorem arguments_writtenAll {os : List Operand}
    (h : ∀ o ∈ os, IsItem o.written ∧ argument o.written = .ok o) :
    arguments (writtenAll os) = .ok os := by
  rw [writtenAll_eq_joined]
  refine items_joined (fun _ => rfl) (fun _ => rfl) ?_ ?_
  · exact List.forall_mem_map.2 fun o ho => (h o ho).1
  · exact List.forall₂_map_left_iff.2 (List.forall₂_same.2 fun o ho => (h o ho).2)

inductive CommaList : List Text → Text → Prop where
  | none {b : Text} (hb : b.Blank) : CommaList [] b
  | last {b b' : Text} (s : Text) (hb : b.Blank) (hb' : b'.Blank) : CommaList [s] (b ++ (s ++ b'))
  | more {b b' u s' : Text} {ss : List Text} (s : Text) (hb : b.Blank) (hb' : b'.Blank)
      (hs : CommaList (s' :: ss) u) : CommaList (s :: s' :: ss) (b ++ (s ++ b') ++ ',' :: u)

namespace CommaList

theorem balanced (h : CommaList ts t) (hp : ∀ s ∈ ts, Part s) : Balanced '(' ')' t := by
  induction h with
  | none hb => exact balanced_blank hb
  | last s hb hb' => exact (hp s List.mem_cons_self).balanced_padded hb hb'
  | more s hb hb' _ ih =>
    obtain ⟨hs, hp⟩ := List.forall_mem_cons.1 hp
    have hcomma : Balanced '(' ')' [','] := balanced_char (by decide) (by decide) (by decide)
    exact (hs.balanced_padded hb hb').append (hcomma.append (ih hp))

theorem head?_ne (h : CommaList ts t) (hp : ∀ s ∈ ts, Part s) : t.head? ≠ some '=' := by
  cases h with
  | none hb => exact (listed_none hb).head
  | last s hb hb' => exact (hp s List.mem_cons_self).head?_padded hb _
  | more s hb hb' _ =>
    have hs := hp s List.mem_cons_self
    rw [List.head?_append_of_ne_nil _ (by simp [hs.ne_nil])]
    exact hs.head?_padded hb _

theorem scans (h : CommaList ts t) (hp : ∀ s ∈ ts, Part s) :
    commas.Scans [{}] false t (separated ts) := by
  induction h with
  | none hb => exact (inside_blank usual_commas hb).blank hb.trim
  | last s hb hb' => exact (hp s List.mem_cons_self).scans_padded hb hb'
  | more s hb hb' hs ih =>
    obtain ⟨hfirst, hp⟩ := List.forall_mem_cons.1 hp
    exact scans_comma (hfirst.scans_padded hb hb') (ih hp) (hs.head?_ne hp)

end CommaList

/-- Solid texts with commas between them and blanks around each. -/
inductive WritesList : List Text → Text → Prop where
  | none {b : Text} (hb : b.Blank) : WritesList [] b
  | last {b s b' : Text} (hb : b.Blank) (h : Solid s) (hb' : b'.Blank) :
      WritesList [s] (b ++ (s ++ b'))
  | more {b s s' b' u : Text} {ss : List Text} (hb : b.Blank) (h : Solid s) (hb' : b'.Blank)
      (hs : WritesList (s' :: ss) u) : WritesList (s :: s' :: ss) (b ++ (s ++ b') ++ ',' :: u)

namespace WritesList

theorem commaList (h : WritesList ts t) : CommaList ts t := by
  induction h with
  | none hb => exact .none hb
  | last hb _ hb' => exact .last _ hb hb'
  | more hb _ hb' _ ih => exact .more _ hb hb' ih

theorem parts (h : WritesList ts t) : ∀ s ∈ ts, Part s := by
  induction h with
  | none => simp
  | last _ h _ => simpa using part_of_solid h
  | more _ h _ _ ih => exact List.forall_mem_cons.2 ⟨part_of_solid h, ih⟩

theorem balanced (h : WritesList ts t) : Balanced '(' ')' t := h.commaList.balanced h.parts

theorem scans (h : WritesList ts t) : commas.Scans [{}] false t (separated ts) :=
  h.commaList.scans h.parts

end WritesList

end QueryShorthand.Operand
