import QueryShorthand.Proofs.Operand.Names

/-! Texts that may stand as the parts of a list: they are never cut at its commas, nor their
parentheses or ends taken for those of the list. -/
namespace QueryShorthand.Operand

variable {s t u b b' : Text}

def commas : Cutter := .delimiters [[',']]

theorem marks_commas : commas.marks = [[',']] := by decide

theorem single_commas : commas.Single := by
  intro m hm
  rw [marks_commas, List.mem_singleton] at hm
  rw [hm]
  rfl

theorem usual_commas : commas.Usual := by
  constructor
  · intro m hm
    rw [marks_commas, List.mem_singleton] at hm
    rw [hm]
    decide
  · intro m hm
    rw [marks_commas, List.mem_singleton] at hm
    rw [hm]
    decide

theorem scans_comma {word : Bool} {s u : Text} {ts us : List Token}
    (hs : commas.Scans [{}] word s ts) (hu : commas.Scans [{}] false u us)
    (h : u.head? ≠ some '=') :
    commas.Scans [{}] word (s ++ ',' :: u) (ts ++ .combinator [','] :: us) := by
  have hspan (w : Bool) : span? w ',' u = .ok Option.none :=
    span?_of_not_startsSpan (by decide)
  have hfollow : (!commas.groups || u.head? != some '=') = true := by simpa using .inr h
  have hmark : commas.mark? (',' :: u) = some ([','], u) := by
    simp [Cutter.mark?, marks_commas, firstMark, Text.after?, hfollow]
  exact hs.joined single_commas hspan hmark (fun w => by simp [Cutter.Groups]) (by decide) hu

theorem balanced_blank (hb : b.Blank) : Balanced '(' ')' b :=
  balanced_not_special fun c hc => not_special_of_isBlank (hb c hc)

def IsItem (t : Text) : Prop := Token.read [[',']] t = .ok [.leaf t]

/-- A text that neither begins nor ends with a blank and is never cut at commas. -/
structure Entry (t : Text) : Prop where
  head : ∃ c r, t = c :: r ∧ isBlank c = false
  last : ∃ c, t.getLast? = some c ∧ isBlank c = false
  inside : ∀ word, commas.Inside word t

theorem Entry.spaced (hs : Entry s) (hb : b.Blank) (ht : Entry t) : Entry (s ++ (b ++ t)) where
  head := by
    obtain ⟨c, r, rfl, hc⟩ := hs.head
    exact ⟨c, r ++ (b ++ t), rfl, hc⟩
  last := by
    obtain ⟨c, hc, hblank⟩ := ht.last
    exact ⟨c, by rw [List.getLast?_append, List.getLast?_append, hc]; rfl, hblank⟩
  inside word := (hs.inside word).append ((inside_blank usual_commas hb).append (ht.inside _))

theorem Entry.trim (h : Entry t) : t.trim = t := by
  obtain ⟨c, r, rfl, hc⟩ := h.head
  obtain ⟨d, hd, hb⟩ := h.last
  exact Text.trim_of_ends rfl hc hd hb

theorem Entry.ne_nil (h : Entry t) : t ≠ [] := by
  obtain ⟨c, r, rfl, -⟩ := h.head
  simp

theorem Entry.isItem (h : Entry t) : IsItem t := by
  have hleaf := (h.inside false).leaf (by rw [h.trim]; exact h.ne_nil)
  rw [h.trim] at hleaf
  exact Cutter.read_eq_ok_iff.2 hleaf

theorem Entry.scans_padded (h : Entry s) (hb : b.Blank) (hb' : b'.Blank) :
    commas.Scans [{}] false (b ++ (s ++ b')) [.leaf s] := by
  have htrim : (b ++ (s ++ b')).trim = s := by rw [Text.trim_padded hb hb', h.trim]
  have hinside : commas.Inside false (b ++ (s ++ b')) :=
    (inside_blank usual_commas hb).append ((h.inside _).append (inside_blank usual_commas hb'))
  have hleaf := hinside.leaf (by rw [htrim]; exact h.ne_nil)
  rwa [htrim] at hleaf

theorem entry_of_solid (h : Solid t) : Entry t where
  head := by
    obtain ⟨c, r, rfl, hc, -⟩ := h.head
    exact ⟨c, r, rfl, hc⟩
  last := h.last
  inside _ := h.inside usual_commas

theorem inside_commas (h : ∀ c ∈ t, c ∉ ",\\'\"\x60[(-)".toList) (word : Bool) :
    commas.Inside word t := by
  induction t generalizing word with
  | nil => exact .nil
  | cons c t ih =>
    obtain ⟨hc, ht⟩ := List.forall_mem_cons.1 h
    have hspan : startsSpan c = false := by
      by_contra hs
      simp only [startsSpan, isQuote, Bool.not_eq_false, Bool.or_eq_true, beq_iff_eq] at hs
      rcases hs with (((rfl | (rfl | rfl) | rfl) | rfl) | rfl) | rfl <;> exact hc (by decide)
    refine .plain ?_ (fun _ => span?_of_not_startsSpan hspan) (fun v => ?_) (ih ht _)
    · rintro ⟨-, ⟨rfl, -⟩ | rfl⟩ <;> exact hc (by decide)
    · refine Cutter.mark?_eq_none fun m hm r heq => ?_
      rw [marks_commas, List.mem_singleton] at hm
      rw [hm] at heq
      obtain ⟨rfl, -⟩ := List.cons.inj heq
      exact hc (by decide)

theorem entry_chars (hne : t ≠ []) (h : ∀ c ∈ t, c ∉ ",\\'\"\x60[(-)".toList ∧ isBlank c = false) :
    Entry t where
  head := by
    obtain ⟨c, r, rfl⟩ := List.exists_cons_of_ne_nil hne
    exact ⟨c, r, rfl, (h c List.mem_cons_self).2⟩
  last := ⟨_, List.getLast?_eq_some_getLast hne, (h _ (List.getLast_mem hne)).2⟩
  inside := inside_commas fun c hc => (h c hc).1

/-- An entry that may stand between parentheses and behind a comma. -/
structure Part (t : Text) : Prop extends Entry t where
  balanced : Balanced '(' ')' t
  continues : t.head? ≠ some '='

theorem part_of_solid (h : Solid t) : Part t where
  toEntry := entry_of_solid h
  balanced := h.balanced
  continues := by
    have hhead : ([] ++ (t ++ [])).head? ≠ some '=' := h.head?_padded Text.blank_nil (by decide)
    rwa [List.nil_append, List.append_nil] at hhead

theorem Part.spaced (hs : Part s) (hb : b.Blank) (ht : Part t) : Part (s ++ (b ++ t)) where
  toEntry := hs.toEntry.spaced hb ht.toEntry
  balanced := hs.balanced.append ((balanced_blank hb).append ht.balanced)
  continues := by
    obtain ⟨c, r, rfl, -⟩ := hs.head
    exact hs.continues

theorem Part.append (hs : Part s) (ht : Part t) : Part (s ++ t) := hs.spaced Text.blank_nil ht

theorem part_star : Part ['*'] where
  toEntry := entry_chars (by decide) (Text.forall_mem_of_all (by decide))
  balanced := balanced_char (by decide) (by decide) (by decide)
  continues := by decide

namespace Part

theorem balanced_padded (h : Part s) (hb : b.Blank) (hb' : b'.Blank) :
    Balanced '(' ')' (b ++ (s ++ b')) :=
  (balanced_blank hb).append (h.balanced.append (balanced_blank hb'))

theorem head?_padded (h : Part s) (hb : b.Blank) (b' : Text) :
    (b ++ (s ++ b')).head? ≠ some '=' := by
  obtain ⟨c, r, rfl, -⟩ := h.head
  cases b with
  | nil => exact h.continues
  | cons d b =>
    intro hd
    cases hd
    exact absurd (hb '=' List.mem_cons_self) (by decide)

end Part

end QueryShorthand.Operand

namespace QueryShorthand.Column

open Operand (Part part_of_solid part_star)

variable {c : Column} {name t : Text}

theorem WritesLast.part (h : WritesLast name t) : Part t := by
  cases h with
  | name h => exact part_of_solid h.solid
  | star => exact part_star

theorem Spells.part (h : Spells c t) : Part t := by
  induction h with
  | plain h => exact h.part
  | qualified hq h =>
    have hdot : Solid ['.'] := solid_chars (by simp) (Text.forall_mem_of_all (by decide))
    exact (part_of_solid hq.solid).append ((part_of_solid hdot).append h.part)
  | @path q name p t scalar h hp ih =>
    have hquoted : Solid (Text.quoted '\'' p) := solid_quoted rfl (quotes_escape p)
    exact ih.append (part_of_solid (solid_arrow scalar rfl hquoted))

end QueryShorthand.Column
