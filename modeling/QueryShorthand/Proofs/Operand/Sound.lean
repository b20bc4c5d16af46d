import QueryShorthand.Proofs.Operand.Reading
import QueryShorthand.Proofs.Value.Shape

/-! Operands that become closed SQL: function names hold no quote, parenthesis or blank, and written
arrays hold no statement. -/
namespace QueryShorthand

open Sql (isGlyph)

theorem forall_ascii {p : Char → Prop} (h : ∀ n : Fin 128, p (Char.ofNat n)) {c : Char}
    (hc : c.toNat < 128) : p c := by
  simpa using h ⟨c.toNat, hc⟩

theorem isGlyph_of_isWordChar {c : Char} (h : isWordChar c = true) : isGlyph c = true := by
  by_contra hc
  simp only [isGlyph, Bool.not_eq_true, Bool.and_eq_false_iff, bne_eq_false_iff_eq] at hc
  rcases hc with ((((rfl | rfl) | rfl) | rfl) | rfl) | rfl <;> exact absurd h (by decide)

theorem isGlyph_of_toNat {c : Char} (h : 128 ≤ c.toNat) : isGlyph c = true := by
  by_contra hc
  simp only [isGlyph, Bool.not_eq_true, Bool.and_eq_false_iff, bne_eq_false_iff_eq] at hc
  rcases hc with ((((rfl | rfl) | rfl) | rfl) | rfl) | rfl <;> exact absurd h (by decide)

theorem isGlyph_ofNat {n : Nat} (h : 128 ≤ n) : isGlyph (Char.ofNat n) = true := by
  by_cases hv : n.isValidChar
  · apply isGlyph_of_toNat
    rw [Char.ofNat, dif_pos hv]
    exact h
  · rw [Char.ofNat, dif_neg hv]
    decide

theorem isGlyph_toUpper {c : Char} (h : isWordChar c = true) (hc : c.toNat < 128) :
    isGlyph c.toUpper = true :=
  forall_ascii (p := fun c => isWordChar c = true → isGlyph c.toUpper = true) (by decide) hc h

private theorem upperSequences_glyphs :
    (upperSequences.all fun e => e.2.all fun n => isGlyph (Char.ofNat n)) = true := by decide

/-- A run that reaches ASCII is a single character. -/
private theorem upperRuns_glyphs : (upperRuns.all fun r =>
    decide (128 ≤ r.target) || (r.first == r.last && isGlyph (Char.ofNat r.target))) = true := by
  decide

theorem isGlyph_of_upperRun {r : UpperRun} (hr : r ∈ upperRuns) {n : Nat} (hn : r.covers n = true) :
    isGlyph (Char.ofNat (n - r.first + r.target)) = true := by
  have h := List.all_eq_true.1 upperRuns_glyphs r hr
  simp only [UpperRun.covers, Bool.and_eq_true, decide_eq_true_eq] at hn
  simp only [Bool.or_eq_true, decide_eq_true_eq, Bool.and_eq_true, beq_iff_eq] at h
  rcases h with h | ⟨h, hg⟩
  · exact isGlyph_ofNat (by omega)
  · have hz : n - r.first = 0 := by omega
    simpa [hz] using hg

theorem isGlyph_of_mem_upperChar {c x : Char} (h : isWordChar c = true) (hx : x ∈ upperChar c) :
    isGlyph x = true := by
  unfold upperChar at hx
  split at hx
  · next hc =>
    rw [List.mem_singleton.1 hx]
    exact isGlyph_toUpper h hc
  · split at hx
    · next codes hl =>
      obtain ⟨n, hn, rfl⟩ := List.mem_map.1 hx
      obtain ⟨l, r, hs, -⟩ := List.lookup_eq_some_iff.1 hl
      have hm := List.all_eq_true.1 upperSequences_glyphs (c.toNat, codes) (by simp [hs])
      exact List.all_eq_true.1 hm n hn
    · split at hx
      · next r hr =>
        rw [List.mem_singleton.1 hx]
        exact isGlyph_of_upperRun (List.mem_of_find?_eq_some hr) (by simpa using List.find?_some hr)
      · rw [List.mem_singleton.1 hx]
        exact isGlyph_of_isWordChar h

theorem all_isGlyph_upper {t : Text} (h : t.all isWordChar = true) :
    (Text.upper t).all isGlyph = true := by
  refine List.all_eq_true.2 fun x hx => ?_
  obtain ⟨c, hc, hx⟩ := List.mem_flatMap.1 hx
  exact isGlyph_of_mem_upperChar (List.all_eq_true.1 h c hc) hx

theorem toNat_lt_of_isStart {c : Char} (h : Name.isStart c = true) : c.toNat < 128 := by
  simp only [Name.isStart, Bool.or_eq_true, beq_iff_eq] at h
  rcases h with h | rfl
  · change (decide (c.val ≥ 65 ∧ c.val ≤ 90) ||
      decide (c.val ≥ 97) && decide (c.val ≤ 122)) = true at h
    simp only [Bool.or_eq_true, Bool.and_eq_true, decide_eq_true_eq, ge_iff_le,
      UInt32.le_iff_toNat_le] at h
    change (65 ≤ c.toNat ∧ c.toNat ≤ 90) ∨ (97 ≤ c.toNat ∧ c.toNat ≤ 122) at h
    omega
  · decide

theorem isWordChar_of_isStart {c : Char} (h : Name.isStart c = true) : isWordChar c = true := by
  rw [isWordChar_of_lt c (toNat_lt_of_isStart h)]
  simp only [Name.isStart, Bool.or_eq_true, beq_iff_eq] at h
  rcases h with h | rfl
  · simp [Char.isAlphanum, h]
  · rfl

theorem all_isWordChar_of_word? {t name r : Text} (h : Name.word? t = some (name, r)) :
    name.all isWordChar = true := by
  cases t with
  | nil => cases h
  | cons c u =>
    simp only [Name.word?] at h
    split at h
    · next hc =>
      cases h
      rw [List.all_cons, isWordChar_of_isStart hc, Bool.true_and, List.all_takeWhile]
    · cases h

theorem all_isWordChar_of_call? {t name args : Text} (h : Operand.call? t = some (name, args)) :
    name.all isWordChar = true := by
  unfold Operand.call? at h
  split at h
  · next hw =>
    split at h
    · cases h
      exact all_isWordChar_of_word? hw
    · cases h
  · cases h

namespace Value

theorem holdsStatement_ofNumber (n : Json.Number) : (ofNumber n).holdsStatement = false := by
  cases n with
  | natural n =>
    simp only [ofNumber]
    split <;> rfl
  | negative => rfl
  | float => rfl

mutual

theorem holdsStatement_ofJson : ∀ j : Json, (ofJson j).holdsStatement = false
  | .null => rfl
  | .bool _ => rfl
  | .number n => holdsStatement_ofNumber n
  | .text _ => rfl
  | .array items => anyHoldsStatement_ofJsonAll items
  | .object _ => rfl

theorem anyHoldsStatement_ofJsonAll : ∀ js : List Json, anyHoldsStatement (ofJsonAll js) = false
  | [] => rfl
  | j :: js => by
    rw [ofJsonAll, anyHoldsStatement, holdsStatement_ofJson j, anyHoldsStatement_ofJsonAll js]
    rfl

end

end Value

namespace Operand

mutual

def Sound : Operand → Prop
  | call name args => name.all isGlyph = true ∧ SoundAll args
  | array values => Value.anyHoldsStatement values = false
  | _ => True

def SoundAll : List Operand → Prop
  | [] => True
  | o :: os => o.Sound ∧ SoundAll os

end

theorem soundAll_iff {os : List Operand} : SoundAll os ↔ ∀ o ∈ os, o.Sound := by
  induction os with
  | nil => simp [SoundAll]
  | cons o os ih => simp [SoundAll, ih]

theorem sound_of_simple? {t : Text} {o : Operand} (h : simple? t = .ok (some o)) : o.Sound := by
  simp only [simple?] at h
  split at h
  · cases h
  split at h
  · cases h
    trivial
  split at h
  · cases h
    trivial
  split at h
  · cases h
    unfold ofBracketed
    split
    · exact Value.anyHoldsStatement_ofJsonAll _
    · trivial
  split at h
  · cases h
    trivial
  split at h
  · cases h
    trivial
  split at h
  · cases h
    trivial
  split at h
  · cases h
  · split at h <;> cases h
    trivial
  · cases h

theorem sound_of_read {t : Text} {o : Operand} (h : read t = .ok o) : o.Sound := by
  refine read_induction (P := Sound) (fun _ _ _ => trivial) (fun _ _ => sound_of_simple?) ?_ h
  intro t name args os hc hos
  exact ⟨all_isGlyph_upper (all_isWordChar_of_call? hc), soundAll_iff.2 hos⟩

end Operand

end QueryShorthand
