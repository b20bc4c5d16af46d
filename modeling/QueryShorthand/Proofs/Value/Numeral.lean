import QueryShorthand.Number.Shortest
import QueryShorthand.Proofs.Sql.Fragment

namespace QueryShorthand

def isNumeral (c : Char) : Bool := isDigit c || c == '.' || c == '-'

theorem isDigit_of_isDigit {c : Char} (h : c.isDigit = true) : isDigit c = true := by
  simp only [Char.isDigit, Bool.and_eq_true, decide_eq_true_eq, ge_iff_le] at h
  simp only [isDigit, Bool.and_eq_true, decide_eq_true_eq]
  exact ⟨h.1, h.2⟩

theorem isDigit_of_mem_ofNat {n : Nat} {c : Char} (h : c ∈ Text.ofNat n) : isDigit c = true :=
  isDigit_of_isDigit (Nat.isDigit_of_mem_toDigits (by decide) (by decide) h)

theorem isNumeral_of_isDigit {c : Char} (h : isDigit c = true) : isNumeral c = true := by
  simp [isNumeral, h]

theorem isNumeral_of_mem_ofNat {n : Nat} {c : Char} (h : c ∈ Text.ofNat n) : isNumeral c = true :=
  isNumeral_of_isDigit (isDigit_of_mem_ofNat h)

theorem isNumeral_of_mem_ofInt {n : Int} {c : Char} (h : c ∈ Text.ofInt n) :
    isNumeral c = true := by
  unfold Text.ofInt at h
  split at h
  · rcases List.mem_cons.1 h with rfl | h
    · rfl
    · exact isNumeral_of_mem_ofNat h
  · exact isNumeral_of_mem_ofNat h

theorem isNumeral_of_mem_positional {d : Decimal} {c : Char} (h : c ∈ d.positional) :
    isNumeral c = true := by
  have zeros {k : Nat} (h : c ∈ List.replicate k '0') : isNumeral c = true := by
    rw [List.eq_of_mem_replicate h]
    rfl
  have magnitude {t : Text} (ht : c ∈ t → isNumeral c = true)
      (h : c ∈ if d.negative then '-' :: t else t) : isNumeral c = true := by
    split at h
    · rcases List.mem_cons.1 h with rfl | h
      · rfl
      · exact ht h
    · exact ht h
  refine magnitude (fun h => ?_) h
  split at h
  · exact (List.mem_append.1 h).elim isNumeral_of_mem_ofNat zeros
  · have padded
        (h : c ∈ List.replicate ((-d.exponent).toNat + 1 - (Text.ofNat d.coefficient).length)
        '0' ++ Text.ofNat d.coefficient) : isNumeral c = true :=
      (List.mem_append.1 h).elim zeros isNumeral_of_mem_ofNat
    rcases List.mem_append.1 h with h | h
    · exact padded (List.mem_of_mem_take h)
    · rcases List.mem_cons.1 h with rfl | h
      · rfl
      · exact padded (List.mem_of_mem_drop h)

/-- A finite number is written without an exponent and without words. -/
theorem isNumeral_of_mem_text {x : Binary64} (hx : x.isFinite = true) {c : Char} (h : c ∈ x.text) :
    isNumeral c = true := by
  have hn : x.isNaN = false := by
    simp only [Binary64.isFinite, decide_eq_true_eq] at hx
    simp only [Binary64.isNaN, Bool.and_eq_false_iff, beq_eq_false_iff_ne]
    left
    omega
  simp only [Binary64.text, hn, hx, Bool.false_eq_true, if_false, if_true] at h
  exact isNumeral_of_mem_positional h

namespace Sql

theorem isGlyph_of_isDigit {c : Char} (h : isDigit c = true) : isGlyph c = true := by
  simp only [isGlyph, Bool.and_eq_true, bne_iff_ne, ne_eq]
  refine ⟨⟨⟨⟨⟨?_, ?_⟩, ?_⟩, ?_⟩, ?_⟩, ?_⟩ <;>
  · rintro rfl
    exact absurd h (by decide)

theorem isGlyph_of_isNumeral {c : Char} (h : isNumeral c = true) : isGlyph c = true := by
  simp only [isNumeral, Bool.or_eq_true, beq_iff_eq] at h
  rcases h with (h | rfl) | rfl
  · exact isGlyph_of_isDigit h
  · decide
  · decide

theorem all_isGlyph_of_all_isDigit {t : Text} (h : t.all isDigit = true) : t.all isGlyph = true :=
  List.all_eq_true.2 fun c hc => isGlyph_of_isDigit (List.all_eq_true.1 h c hc)

theorem all_isGlyph_of_signed {t : Text} (h : (signed t).2.all isGlyph = true) :
    t.all isGlyph = true := by
  unfold signed at h
  split at h
  · rw [List.all_cons, h]
    decide
  · rw [List.all_cons, h]
    decide
  · exact h

theorem all_isGlyph_of_exponentOf? {t : Text} {e : Int} (h : Decimal.exponentOf? t = some e) :
    t.all isGlyph = true := by
  cases t with
  | nil => rfl
  | cons c r =>
    simp only [Decimal.exponentOf?] at h
    split at h
    · next hc =>
      obtain ⟨hc, -, hd⟩ := hc
      rw [List.all_cons, all_isGlyph_of_signed (all_isGlyph_of_all_isDigit hd)]
      rcases hc with rfl | rfl <;> decide
    · cases h

theorem all_isGlyph_of_dropWhile {t : Text} (h : (t.dropWhile isDigit).all isGlyph = true) :
    t.all isGlyph = true := by
  rw [← List.takeWhile_append_dropWhile (p := isDigit) (l := t), List.all_append, h, Bool.and_true]
  exact all_isGlyph_of_all_isDigit List.all_takeWhile

theorem all_isGlyph_of_decimal {t : Text} {n : Decimal} (h : Decimal.read? t = some n) :
    t.all isGlyph = true := by
  have exponent {p : Prop} [Decidable p] {rest : Text} {f : Int → Decimal}
      (h : (if p then none else (Decimal.exponentOf? rest).map f) = some n) :
      rest.all isGlyph = true := by
    split at h
    · cases h
    · obtain ⟨e, he, -⟩ := Option.map_eq_some_iff.1 h
      exact all_isGlyph_of_exponentOf? he
  apply all_isGlyph_of_signed
  apply all_isGlyph_of_dropWhile
  simp only [Decimal.read?] at h
  split at h
  · next r hr =>
    rw [hr, List.all_cons, all_isGlyph_of_dropWhile (exponent h)]
    decide
  · exact exponent h

end Sql

end QueryShorthand
