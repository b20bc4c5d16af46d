import QueryShorthand.Proofs.Operand.Sound
import QueryShorthand.Text.UpperCase

/-! A text in upper case stays as it is when it is upper-cased again. -/
namespace QueryShorthand

/-- No character that the run yields lies where the other one begins to map. Runs of every second
character may interleave. -/
def UpperRun.avoids (r s : UpperRun) : Bool :=
  (s.last + 1).ble r.target || (r.target + (r.last - r.first) + 1).ble s.first ||
    (r.target % 2 != s.first % 2 && (r.step == 2 || r.first == r.last) && s.step == 2)

private theorem upperRuns_avoid :
    (upperRuns.all fun r => upperRuns.all fun s => r.avoids s) = true := by decide +kernel

private theorem upperSequences_avoid : (upperRuns.all fun r => upperSequences.all fun e =>
    (e.1 + 1).ble r.target || (r.target + (r.last - r.first) + 1).ble e.1) = true := by
  decide +kernel

private theorem upperSequences_upper : (upperSequences.all fun e => e.2.all fun n =>
    upperChar (Char.ofNat n) == [Char.ofNat n]) = true := by decide +kernel

private theorem upperRuns_upper : (upperRuns.all fun r => decide (128 ≤ r.target) ||
    r.first == r.last && upperChar (Char.ofNat r.target) == [Char.ofNat r.target]) = true := by
  decide +kernel

theorem UpperRun.not_covers_of_avoids {r s : UpperRun} (h : r.avoids s = true) {n : Nat}
    (hr : r.covers n = true) : s.covers (n - r.first + r.target) = false := by
  simp only [avoids, Bool.or_eq_true, Nat.ble_eq, Bool.and_eq_true, bne_iff_ne, beq_iff_eq] at h
  simp only [covers, Bool.and_eq_true, decide_eq_true_eq, beq_iff_eq] at hr
  obtain ⟨⟨hfirst, hlast⟩, hstep⟩ := hr
  by_contra hs
  simp only [covers, Bool.not_eq_false, Bool.and_eq_true, decide_eq_true_eq, beq_iff_eq] at hs
  obtain ⟨⟨hfirst', hlast'⟩, hstep'⟩ := hs
  rcases h with (h | h) | ⟨⟨hpar, hone⟩, htwo⟩
  · omega
  · omega
  · rw [htwo] at hstep'
    rcases hone with hone | hone
    · rw [hone] at hstep
      omega
    · omega

theorem upperChar_ofNat_of_not_lt {n : Nat} (h : 128 ≤ n)
    (hs : upperSequences.lookup n = none) (hr : ∀ r ∈ upperRuns, r.covers n = false) :
    upperChar (Char.ofNat n) = [Char.ofNat n] := by
  by_cases hv : n.isValidChar
  · have hn : (Char.ofNat n).toNat = n := by
      rw [Char.ofNat, dif_pos hv]
      rfl
    have hfind : upperRuns.find? (·.covers n) = none :=
      List.find?_eq_none.2 fun r hr' => by simp [hr r hr']
    rw [upperChar, hn, if_neg (by omega), hs, hfind]
  · rw [Char.ofNat, dif_neg hv]
    decide

theorem upperChar_of_mem {c d : Char} (h : d ∈ upperChar c) : upperChar d = [d] := by
  unfold upperChar at h
  split at h
  · next hc =>
    rw [List.mem_singleton.1 h]
    exact forall_ascii (p := fun c => upperChar c.toUpper = [c.toUpper]) (by decide) hc
  · next hc =>
    split at h
    · next codes hl =>
      obtain ⟨n, hn, rfl⟩ := List.mem_map.1 h
      obtain ⟨l, r, hs, -⟩ := List.lookup_eq_some_iff.1 hl
      have hm := List.all_eq_true.1 upperSequences_upper (c.toNat, codes) (by simp [hs])
      simpa using List.all_eq_true.1 hm n hn
    · next hl =>
      split at h
      · next r hr =>
        rw [List.mem_singleton.1 h]
        have hmem := List.mem_of_find?_eq_some hr
        have hcov : r.covers c.toNat = true := by simpa using List.find?_some hr
        have hlow := List.all_eq_true.1 upperRuns_upper r hmem
        simp only [Bool.or_eq_true, decide_eq_true_eq, Bool.and_eq_true, beq_iff_eq] at hlow
        rcases hlow with hlow | ⟨hone, hlow⟩
        · refine upperChar_ofNat_of_not_lt (by omega) ?_ fun s hs =>
            r.not_covers_of_avoids
              (List.all_eq_true.1 (List.all_eq_true.1 upperRuns_avoid r hmem) s hs) hcov
          refine List.lookup_eq_none_iff.2 fun e he => ?_
          have ha := List.all_eq_true.1 (List.all_eq_true.1 upperSequences_avoid r hmem) e he
          simp only [UpperRun.covers, Bool.and_eq_true, decide_eq_true_eq] at hcov
          simp only [Bool.or_eq_true, Nat.ble_eq] at ha
          simp only [bne_iff_ne, ne_eq]
          omega
        · have hz : c.toNat - r.first = 0 := by
            simp only [UpperRun.covers, Bool.and_eq_true, decide_eq_true_eq] at hcov
            omega
          simpa [hz] using hlow
      · next hr =>
        rw [List.mem_singleton.1 h, upperChar, if_neg hc, hl, hr]

namespace Text

theorem upper_eq_self {t : Text} (h : ∀ c ∈ t, upperChar c = [c]) : upper t = t := by
  induction t with
  | nil => rfl
  | cons c t ih =>
    rw [List.forall_mem_cons] at h
    have ih := ih h.2
    rw [upper] at ih ⊢
    rw [List.flatMap_cons, h.1, ih]
    rfl

theorem upper_upper (t : Text) : upper (upper t) = upper t := by
  refine upper_eq_self fun d hd => ?_
  obtain ⟨c, -, hd⟩ := List.mem_flatMap.1 hd
  exact upperChar_of_mem hd

end Text

end QueryShorthand
