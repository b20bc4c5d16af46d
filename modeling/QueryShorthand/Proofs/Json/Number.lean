import QueryShorthand.Json.Printer
import QueryShorthand.Json.Reader
import QueryShorthand.Proofs.Value.Numeral

/-! Numbers of a document, read again in front of anything that may follow a value. -/
namespace QueryShorthand.Json

variable {lenient : Bool} {r t : Text}

def Follows (r : Text) : Prop := ∀ c, r.head? = some c → c = ',' ∨ c = ']' ∨ c = '\x7d'

theorem follows_nil : Follows [] := fun _ h => by cases h

theorem follows_cons {c : Char} (h : c = ',' ∨ c = ']' ∨ c = '\x7d') : Follows (c :: r) := by
  intro d hd
  cases hd
  exact h

theorem isDigit_follows (h : Follows r) : r.takeWhile isDigit = [] ∧ r.dropWhile isDigit = r := by
  cases r with
  | nil => exact ⟨rfl, rfl⟩
  | cons c r =>
    have hc : isDigit c = false := by rcases h c rfl with rfl | rfl | rfl <;> decide
    simp [hc]

theorem exponent?_follows (h : Follows r) : exponent? r = some (none, r) := by
  cases r with
  | nil => rfl
  | cons c r =>
    have hc : ¬ (c = 'e' ∨ c = 'E') := by rcases h c rfl with rfl | rfl | rfl <;> decide
    rw [exponent?, if_neg hc]

theorem takeWhile_ofNat (n : Nat) (h : Follows r) :
    (Text.ofNat n ++ r).takeWhile isDigit = Text.ofNat n := by
  rw [List.takeWhile_append_of_pos (fun _ => isDigit_of_mem_ofNat), (isDigit_follows h).1,
    List.append_nil]

theorem dropWhile_ofNat (n : Nat) (h : Follows r) : (Text.ofNat n ++ r).dropWhile isDigit = r := by
  rw [List.dropWhile_append_of_pos (fun _ => isDigit_of_mem_ofNat), (isDigit_follows h).2]

theorem ofNat_ne_nil (n : Nat) : Text.ofNat n ≠ [] := Nat.toDigits_ne_nil

theorem ofDigitChars_ofNat (n : Nat) : Nat.ofDigitChars 10 (Text.ofNat n) 0 = n :=
  Nat.ofDigitChars_ten_toDigits

theorem ofNat_head (n : Nat) (h : (Text.ofNat n).head? = some '0') : Text.ofNat n = ['0'] := by
  induction n using Nat.strongRecOn with
  | ind n ih =>
    have hdigits : Text.ofNat n =
        if n < 10 then [n.digitChar] else Text.ofNat (n / 10) ++ [(n % 10).digitChar] :=
      Nat.toDigits_eq_if (by decide)
    rw [hdigits] at h ⊢
    split at h
    · next hlt =>
      rw [if_pos hlt]
      rw [Option.some.inj h]
    · next hlt =>
      rw [List.head?_append_of_ne_nil _ (ofNat_ne_nil _)] at h
      have hq := ih (n / 10) (by omega) h
      have hzero := ofDigitChars_ofNat (n / 10)
      rw [hq] at hzero
      have hz : n / 10 = 0 := hzero.symm
      omega

theorem le_ofDigitChars (ds : Text) (n : Nat) : n ≤ Nat.ofDigitChars 10 ds n := by
  induction ds generalizing n with
  | nil => simp
  | cons c ds ih =>
    rw [Nat.ofDigitChars_cons]
    have := ih (10 * n + (c.toNat - '0'.toNat))
    omega

theorem absorb_eq {ds : Text} {n k : Nat} (h : Nat.ofDigitChars 10 ds n < 18446744073709551616) :
    absorb n k ds = (Nat.ofDigitChars 10 ds n, k + ds.length) := by
  induction ds generalizing n k with
  | nil => simp [absorb]
  | cons c ds ih =>
    have hcons : Nat.ofDigitChars 10 (c :: ds) n =
        Nat.ofDigitChars 10 ds (10 * n + (c.toNat - 48)) := Nat.ofDigitChars_cons
    rw [hcons] at h ⊢
    have hle := le_ofDigitChars ds (10 * n + (c.toNat - 48))
    rw [absorb, if_pos (by omega), ih h, List.length_cons]
    congr 1
    omega

theorem absorb_ofNat {n : Nat} (h : n < 18446744073709551616) :
    absorb 0 0 (Text.ofNat n) = (n, (Text.ofNat n).length) := by
  have hn := ofDigitChars_ofNat n
  rw [absorb_eq (by rw [hn]; exact h), hn, Nat.zero_add]

theorem ofNat_ne_minus (n : Nat) (t : Text) : Text.ofNat n ++ r ≠ '-' :: t := by
  intro h
  obtain ⟨d, ds, hd⟩ := List.exists_cons_of_ne_nil (ofNat_ne_nil n)
  have hdigit : isDigit d = true := isDigit_of_mem_ofNat (n := n) (by simp [hd])
  rw [hd] at h
  obtain ⟨rfl, -⟩ := List.cons.inj h
  exact absurd hdigit (by decide)

theorem number?_integer (negative : Bool) {n : Nat} {x : Number} (hn : n < 18446744073709551616)
    (hx : numberOfInteger? negative n = some x) (h : Follows r) :
    number? lenient ((if negative then ['-'] else []) ++ (Text.ofNat n ++ r)) = some (x, r) := by
  unfold number?
  split
  next negative' t' hs =>
  have hsign : negative' = negative ∧ t' = Text.ofNat n ++ r := by
    cases negative with
    | true =>
      cases hs
      exact ⟨rfl, rfl⟩
    | false =>
      simp only [Bool.false_eq_true, if_false, List.nil_append] at hs
      split at hs
      · next r' hr => exact absurd hr (ofNat_ne_minus n r')
      · cases hs
        exact ⟨rfl, rfl⟩
  obtain ⟨rfl, rfl⟩ := hsign
  simp only [takeWhile_ofNat n h, dropWhile_ofNat n h]
  have hwhole : ¬ (Text.ofNat n = [] ∨ (Text.ofNat n).head? = some '0' ∧ Text.ofNat n ≠ ['0'] ∨
      false = true ∧ ([] : Text) = []) := by
    rintro (h | ⟨h0, hne⟩ | ⟨h, -⟩)
    · exact ofNat_ne_nil n h
    · exact hne (ofNat_head n h0)
    · cases h
  split
  · exact absurd (h '.' rfl) (by decide)
  · dsimp only
    rw [if_neg hwhole, exponent?_follows h]
    simp [absorb_ofNat hn, hx]

theorem number?_natural (n : UInt64) (h : Follows r) :
    number? lenient (Text.ofNat n.toNat ++ r) = some (.natural n, r) := by
  refine number?_integer false n.toNat_lt ?_ h
  simp [numberOfInteger?]

theorem number?_negative (n : Int64) (hn : n < 0) (h : Follows r) :
    number? lenient (Text.ofInt n.toInt ++ r) = some (.negative n hn, r) := by
  have hlt : n.toInt < 0 := by simpa [Int64.lt_iff_toInt_lt] using hn
  have hle : -9223372036854775808 ≤ n.toInt := Int64.le_toInt n
  have habs : -(n.toInt.natAbs : Int) = n.toInt := by omega
  rw [Text.ofInt, if_pos hlt]
  refine number?_integer true (by omega) ?_ h
  have hof : Int64.ofInt (-(n.toInt.natAbs : Int)) = n := by
    rw [habs, Int64.ofInt_toInt]
  simp only [numberOfInteger?, if_true, hof]
  rw [dif_pos ⟨hn, by omega⟩]

def Number.Rereads (n : Number) : Prop := number? false n.written = some (n, [])

theorem Number.rereads_natural (n : UInt64) : Rereads (natural n) := by
  have h : number? false (Text.ofNat n.toNat ++ []) = some (natural n, []) :=
    number?_natural n follows_nil
  rwa [List.append_nil] at h

theorem Number.rereads_negative (n : Int64) (hn : n < 0) : Rereads (negative n hn) := by
  have h : number? false (Text.ofInt n.toInt ++ []) = some (negative n hn, []) :=
    number?_negative n hn follows_nil
  rwa [List.append_nil] at h

theorem takeWhile_append_follows (t : Text) (h : Follows r) :
    (t ++ r).takeWhile isDigit = t.takeWhile isDigit ∧
      (t ++ r).dropWhile isDigit = t.dropWhile isDigit ++ r := by
  induction t with
  | nil => exact isDigit_follows h
  | cons c t ih =>
    by_cases hc : isDigit c = true
    · simp [hc, ih.1, ih.2]
    · simp [hc]

theorem signed_append_follows {c : Char} (_ : Follows r) :
    signed (c :: t ++ r) = ((signed (c :: t)).1, (signed (c :: t)).2 ++ r) := by
  rw [List.cons_append]
  unfold signed
  split <;> split <;> simp_all

theorem exponent?_append {e : Option Int} (h : exponent? t = some (e, [])) (hr : Follows r) :
    exponent? (t ++ r) = some (e, r) := by
  cases t with
  | nil =>
    cases h
    exact exponent?_follows hr
  | cons c t =>
    rw [List.cons_append]
    simp only [exponent?] at h ⊢
    split at h
    · next hc =>
      rw [if_pos hc]
      cases t with
      | nil => simp [signed] at h
      | cons d t =>
        rw [signed_append_follows hr]
        simp only [takeWhile_append_follows _ hr]
        split at h
        · cases h
        · next hne =>
          simp only [Option.some.injEq, Prod.mk.injEq] at h
          rw [if_neg hne, h.2]
          simp [h.1]
    · cases h

def minus (t : Text) : Bool × Text :=
  match t with
  | '-' :: r => (true, r)
  | _ => (false, t)

def fraction (t : Text) : Bool × Text × Text :=
  match t with
  | '.' :: r => (true, r.takeWhile isDigit, r.dropWhile isDigit)
  | _ => (false, [], t)

def ofParts? (negative : Bool) (whole : Text) (hasPoint : Bool) (places : Text)
    (exponent : Option Int) : Option Number :=
  let (n, taken) := absorb 0 0 whole
  let ignored := whole.length - taken
  if ignored = 0 ∧ !hasPoint ∧ exponent = none then numberOfInteger? negative n
  else
    let (n, places) := absorb n 0 places
    (floatOfParts? n (exponent.getD 0 + ignored - places)).bind (numberOfFloat? negative)

/-- The parts of a number are cut out of the text before they are taken together. -/
theorem number?_eq (t : Text) : number? lenient t =
    (let (negative, u) := minus t
    let whole := u.takeWhile isDigit
    let (hasPoint, places, rest) := fraction (u.dropWhile isDigit)
    if whole = [] ∨ (whole.head? = some '0' ∧ whole ≠ ['0']) ∨ (hasPoint ∧ places = []) then none
    else
      match exponent? rest with
      | none => none
      | some (exponent, rest) =>
        match ofParts? negative whole hasPoint places exponent with
        | some x => some (x, rest)
        | none => if lenient then some (.natural 0, rest) else none) := rfl

theorem minus_append (hne : t ≠ []) : minus (t ++ r) = ((minus t).1, (minus t).2 ++ r) := by
  obtain ⟨c, t, rfl⟩ := List.exists_cons_of_ne_nil hne
  by_cases hc : c = '-'
  · subst hc
    rfl
  · simp [minus, hc]

theorem fraction_append (t : Text) (hr : Follows r) : fraction (t ++ r) =
    ((fraction t).1, (fraction t).2.1, (fraction t).2.2 ++ r) := by
  cases t with
  | nil =>
    have hpoint : ∀ u, r ≠ '.' :: u := by
      rintro u rfl
      exact absurd (hr '.' rfl) (by decide)
    rw [List.nil_append, fraction]
    · rfl
    · exact hpoint
  | cons c t =>
    by_cases hc : c = '.'
    · subst hc
      simp [fraction, takeWhile_append_follows t hr]
    · simp [fraction, hc]

theorem number?_append {n : Number} (h : number? lenient t = some (n, [])) (hr : Follows r) :
    number? lenient (t ++ r) = some (n, r) := by
  rw [number?_eq] at h ⊢
  have hne : t ≠ [] := by
    rintro rfl
    simp [minus] at h
  rw [minus_append hne]
  dsimp only at h ⊢
  simp only [takeWhile_append_follows _ hr, fraction_append _ hr]
  split at h
  · cases h
  next hparts =>
  rw [if_neg hparts]
  cases he : exponent? (fraction ((minus t).2.dropWhile isDigit)).2.2 with
  | none => simp [he] at h
  | some p =>
    obtain ⟨e, rest⟩ := p
    simp only [he] at h
    have hrest : rest = [] := by
      split at h
      · cases h
        rfl
      · split at h <;> cases h
        rfl
    rw [hrest] at he
    simp only [exponent?_append he hr]
    cases hx : ofParts? (minus t).1 ((minus t).2.takeWhile isDigit)
        (fraction ((minus t).2.dropWhile isDigit)).1 (fraction ((minus t).2.dropWhile isDigit)).2.1
          e with
    | some x =>
      simp only [hx] at h ⊢
      cases h
      rfl
    | none =>
      simp only [hx] at h ⊢
      split at h
      · next hl =>
        cases h
        rw [if_pos hl]
      · cases h

theorem Number.Rereads.append {n : Number} (h : n.Rereads) (hr : Follows r) :
    number? false (n.written ++ r) = some (n, r) := number?_append h hr

theorem begins_of_number? {n : Number} (h : number? lenient t = some (n, r)) :
    ∃ c u, t = c :: u ∧ (isDigit c = true ∨ c = '-') := by
  rw [number?_eq] at h
  dsimp only at h
  split at h
  · cases h
  next hparts =>
  cases t with
  | nil => simp [minus] at hparts
  | cons c u =>
    refine ⟨c, u, rfl, ?_⟩
    by_cases hc : c = '-'
    · exact .inr hc
    · refine .inl ?_
      by_contra hd
      simp [minus, hc, hd] at hparts

theorem mem_floatText {x : Binary64} {c : Char} (h : c ∈ floatText x) :
    isDigit c = true ∨ c ∈ ".e+-".toList := by
  have digits {n : Nat} (h : c ∈ Text.ofNat n) : isDigit c = true ∨ c ∈ ".e+-".toList :=
    .inl (isDigit_of_mem_ofNat h)
  have positional {d : Decimal} (h : c ∈ d.positional) : isDigit c = true ∨ c ∈ ".e+-".toList := by
    have hc := isNumeral_of_mem_positional h
    simp only [isNumeral, Bool.or_eq_true, beq_iff_eq] at hc
    rcases hc with (hc | rfl) | rfl
    · exact .inl hc
    · exact .inr (by decide)
    · exact .inr (by decide)
  simp only [floatText] at h
  split at h
  · split at h
    · rcases List.mem_append.1 h with h | h
      · exact positional h
      · exact (Text.forall_mem_of_all (by decide) : ∀ c ∈ ".0".toList,
          isDigit c = true ∨ c ∈ ".e+-".toList) c h
    · exact positional h
  · simp only [List.mem_append] at h
    rcases h with ((h | h) | h) | h
    · split at h
      · rw [List.mem_singleton.1 h]
        exact .inr (by decide)
      · cases h
    · split at h
      · exact digits h
      · rcases List.mem_append.1 h with h | h
        · exact digits (List.mem_of_mem_take h)
        · rcases List.mem_cons.1 h with rfl | h
          · exact .inr (by decide)
          · exact digits (List.mem_of_mem_drop h)
    · have all (w : Text)
          (hw : (w.all fun c => decide (isDigit c = true ∨ c ∈ ".e+-".toList)) = true)
          (h : c ∈ w) : isDigit c = true ∨ c ∈ ".e+-".toList := Text.forall_mem_of_all hw c h
      split at h
      · exact all "e-".toList (by decide) h
      · exact all "e+".toList (by decide) h
    · exact digits h

end QueryShorthand.Json
