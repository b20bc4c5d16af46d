import QueryShorthand.Number.Decimal
import QueryShorthand.Proofs.Operand.Number

/-! The grammar of decimal numbers. -/
namespace QueryShorthand.Decimal

inductive WritesSign : Bool → Text → Prop where
  | none : WritesSign false []
  | plus : WritesSign false ['+']
  | minus : WritesSign true ['-']

/-- The places behind a point; both may be missing, and the places alone too. -/
inductive WritesPlaces : Text → Text → Prop where
  | none : WritesPlaces [] []
  | point {places : Text} (hd : places.all isDigit = true) : WritesPlaces places ('.' :: places)

inductive WritesExponent : Int → Text → Prop where
  | none : WritesExponent 0 []
  | letter {negative : Bool} {c : Char} {s digits : Text} (hc : c = 'e' ∨ c = 'E')
      (hs : WritesSign negative s) (hne : digits ≠ []) (hd : digits.all isDigit = true) :
      WritesExponent (if negative then -natOfDigits digits else natOfDigits digits)
        (c :: (s ++ digits))

/-- A decimal number as it may be written, with at least one digit beside the point. -/
inductive Writes : Decimal → Text → Prop where
  | mk {negative : Bool} {s whole places p u : Text} {e : Int} (hs : WritesSign negative s)
      (hd : whole.all isDigit = true) (hp : WritesPlaces places p) (hne : whole ++ places ≠ [])
      (he : WritesExponent e u) :
      Writes ⟨negative, natOfDigits (whole ++ places), e - places.length⟩ (s ++ (whole ++ (p ++ u)))

variable {negative : Bool} {c : Char} {s t r digits places p u : Text} {e : Int} {d : Decimal}

theorem exists_of_signed (t : Text) : ∃ s, WritesSign (signed t).1 s ∧ t = s ++ (signed t).2 := by
  unfold signed
  split
  · exact ⟨['-'], .minus, rfl⟩
  · exact ⟨['+'], .plus, rfl⟩
  · exact ⟨[], .none, rfl⟩

theorem signed_of_writes (h : WritesSign negative s)
    (hr : ∀ c, r.head? = some c → c ≠ '+' ∧ c ≠ '-') :
    signed (s ++ r) = (negative, r) := by
  cases h with
  | plus => rfl
  | minus => rfl
  | none =>
    rw [List.nil_append, signed]
    · rintro u rfl
      exact absurd rfl (hr '-' rfl).2
    · rintro u rfl
      exact absurd rfl (hr '+' rfl).1

theorem isDigit_head (hne : t ≠ []) (h : t.all isDigit = true) : t.head?.any isDigit = true := by
  obtain ⟨c, r, rfl⟩ := List.exists_cons_of_ne_nil hne
  rw [List.all_cons, Bool.and_eq_true] at h
  simpa using h.1

theorem not_sign_of_isDigit (h : isDigit c = true) : c ≠ '+' ∧ c ≠ '-' := by
  constructor
  · rintro rfl
    exact absurd h (by decide)
  · rintro rfl
    exact absurd h (by decide)

theorem exponentOf?_eq_some_iff : exponentOf? t = some e ↔ WritesExponent e t := by
  constructor
  · intro h
    cases t with
    | nil =>
      cases h
      exact .none
    | cons c r =>
      obtain ⟨s, hs, hr⟩ := exists_of_signed r
      simp only [exponentOf?] at h
      split at h
      · next hc =>
        obtain ⟨hc, hne, hd⟩ := hc
        cases h
        have hwrites := WritesExponent.letter hc hs hne hd
        rwa [← hr] at hwrites
      · cases h
  · intro h
    cases h with
    | none => rfl
    | @letter negative c s digits hc hs hne hd =>
      have hsigned : signed (s ++ digits) = (negative, digits) := by
        apply signed_of_writes hs
        intro c hc
        have hhead := isDigit_head hne hd
        rw [hc] at hhead
        exact not_sign_of_isDigit hhead
      simp only [exponentOf?, hsigned]
      rw [if_pos ⟨hc, hne, hd⟩]

theorem span_digits (hd : digits.all isDigit = true) (hr : r.head?.any isDigit = false) :
    (digits ++ r).takeWhile isDigit = digits ∧ (digits ++ r).dropWhile isDigit = r := by
  have hdigits : ∀ c ∈ digits, isDigit c = true := List.all_eq_true.1 hd
  have hnil : r.takeWhile isDigit = [] ∧ r.dropWhile isDigit = r := by
    cases r with
    | nil => exact ⟨rfl, rfl⟩
    | cons c r =>
      have hc : isDigit c = false := by simpa using hr
      simp [hc]
  rw [List.takeWhile_append_of_pos hdigits, List.dropWhile_append_of_pos hdigits, hnil.1, hnil.2,
    List.append_nil]
  exact ⟨rfl, rfl⟩

def fraction (t : Text) : Text × Text :=
  match t with
  | '.' :: r => (r.takeWhile isDigit, r.dropWhile isDigit)
  | _ => ([], t)

theorem exists_of_fraction (t : Text) :
    ∃ p, WritesPlaces (fraction t).1 p ∧ t = p ++ (fraction t).2 := by
  unfold fraction
  split
  · next r =>
    refine ⟨_, .point List.all_takeWhile, ?_⟩
    rw [List.cons_append, List.takeWhile_append_dropWhile]
  · exact ⟨[], .none, rfl⟩

theorem fraction_of_writes (h : WritesPlaces places p)
    (hr : ∀ c, r.head? = some c → isDigit c = false ∧ c ≠ '.') :
    fraction (p ++ r) = (places, r) := by
  cases h with
  | none =>
    rw [List.nil_append, fraction]
    rintro u rfl
    exact absurd rfl (hr '.' rfl).2
  | point hd =>
    have hhead : r.head?.any isDigit = false := by
      cases r with
      | nil => rfl
      | cons c r => exact (hr c rfl).1
    obtain ⟨htake, hdrop⟩ := span_digits hd hhead
    rw [List.cons_append, fraction, htake, hdrop]

theorem read?_eq (t : Text) : read? t =
    if (signed t).2.takeWhile isDigit = [] ∧
    (fraction ((signed t).2.dropWhile isDigit)).1 = [] then none
    else (exponentOf? (fraction ((signed t).2.dropWhile isDigit)).2).map fun e =>
      ⟨(signed t).1,
        natOfDigits
          ((signed t).2.takeWhile isDigit ++ (fraction ((signed t).2.dropWhile isDigit)).1),
        e - (fraction ((signed t).2.dropWhile isDigit)).1.length⟩ := rfl

theorem no_digit_of_exponent (h : WritesExponent e u) :
    ∀ c, u.head? = some c → isDigit c = false ∧ c ≠ '.' := by
  intro c hc
  cases h with
  | none => cases hc
  | letter hletter _ _ _ =>
    cases hc
    rcases hletter with rfl | rfl <;> decide

theorem read?_eq_some_iff : read? t = some d ↔ Writes d t := by
  rw [read?_eq]
  constructor
  · intro h
    split at h
    · cases h
    · next hne =>
      obtain ⟨e, he, rfl⟩ := Option.map_eq_some_iff.1 h
      obtain ⟨s, hs, ht⟩ := exists_of_signed t
      obtain ⟨p, hp, hr⟩ := exists_of_fraction ((signed t).2.dropWhile isDigit)
      have hwrites :=
        Writes.mk hs List.all_takeWhile hp (by simpa using hne) (exponentOf?_eq_some_iff.1 he)
      have htext : t = s ++ ((signed t).2.takeWhile isDigit ++
          (p ++ (fraction ((signed t).2.dropWhile isDigit)).2)) := by
        rw [← hr, List.takeWhile_append_dropWhile]
        exact ht
      rwa [← htext] at hwrites
  · intro h
    obtain @⟨negative, s, whole, places, p, u, e, hs, hd, hp, hne, he⟩ := h
    have hu := no_digit_of_exponent he
    have hpoint : (p ++ u).head?.any isDigit = false := by
      cases hp with
      | point => rfl
      | none =>
        cases u with
        | nil => rfl
        | cons c u => exact (hu c rfl).1
    have hsigned : signed (s ++ (whole ++ (p ++ u))) = (negative, whole ++ (p ++ u)) := by
      apply signed_of_writes hs
      intro c hc
      cases whole with
      | cons d whole =>
        cases hc
        rw [List.all_cons, Bool.and_eq_true] at hd
        exact not_sign_of_isDigit hd.1
      | nil =>
        cases hp with
        | point =>
          cases hc
          decide
        | none => exact absurd rfl hne
    obtain ⟨htake, hdrop⟩ := span_digits hd hpoint
    simp only [hsigned, htake, hdrop, fraction_of_writes hp hu, exponentOf?_eq_some_iff.2 he]
    rw [if_neg (by simpa using hne)]
    rfl

theorem isDecimalDigit_of_isDigit (h : isDigit c = true) : isDecimalDigit c = true := by
  have hle : c.toNat ≤ 57 := by
    simp only [isDigit, Bool.and_eq_true, decide_eq_true_eq] at h
    exact UInt32.le_iff_toNat_le.1 h.2
  exact forall_ascii (p := fun c => isDigit c = true → isDecimalDigit c = true) (by decide)
    (by omega) h

/-- The characters that may stand in front of the last digit. -/
def Front (t : Text) : Prop := ∀ c ∈ t, Operand.isNumberChar c = true ∨ c = '-'

theorem Front.append (hs : Front s) (ht : Front t) : Front (s ++ t) := by
  intro c hc
  rcases List.mem_append.1 hc with hc | hc
  · exact hs c hc
  · exact ht c hc

theorem front_digits (hd : digits.all isDigit = true) : Front digits := by
  intro c hc
  have hdigit := isDecimalDigit_of_isDigit (List.all_eq_true.1 hd c hc)
  exact .inl (by simp [Operand.isNumberChar, hdigit])

theorem WritesSign.front (h : WritesSign negative s) : Front s := by
  cases h with
  | none => exact fun c hc => absurd hc (by simp)
  | plus => exact Text.forall_mem_of_all (by decide)
  | minus => exact Text.forall_mem_of_all (by decide)

theorem WritesPlaces.front (h : WritesPlaces places p) : Front p := by
  cases h with
  | none => exact fun c hc => absurd hc (by simp)
  | point hd => exact List.forall_mem_cons.2 ⟨.inl (by decide), front_digits hd⟩

theorem numeral_of_digits (hne : digits ≠ []) (hd : digits.all isDigit = true) :
    Operand.Numeral digits :=
  Operand.numeral_of_digits hne fun c hc => isDecimalDigit_of_isDigit (List.all_eq_true.1 hd c hc)

theorem Writes.solid (h : Writes d t) : Solid t := by
  obtain @⟨negative, s, whole, places, p, u, e, hs, hd, hp, hne, he⟩ := h
  have hfront : Front (s ++ whole) := hs.front.append (front_digits hd)
  cases he with
  | @letter negative c s' digits hc hs' hdigits hd' =>
    have hletter : Front [c] := by
      rcases hc with rfl | rfl <;> exact Text.forall_mem_of_all (by decide)
    have hnumeral := (numeral_of_digits hdigits hd').append
      (hfront.append (hp.front.append (hletter.append hs'.front)))
    have hsolid := hnumeral.solid
    simpa using hsolid
  | none =>
    cases hp with
    | none =>
      rw [List.append_nil] at hne
      have hsolid := ((numeral_of_digits hne hd).append hs.front).solid
      simpa using hsolid
    | point hplaces =>
      by_cases hempty : places = []
      · subst hempty
        rw [List.append_nil] at hne
        have hdot : Solid ['.'] := solid_chars (by simp) (Text.forall_mem_of_all (by decide))
        have hsolid := ((numeral_of_digits hne hd).append hs.front).solid.append hdot
        simpa using hsolid
      · have hpoint : Front ['.'] := Text.forall_mem_of_all (by decide)
        have hsolid := ((numeral_of_digits hempty hplaces).append (hfront.append hpoint)).solid
        simpa using hsolid

end QueryShorthand.Decimal
