import QueryShorthand.Proofs.Operand.Solid

/-! Numbers are solid texts. -/
namespace QueryShorthand.Operand

def isNumberChar (c : Char) : Bool :=
  isDecimalDigit c || c == '.' || c == 'e' || c == 'E' || c == '+'

structure Numeral (t : Text) : Prop where
  chars : ∀ c ∈ t, isNumberChar c = true ∨ c = '-'
  last : ∃ c, t.getLast? = some c ∧ isDecimalDigit c = true

variable {s t r : Text}

theorem Numeral.cons {c : Char} (hc : isNumberChar c = true ∨ c = '-') (h : Numeral t) :
    Numeral (c :: t) where
  chars := List.forall_mem_cons.2 ⟨hc, h.chars⟩
  last := by
    obtain ⟨d, hd, hb⟩ := h.last
    exact ⟨d, by rw [List.getLast?_cons, hd]; rfl, hb⟩

theorem Numeral.append (hs : ∀ c ∈ s, isNumberChar c = true ∨ c = '-') (h : Numeral t) :
    Numeral (s ++ t) := by
  induction s with
  | nil => exact h
  | cons c s ih =>
    rw [List.forall_mem_cons] at hs
    exact .cons hs.1 (ih hs.2)

theorem numeral_of_digits (hne : t ≠ []) (h : ∀ c ∈ t, isDecimalDigit c = true) : Numeral t where
  chars c hc := .inl (by simp [isNumberChar, h c hc])
  last := ⟨_, List.getLast?_eq_some_getLast hne, h _ (List.getLast_mem hne)⟩

theorem numeral_of_digits? (h : digits? t = some r) (hr : r = [] ∨ Numeral r) : Numeral t := by
  unfold digits? at h
  split at h
  · next hhead =>
    cases h
    have hdigits : ∀ c ∈ t.takeWhile isDecimalDigit, isDecimalDigit c = true :=
      List.all_eq_true.1 List.all_takeWhile
    have hne : t.takeWhile isDecimalDigit ≠ [] := by
      cases t with
      | nil => simp at hhead
      | cons c t =>
        have hc : isDecimalDigit c = true := by simpa using hhead
        simp [hc]
    rw [← List.takeWhile_append_dropWhile (p := isDecimalDigit) (l := t)]
    rcases hr with hr | hr
    · rw [hr, List.append_nil]
      exact numeral_of_digits hne hdigits
    · exact .append (fun c hc => .inl (by simp [isNumberChar, hdigits c hc])) hr
  · cases h

theorem numeral_of_isExponent (h : isExponent t = true) : Numeral t := by
  cases t with
  | nil => cases h
  | cons c t =>
    simp only [isExponent, Bool.and_eq_true, Bool.or_eq_true, beq_iff_eq] at h
    obtain ⟨hc, hd⟩ := h
    refine .cons (.inl (by rcases hc with rfl | rfl <;> decide)) ?_
    split at hd
    · exact .cons (.inl (by decide)) (numeral_of_digits? hd (.inl rfl))
    · exact .cons (.inr rfl) (numeral_of_digits? hd (.inl rfl))
    · exact numeral_of_digits? hd (.inl rfl)

theorem isNumber_minus (h : isNumber ('-' :: t) = true) :
    isNumber t = true ∧ ∀ r, t ≠ '-' :: r := by
  have hminus : isDecimalDigit '-' = false := by decide
  have hne : ∀ r, t ≠ '-' :: r := by
    rintro r rfl
    simp [isNumber, digits?, hminus] at h
  refine ⟨?_, hne⟩
  unfold isNumber
  split
  · next r => exact absurd rfl (hne r)
  · exact h

theorem numeral_of_unsigned (h : isNumber t = true) (hne : ∀ r, t ≠ '-' :: r) : Numeral t := by
  unfold isNumber at h
  split at h
  · next r => exact absurd rfl (hne r)
  dsimp only at h
  split at h
  · cases h
  · next hd => exact numeral_of_digits? hd (.inl rfl)
  · next r hd =>
    refine numeral_of_digits? hd (.inr (.cons (.inl (by decide)) ?_))
    split at h
    · cases h
    · next rest hr =>
      rw [Bool.or_eq_true, beq_iff_eq] at h
      exact numeral_of_digits? hr (h.imp_right numeral_of_isExponent)
  · next rest _ _ hd => exact numeral_of_digits? hd (.inr (numeral_of_isExponent h))

theorem numeral_of_isNumber (h : isNumber t = true) : Numeral t := by
  by_cases hm : ∃ r, t = '-' :: r
  · obtain ⟨r, rfl⟩ := hm
    obtain ⟨hr, hne⟩ := isNumber_minus h
    exact .cons (.inr rfl) (numeral_of_unsigned hr hne)
  · exact numeral_of_unsigned h fun r hr => hm ⟨r, hr⟩

theorem not_special_of_isNumberChar {c : Char} (h : isNumberChar c = true) :
    c ∉ specials ∧ isBlank c = false := by
  simp only [isNumberChar, Bool.or_eq_true, beq_iff_eq] at h
  rcases h with (((h | rfl) | rfl) | rfl) | rfl
  · exact ⟨not_special_of_isDecimalDigit h, isBlank_of_isDecimalDigit h⟩
  all_goals decide

theorem Numeral.tail {c d : Char} (h : Numeral (c :: d :: t)) : Numeral (d :: t) :=
  ⟨fun e he => h.chars e (List.mem_cons_of_mem _ he), h.last⟩

theorem Numeral.inside {cutter : Cutter} {word : Bool} (hu : cutter.Usual) (h : Numeral t) :
    cutter.Inside word t := by
  induction t generalizing word with
  | nil => exact .nil
  | cons c t ih =>
    rcases h.chars c List.mem_cons_self with hc | rfl
    · refine (Cutter.inside_char hu.specials (not_special_of_isNumberChar hc).1 (c := c)).append ?_
      cases t with
      | nil => exact .nil
      | cons d t => exact ih h.tail
    · cases t with
      | nil =>
        obtain ⟨d, hd, hdigit⟩ := h.last
        cases hd
        exact absurd hdigit (by decide)
      | cons d t =>
        refine Cutter.inside_minus hu ?_ (ih h.tail)
        rintro rfl
        exact absurd (h.chars '>' (by simp)) (by decide)

theorem Numeral.solid (h : Numeral t) : Solid t where
  head := by
    obtain ⟨d, hd, -⟩ := h.last
    cases t with
    | nil => cases hd
    | cons c t =>
      refine ⟨c, t, rfl, ?_⟩
      rcases h.chars c List.mem_cons_self with hc | rfl
      · obtain ⟨hs, hb⟩ := not_special_of_isNumberChar hc
        refine ⟨hb, fun hm => hs ?_⟩
        exact (Text.forall_mem_of_all (by decide) : ∀ d ∈ ['!', '=', '<', '>'], d ∈ specials) c hm
      · decide
  last := by
    obtain ⟨d, hd, hdigit⟩ := h.last
    exact ⟨d, hd, isBlank_of_isDecimalDigit hdigit⟩
  inside hu := h.inside hu
  balanced := by
    refine balanced_list fun c hc => ?_
    rcases h.chars c hc with hc | rfl
    · refine balanced_not_special fun d hd => ?_
      rw [List.mem_singleton.1 hd]
      exact (not_special_of_isNumberChar hc).1
    · exact balanced_char (by decide) (by decide) (by decide)

end QueryShorthand.Operand
