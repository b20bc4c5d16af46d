import QueryShorthand.Proofs.Token.Span

/-! Spans without the text behind them. -/
namespace QueryShorthand

variable {c d q : Char} {r r' s t u v : Text} {word : Bool}

theorem quotedRest_alone (h : quotedRest q t = .ok (s, r)) : quotedRest q s = .ok (s, []) := by
  obtain ⟨hq, x, u, hu, rfl, -⟩ := quotation_of_quotedRest h
  exact hu.quotedRest_quote hq []

theorem atom_alone (h : atom c t = .ok (s, r)) : ∃ u, s = c :: u ∧ atom c u = .ok (s, []) := by
  by_cases hq : isQuote c = true
  · obtain ⟨u, hu, rfl⟩ := (atom_quote_iff hq).1 h
    exact ⟨u, rfl, (atom_quote_iff hq).2 ⟨u, quotedRest_alone hu, rfl⟩⟩
  · unfold atom at h ⊢
    by_cases hc : c = '\\'
    · rw [if_pos hc] at h
      cases t with
      | nil => cases h
      | cons d t =>
        cases h
        exact ⟨[d], rfl, by rw [if_pos hc]⟩
    · rw [if_neg hc, if_neg hq] at h
      cases h
      exact ⟨[], rfl, by rw [if_neg hc, if_neg hq]⟩

theorem atom_cut (h : atom c (r ++ v) = .ok (s, r' ++ v)) : atom c r = .ok (s, r') := by
  have heq := (eq_append_of_atom h).1
  obtain ⟨u, rfl, hu⟩ := atom_alone h
  have hr : r = u ++ r' := by simpa [← List.append_assoc] using heq
  rw [hr]
  exact atom_append hu

section Enclosed

variable {start start' : Text} {o cl : Char} {n : Nat}

theorem enclosedRest_alone (h : enclosedRest start o cl n t = .ok (s, r)) :
    enclosedRest start' o cl n s = .ok (s, []) := by
  fun_induction enclosedRest start o cl n t generalizing s with
  | case1 => cases h
  | case2 => cases h
  | case3 n c t r' ha ih =>
    obtain ⟨u, hu, rfl⟩ := eq_append_of_prepended h
    obtain ⟨w, hw, ha⟩ := atom_alone ha
    obtain ⟨rfl, rfl⟩ := List.cons.inj hw
    rw [List.cons_append, enclosedRest_opener (atom_append ha), List.nil_append, ih hu]
    rfl
  | case4 c t r' ha hne =>
    cases h
    obtain ⟨w, hw, ha⟩ := atom_alone ha
    obtain ⟨rfl, rfl⟩ := List.cons.inj hw
    exact enclosedRest_last ha (by simpa using hne)
  | case5 c t r' n ha hne ih =>
    obtain ⟨u, hu, rfl⟩ := eq_append_of_prepended h
    obtain ⟨w, hw, ha⟩ := atom_alone ha
    obtain ⟨rfl, rfl⟩ := List.cons.inj hw
    rw [List.cons_append, enclosedRest_closer (atom_append ha) (by simpa using hne),
      List.nil_append, ih hu]
    rfl
  | case6 n c t s r' ha hne hcl ih =>
    obtain ⟨u, hu, rfl⟩ := eq_append_of_prepended h
    obtain ⟨w, rfl, ha⟩ := atom_alone ha
    rw [List.cons_append, enclosedRest_other (atom_append ha) hne hcl, List.nil_append, ih hu]
    rfl

theorem enclosedRest_cut (h : enclosedRest start o cl n (r ++ v) = .ok (s, r' ++ v)) :
    enclosedRest start' o cl n r = .ok (s, r') := by
  have hr : r = s ++ r' := by simpa [← List.append_assoc] using eq_append_of_enclosedRest h
  have halone : enclosedRest start o cl n s = .ok (s, []) := enclosedRest_alone h
  rw [hr]
  exact enclosedRest_append halone

end Enclosed

theorem arrow?_cut {o : Option (Text × Text)} (h : arrow? (c :: (r ++ v)) = o.map (furnished v)) :
    arrow? (c :: r) = o := by
  by_cases hc : c = '-'
  · subst hc
    cases o with
    | none =>
      refine arrow?_hyphen fun hd => ?_
      obtain ⟨r, rfl⟩ := List.head?_eq_some_iff.1 hd
      unfold arrow? at h
      split at h <;> simp_all
    | some p =>
      obtain ⟨s, r'⟩ := p
      have hv : ('-' :: r) ++ v = (s ++ r') ++ v := by
        rw [List.append_assoc]
        exact (eq_append_of_arrow? h).1
      have hr := List.append_cancel_right hv
      unfold arrow? at h
      split at h
      · next heq =>
        obtain ⟨rfl, -⟩ := Prod.mk.inj (Option.some.inj h)
        rw [hr]
        rfl
      · next r₀ hnot heq =>
        obtain ⟨rfl, rfl⟩ := Prod.mk.inj (Option.some.inj h)
        rw [hr]
        refine arrow?_single fun hd => ?_
        obtain ⟨r', rfl⟩ := List.head?_eq_some_iff.1 hd
        exact hnot _ rfl
      · cases h
  · rw [arrow?_of_ne hc] at h ⊢
    cases o with
    | none => rfl
    | some p => cases h

/-- What comes of a span does not depend on text behind it. -/
theorem span?_cut {o : Option (Text × Text)}
    (h : span? word c (r ++ v) = .ok (o.map (furnished v))) :
    span? word c r = .ok o := by
  have cut {x y : Except Stop (Text × Text)}
      (hxy : ∀ s r', x = .ok (s, r' ++ v) → y = .ok (s, r'))
        (h : x.map some = .ok (o.map (furnished v))) :
      y.map some = .ok o := by
    obtain ⟨p, hp, ho⟩ := exists_of_map_eq_ok h
    cases o with
    | none => cases ho
    | some q =>
      obtain rfl : p = furnished v q := by simpa using ho
      rw [hxy q.1 q.2 hp]
      rfl
  have enclosed {op cl : Char}
      (h : (prepended [c] (enclosedRest (c :: (r ++ v)) op cl 0 (r ++ v))).map some =
        .ok (o.map (furnished v))) :
      (prepended [c] (enclosedRest (c :: r) op cl 0 r)).map some = .ok o := by
    refine cut (fun s r' hs => ?_) h
    obtain ⟨u, hu, rfl⟩ := eq_append_of_prepended hs
    rw [enclosedRest_cut hu]
    rfl
  unfold span? at h ⊢
  by_cases hq : c = '\\' ∨ isQuote c = true
  · rw [if_pos hq] at h ⊢
    exact cut (fun s r' hs => atom_cut hs) h
  · rw [if_neg hq] at h ⊢
    by_cases hb : c = '['
    · rw [if_pos hb] at h ⊢
      exact enclosed h
    · rw [if_neg hb] at h ⊢
      by_cases hw : c = '(' ∧ word = true
      · rw [if_pos hw] at h ⊢
        exact enclosed h
      · rw [if_neg hw] at h ⊢
        rw [arrow?_cut (Except.ok.inj h)]

/-- The characters that a span may end with, apart from an escape. -/
def closers : Text := "'\"\x60])>".toList

theorem quotedRest_ends (h : quotedRest q t = .ok (s, r)) : ∃ u, s = u ++ [q] := by
  obtain ⟨-, x, u, -, rfl, -⟩ := quotation_of_quotedRest h
  exact ⟨u, rfl⟩

theorem enclosedRest_ends {start : Text} {o cl : Char} {n : Nat}
    (h : enclosedRest start o cl n t = .ok (s, r)) : ∃ u, s = u ++ [cl] := by
  fun_induction enclosedRest start o cl n t generalizing s with
  | case1 => cases h
  | case2 => cases h
  | case4 =>
    cases h
    exact ⟨[], rfl⟩
  | case3 _ _ _ _ _ ih | case5 _ _ _ _ _ _ ih | case6 _ _ _ _ _ _ _ _ ih =>
    obtain ⟨u, hu, rfl⟩ := eq_append_of_prepended h
    obtain ⟨w, rfl⟩ := ih hu
    exact ⟨_, (List.append_assoc ..).symm⟩

theorem span?_ends (h : span? word c r = .ok (some (s, r'))) :
    (∃ d, s = ['\\', d]) ∨ ∃ u, ∃ d ∈ closers, s = u ++ [d] := by
  have enclosed {op cl : Char} (hcl : cl ∈ closers)
      (h : (prepended [c] (enclosedRest (c :: r) op cl 0 r)).map some = .ok (some (s, r'))) :
      ∃ u, ∃ d ∈ closers, s = u ++ [d] := by
    obtain ⟨p, hp, hs⟩ := exists_of_map_eq_ok h
    obtain rfl := Option.some.inj hs
    obtain ⟨u, hu, rfl⟩ := eq_append_of_prepended hp
    obtain ⟨w, rfl⟩ := enclosedRest_ends hu
    exact ⟨c :: w, cl, hcl, rfl⟩
  unfold span? at h
  by_cases hq : c = '\\' ∨ isQuote c = true
  · rw [if_pos hq] at h
    obtain ⟨p, hp, hs⟩ := exists_of_map_eq_ok h
    obtain rfl := Option.some.inj hs
    rcases hq with rfl | hq
    · cases r with
      | nil => cases hp
      | cons d r =>
        cases hp
        exact .inl ⟨d, rfl⟩
    · obtain ⟨u, hu, rfl⟩ := (atom_quote_iff hq).1 hp
      obtain ⟨w, rfl⟩ := quotedRest_ends hu
      refine .inr ⟨c :: w, c, ?_, rfl⟩
      rcases isQuote_iff.1 hq with rfl | rfl | rfl <;> decide
  · rw [if_neg hq] at h
    by_cases hb : c = '['
    · rw [if_pos hb] at h
      exact .inr (enclosed (by decide) h)
    · rw [if_neg hb] at h
      by_cases hw : c = '(' ∧ word = true
      · rw [if_pos hw] at h
        exact .inr (enclosed (by decide) h)
      · rw [if_neg hw] at h
        have harrow := Except.ok.inj h
        unfold arrow? at harrow
        split at harrow
        · cases harrow
          exact .inr ⟨['-', '>'], '>', by decide, rfl⟩
        · cases harrow
          exact .inr ⟨['-'], '>', by decide, rfl⟩
        · cases harrow

end QueryShorthand
