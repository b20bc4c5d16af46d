import QueryShorthand.Proofs.Agreement
import QueryShorthand.Proofs.Text.Quotation
import QueryShorthand.Token.Lexer

/-! Spans and marks in front of more text. Where they end does not depend on it, unless it begins
with `>` or `=`. -/
namespace QueryShorthand

variable {c q : Char} {r s s' t v : Text} {word : Bool}

theorem prepended_prepended {ε : Type} (s t : Text) (e : Except ε (Text × Text)) :
    prepended s (prepended t e) = prepended (s ++ t) e := by
  cases e with
  | error e => rfl
  | ok p => simp [prepended]

theorem prepended_nil {ε : Type} (e : Except ε (Text × Text)) : prepended [] e = e := by
  cases e <;> rfl

theorem quotedRest_cons (h : c ≠ '\\') : quotedRest q (c :: r) =
    if c = q then .ok ([c], r) else prepended [c] (quotedRest q r) :=
  quotedRest.eq_4 q c r (fun hc => absurd hc h) fun _ _ hc => absurd hc h

section Quotation

variable {m : Bool} {x u : Text}

theorem Text.Quotation.quotedRest_append (h : Quotation q m x u) (r : Text) :
    quotedRest q (u ++ r) = prepended u (quotedRest q r) := by
  induction h with
  | nil => exact (prepended_nil _).symm
  | escaped _ _ ih =>
    rw [List.cons_append, List.cons_append, quotedRest, ih, prepended_prepended]
    rfl
  | plain hc _ ih =>
    rw [List.cons_append, quotedRest_cons hc.1, if_neg hc.2, ih, prepended_prepended]
    rfl

theorem Text.Quotation.quotedRest_quote (h : Quotation q m x u) (hq : q ≠ '\\') (r : Text) :
    quotedRest q (u ++ q :: r) = .ok (u ++ [q], r) := by
  rw [h.quotedRest_append, quotedRest_cons hq, if_pos rfl]
  rfl

theorem quotation_of_quotedRest (h : quotedRest q t = .ok (s, r)) :
    q ≠ '\\' ∧ ∃ x u, Text.Quotation q true x u ∧ s = u ++ [q] ∧ t = u ++ q :: r := by
  fun_induction quotedRest q t generalizing s with
  | case1 => cases h
  | case2 => cases h
  | case3 c t ih =>
    obtain ⟨s, hs, rfl⟩ := eq_append_of_prepended h
    obtain ⟨hq, x, u, hu, rfl, rfl⟩ := ih hs
    exact ⟨hq, c :: x, _, .escaped (by simp) hu, rfl, rfl⟩
  | case4 t hlast hescape =>
    cases h
    exact ⟨Text.ne_backslash hlast hescape, [], [], .nil, rfl, rfl⟩
  | case5 c t hlast hescape hne ih =>
    obtain ⟨s, hs, rfl⟩ := eq_append_of_prepended h
    obtain ⟨hq, x, u, hu, rfl, rfl⟩ := ih hs
    exact ⟨hq, c :: x, _, .plain ⟨Text.ne_backslash hlast hescape, hne⟩ hu, rfl, rfl⟩

end Quotation

theorem quotedRest_append (h : quotedRest q r = .ok (s, s')) :
    quotedRest q (r ++ v) = .ok (s, s' ++ v) := by
  obtain ⟨hq, x, u, hu, rfl, rfl⟩ := quotation_of_quotedRest h
  rw [List.append_assoc, List.cons_append]
  exact hu.quotedRest_quote hq (s' ++ v)

theorem isQuote_iff : isQuote q = true ↔ q = '"' ∨ q = '\'' ∨ q = backtick := by
  simp only [isQuote, Bool.or_eq_true, beq_iff_eq, backtick]
  tauto

theorem ne_backslash_of_isQuote (hq : isQuote q = true) : q ≠ '\\' := by
  rintro rfl
  cases hq

theorem atom_quote_iff (hq : isQuote q = true) :
    atom q t = .ok (s, r) ↔ ∃ u, quotedRest q t = .ok (u, r) ∧ s = q :: u := by
  unfold atom
  rw [if_neg (ne_backslash_of_isQuote hq), if_pos hq]
  cases quotedRest q t with
  | error f => simp
  | ok p =>
    obtain ⟨u, r'⟩ := p
    simp only [Except.ok.injEq, Prod.mk.injEq]
    constructor
    · rintro ⟨rfl, rfl⟩
      exact ⟨u, ⟨rfl, rfl⟩, rfl⟩
    · rintro ⟨u, ⟨rfl, rfl⟩, rfl⟩
      exact ⟨rfl, rfl⟩

theorem atom_append (h : atom c r = .ok (s, s')) : atom c (r ++ v) = .ok (s, s' ++ v) := by
  by_cases hq : isQuote c = true
  · obtain ⟨u, hu, rfl⟩ := (atom_quote_iff hq).1 h
    exact (atom_quote_iff hq).2 ⟨u, quotedRest_append hu, rfl⟩
  · unfold atom at h ⊢
    by_cases hc : c = '\\'
    · rw [if_pos hc] at h ⊢
      cases r with
      | nil => cases h
      | cons d r =>
        cases h
        rfl
    · rw [if_neg hc, if_neg hq] at h ⊢
      cases h
      rfl

section Enclosed

variable {start start' : Text} {o cl : Char} {d : Nat}

theorem enclosedRest_opener (h : atom c r = .ok ([o], s')) : enclosedRest start o cl d (c :: r) =
    prepended [o] (enclosedRest start o cl (d + 1) s') := by
  rw [enclosedRest]
  split
  · next stop hs => simp [h] at hs
  · next u u' hu =>
    rw [h] at hu
    cases hu
    rw [if_pos rfl]

theorem enclosedRest_closer (h : atom c r = .ok ([cl], s')) (hne : cl ≠ o) :
    enclosedRest start o cl (d + 1) (c :: r) = prepended [cl] (enclosedRest start o cl d s') := by
  rw [enclosedRest]
  split
  · next stop hs => simp [h] at hs
  · next u u' hu =>
    rw [h] at hu
    cases hu
    rw [if_neg (by simpa using hne), if_pos rfl]

theorem enclosedRest_last (h : atom c r = .ok ([cl], s')) (hne : cl ≠ o) :
    enclosedRest start o cl 0 (c :: r) = .ok ([cl], s') := by
  rw [enclosedRest]
  split
  · next stop hs => simp [h] at hs
  · next u u' hu =>
    rw [h] at hu
    cases hu
    rw [if_neg (by simpa using hne), if_pos rfl]

theorem enclosedRest_other (h : atom c r = .ok (s, s')) (ho : s ≠ [o]) (hcl : s ≠ [cl]) :
    enclosedRest start o cl d (c :: r) = prepended s (enclosedRest start o cl d s') := by
  rw [enclosedRest]
  split
  · next stop hs => simp [h] at hs
  · next u u' hu =>
    rw [h] at hu
    cases hu
    rw [if_neg ho, if_neg hcl]

theorem enclosedRest_append (h : enclosedRest start o cl d r = .ok (s, s')) :
    enclosedRest start' o cl d (r ++ v) = .ok (s, s' ++ v) := by
  fun_induction enclosedRest start o cl d r generalizing s with
  | case1 => cases h
  | case2 => cases h
  | case3 d c t r' ha ih =>
    obtain ⟨u, hu, rfl⟩ := eq_append_of_prepended h
    rw [List.cons_append, enclosedRest_opener (atom_append ha), ih hu]
    rfl
  | case4 c t r' ha hne =>
    cases h
    rw [List.cons_append, enclosedRest_last (atom_append ha) (by simpa using hne)]
  | case5 c t r' d ha hne ih =>
    obtain ⟨u, hu, rfl⟩ := eq_append_of_prepended h
    rw [List.cons_append, enclosedRest_closer (atom_append ha) (by simpa using hne), ih hu]
    rfl
  | case6 d c t s r' ha hne hcl ih =>
    obtain ⟨u, hu, rfl⟩ := eq_append_of_prepended h
    rw [List.cons_append, enclosedRest_other (atom_append ha) hne hcl, ih hu]
    rfl

end Enclosed

/-- What was taken off a text and what is left, with more text behind it. -/
def furnished (v : Text) (p : Text × Text) : Text × Text := (p.1, p.2 ++ v)

theorem arrow?_of_ne (h : c ≠ '-') : arrow? (c :: r) = none := by
  unfold arrow?
  split <;> simp_all

theorem arrow?_hyphen (h : r.head? ≠ some '>') : arrow? ('-' :: r) = none := by
  unfold arrow?
  split <;> simp_all

theorem arrow?_single (h : r.head? ≠ some '>') :
    arrow? ('-' :: '>' :: r) = some (['-', '>'], r) := by
  unfold arrow?
  split <;> simp_all

theorem arrow?_append (hv : v.head? ≠ some '>') :
    arrow? (c :: (r ++ v)) = (arrow? (c :: r)).map (furnished v) := by
  by_cases hc : c = '-'
  · subst hc
    rcases r with _ | ⟨d, r⟩
    · rw [List.nil_append, arrow?_hyphen hv, arrow?_hyphen (by simp)]
      rfl
    · by_cases hd : d = '>'
      · subst hd
        rcases r with _ | ⟨e, r⟩
        · rw [List.cons_append, List.nil_append, arrow?_single hv, arrow?_single (by simp)]
          rfl
        · by_cases he : e = '>'
          · subst he
            rfl
          · have hn : (e :: r).head? ≠ some '>' := by simpa using he
            rw [List.cons_append, arrow?_single hn, List.cons_append,
              arrow?_single (by simpa using he)]
            rfl
      · rw [List.cons_append, arrow?_hyphen (by simpa using hd), arrow?_hyphen (by simpa using hd)]
        rfl
  · rw [arrow?_of_ne hc, arrow?_of_ne hc]
    rfl

theorem map_some_append {x y : Except Stop (Text × Text)} {o : Option (Text × Text)}
    (hxy : ∀ s s', x = .ok (s, s') → y = .ok (s, s' ++ v)) (h : x.map some = .ok o) :
    y.map some = .ok (o.map (furnished v)) := by
  obtain ⟨p, hp, rfl⟩ := exists_of_map_eq_ok h
  rw [hxy p.1 p.2 hp]
  rfl

theorem span?_append {o : Option (Text × Text)} (hv : v.head? ≠ some '>')
    (h : span? word c r = .ok o) : span? word c (r ++ v) = .ok (o.map (furnished v)) := by
  have enclosed {op cl : Char}
      (h : (prepended [c] (enclosedRest (c :: r) op cl 0 r)).map some = .ok o) :
      (prepended [c] (enclosedRest (c :: (r ++ v)) op cl 0 (r ++ v))).map some =
        .ok (o.map (furnished v)) := by
    refine map_some_append (fun s s' hs => ?_) h
    obtain ⟨u, hu, rfl⟩ := eq_append_of_prepended hs
    rw [enclosedRest_append hu]
    rfl
  unfold span? at h ⊢
  by_cases hq : c = '\\' ∨ isQuote c = true
  · rw [if_pos hq] at h ⊢
    exact map_some_append (fun s s' hs => atom_append hs) h
  · rw [if_neg hq] at h ⊢
    by_cases hb : c = '['
    · rw [if_pos hb] at h ⊢
      exact enclosed h
    · rw [if_neg hb] at h ⊢
      by_cases hw : c = '(' ∧ word = true
      · rw [if_pos hw] at h ⊢
        exact enclosed h
      · rw [if_neg hw] at h ⊢
        cases h
        rw [arrow?_append hv]

def startsSpan (c : Char) : Bool := c == '\\' || isQuote c || c == '[' || c == '(' || c == '-'

theorem span?_of_not_startsSpan (h : startsSpan c = false) : span? word c r = .ok none := by
  simp only [startsSpan, Bool.or_eq_false_iff, beq_eq_false_iff_ne] at h
  obtain ⟨⟨⟨⟨hb, hq⟩, hs⟩, hp⟩, hh⟩ := h
  rw [span?, if_neg (by simp [hb, hq]), if_neg hs, if_neg (fun hc => hp hc.1), arrow?_of_ne hh]

def Cutter.Single (cutter : Cutter) : Prop := ∀ m ∈ cutter.marks, m.length = 1

/-- Behind more text, `v` makes neither a delimiter nor an arrow longer, nor does it undo one. -/
structure Cutter.Apart (cutter : Cutter) (v : Text) : Prop where
  equals : v.head? ≠ some '='
  arrow : v.head? ≠ some '>'
  marks : ∀ m ∈ cutter.marks, ∀ d ∈ m.tail, v.head? ≠ some d

theorem Cutter.Single.apart {cutter : Cutter} (hs : cutter.Single) (he : v.head? ≠ some '=')
    (hgt : v.head? ≠ some '>') : cutter.Apart v := by
  refine ⟨he, hgt, fun m hm d hd => ?_⟩
  obtain ⟨c, rfl⟩ := List.length_eq_one_iff.1 (hs m hm)
  cases hd

theorem Text.after?_append {m t : Text} (hm : ∀ d ∈ m, v.head? ≠ some d) :
    after? m (t ++ v) = (after? m t).map (· ++ v) := by
  induction m generalizing t with
  | nil => rfl
  | cons d m ih =>
    obtain ⟨hd, hm⟩ := List.forall_mem_cons.1 hm
    cases t with
    | nil =>
      cases v with
      | nil => rfl
      | cons c v =>
        have hne : d ≠ c := fun h => hd (by rw [h]; rfl)
        simp [after?, hne]
    | cons c t =>
      by_cases hc : d = c
      · simpa [after?, hc] using ih hm
      · simp [after?, hc]

theorem firstMark_append {marks : List Text} {follow : Text → Bool}
    (hm : ∀ m ∈ marks, ∀ d ∈ m.tail, v.head? ≠ some d) (hf : ∀ r, follow (r ++ v) = follow r) :
    firstMark marks follow (c :: (r ++ v)) = (firstMark marks follow (c :: r)).map
      (furnished v) := by
  induction marks with
  | nil => rfl
  | cons m ms ih =>
    obtain ⟨hm, hms⟩ := List.forall_mem_cons.1 hm
    have hafter : Text.after? m (c :: (r ++ v)) = (Text.after? m (c :: r)).map (· ++ v) := by
      cases m with
      | nil => rfl
      | cons d m =>
        by_cases hd : d = c
        · simpa [Text.after?, hd] using Text.after?_append hm
        · simp [Text.after?, hd]
    rw [firstMark, firstMark, hafter]
    cases Text.after? m (c :: r) with
    | none => exact ih hms
    | some s =>
      simp only [Option.map_some, hf]
      split
      · rfl
      · exact ih hms

theorem Cutter.mark?_append {cutter : Cutter} (hv : cutter.Apart v) :
    cutter.mark? (c :: (r ++ v)) = (cutter.mark? (c :: r)).map (furnished v) := by
  refine firstMark_append hv.marks fun s => ?_
  cases s with
  | nil =>
    have hhead : (v.head? != some '=') = true := by simpa using hv.equals
    simp [hhead]
  | cons d s => rfl

end QueryShorthand
