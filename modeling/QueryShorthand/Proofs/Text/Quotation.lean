import QueryShorthand.Text.Quoted

/-! Texts as they may stand between quotes. -/
namespace QueryShorthand.Text

/-- The text as it may stand between quotes. Other characters may be escaped too, but a line break
only if `multiline`. -/
inductive Quotation (quote : Char) (multiline : Bool) : Text → Text → Prop where
  | nil : Quotation quote multiline [] []
  | escaped {c : Char} {t u : Text} (hc : ¬ (c = '\n' ∧ !multiline))
      (h : Quotation quote multiline t u) :
      Quotation quote multiline (c :: t) ('\\' :: c :: u)
  | plain {c : Char} {t u : Text} (hc : c ≠ '\\' ∧ c ≠ quote) (h : Quotation quote multiline t u) :
      Quotation quote multiline (c :: t) (c :: u)

variable {q c : Char} {m : Bool} {s s' t u v r : Text}

theorem quotedRest?_cons (h : c ≠ '\\') : quotedRest? q m (c :: r) =
    if c = q then some ([], r) else (quotedRest? q m r).map fun p => (c :: p.1, p.2) :=
  quotedRest?.eq_4 q m c r (fun hc => absurd hc h) fun _ _ hc => absurd hc h

theorem Quotation.quotedRest?_append (h : Quotation q m s u) (r : Text) :
    Text.quotedRest? q m (u ++ r) = (Text.quotedRest? q m r).map fun p => (s ++ p.1, p.2) := by
  induction h with
  | nil => simp
  | escaped hc _ ih =>
    rw [List.cons_append, List.cons_append, Text.quotedRest?, if_neg hc, ih, Option.map_map]
    rfl
  | plain hc _ ih =>
    rw [List.cons_append, quotedRest?_cons hc.1, if_neg hc.2, ih, Option.map_map]
    rfl

theorem Quotation.quotedRest? (h : Quotation q m s u) (hq : q ≠ '\\') (r : Text) :
    quotedRest? q m (u ++ q :: r) = some (s, r) := by
  rw [h.quotedRest?_append, quotedRest?_cons hq, if_pos rfl, Option.map_some, List.append_nil]

theorem quotation_of_quotedRest? (h : quotedRest? q m t = some (s, r)) :
    q ≠ '\\' ∧ ∃ u, Quotation q m s u ∧ t = u ++ q :: r := by
  fun_induction Text.quotedRest? q m t generalizing s with
  | case1 => cases h
  | case2 => cases h
  | case3 => cases h
  | case4 c t hline ih =>
    obtain ⟨⟨s', r'⟩, hrest, h⟩ := Option.map_eq_some_iff.1 h
    cases h
    obtain ⟨hq, u, hu, rfl⟩ := ih hrest
    exact ⟨hq, _, .escaped hline hu, rfl⟩
  | case5 t hlast hescape =>
    cases h
    exact ⟨ne_backslash hlast hescape, [], .nil, rfl⟩
  | case6 c t hlast hescape hne ih =>
    obtain ⟨⟨s', r'⟩, hrest, h⟩ := Option.map_eq_some_iff.1 h
    cases h
    obtain ⟨hq, u, hu, rfl⟩ := ih hrest
    exact ⟨hq, _, .plain ⟨ne_backslash hlast hescape, hne⟩ hu, rfl⟩

theorem Quotation.append (h : Quotation q m s u) (h' : Quotation q m s' v) :
    Quotation q m (s ++ s') (u ++ v) := by
  induction h with
  | nil => exact h'
  | escaped hc _ ih => exact .escaped hc ih
  | plain hc _ ih => exact .plain hc ih

theorem Quotation.unescape_eq (h : Quotation q m s u) : unescape u = s := by
  induction h with
  | nil => rfl
  | escaped _ _ ih => rw [unescape, ih]
  | plain hc _ ih => rw [unescape.eq_4 _ _ (by simp [hc.1]) (by simp [hc.1]), ih]

theorem Quotation.length_le (h : Quotation q m s u) : s.length ≤ u.length := by
  induction h with
  | nil => exact Nat.le_refl _
  | escaped _ _ ih =>
    simp only [List.length_cons]
    omega
  | plain _ _ ih =>
    simp only [List.length_cons]
    omega

theorem Quotation.multiline (h : Quotation q false s u) : Quotation q true s u := by
  induction h with
  | nil => exact .nil
  | escaped _ _ ih => exact .escaped (by simp) ih
  | plain hc _ ih => exact .plain hc ih

theorem Quotation.ne_cons (hq : q ≠ '\\') (h : Quotation q m s u) (r : Text) : u ≠ q :: r := by
  rintro rfl
  cases h with
  | escaped => exact hq rfl
  | plain hc => exact hc.2 rfl

theorem Quotation.eq_backslash (hq : q ≠ '\\') (h : Quotation q m s u) (hu : u = t ++ c :: q :: r) :
    c = '\\' := by
  induction h generalizing t with
  | nil => simp at hu
  | escaped _ h ih =>
    rcases t with _ | ⟨d, _ | ⟨d', t⟩⟩
    · exact (List.cons.inj hu).1.symm
    · exact absurd (List.cons.inj (List.cons.inj hu).2).2 (h.ne_cons hq r)
    · exact ih (List.cons.inj (List.cons.inj hu).2).2
  | plain _ h ih =>
    cases t with
    | nil => exact absurd (List.cons.inj hu).2 (h.ne_cons hq r)
    | cons d t => exact ih (List.cons.inj hu).2

theorem quotation_escape (hq : q ≠ '\n') (t : Text) : Quotation q m t (escape q t) := by
  induction t with
  | nil => exact .nil
  | cons c t ih =>
    rw [escape]
    split
    · next hc =>
      refine .escaped ?_ ih
      rintro ⟨rfl, -⟩
      rcases hc with hc | hc
      · exact absurd hc (by decide)
      · exact hq hc.symm
    · next hc => exact .plain (not_or.1 hc) ih

end QueryShorthand.Text
