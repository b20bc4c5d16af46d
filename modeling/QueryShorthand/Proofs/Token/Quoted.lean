import QueryShorthand.Proofs.Token.Inside

/-! Quoted texts with more text behind them. -/
namespace QueryShorthand

variable {q : Char} {m word : Bool} {s t u x r : Text}

theorem not_endsWord_of_isQuote (hq : isQuote q = true) : endsWord q = false := by
  rcases isQuote_iff.1 hq with rfl | rfl | rfl <;> decide

theorem Text.Quotation.unquote_eq (hq : isQuote q = true) (h : Quotation q m x u) :
    unquote (q :: (u ++ [q])) = x := by
  rw [unquote_between (isQuote_iff.1 hq), h.unescape_eq]

/-- A span that begins with a quote ends with the quote that closes it, and what stands between them
is a way to write the text that unquoting gives. -/
theorem span?_quote_iff (hq : isQuote q = true) : span? word q t = .ok (some (s, r)) ↔
    ∃ u, Text.Quotation q true s.unquote u ∧ s = q :: (u ++ [q]) ∧ t = u ++ q :: r := by
  rw [span?, if_pos (.inr hq)]
  constructor
  · intro h
    obtain ⟨p, hatom, hp⟩ := exists_of_map_eq_ok h
    obtain rfl := Option.some.inj hp
    obtain ⟨v, hread, rfl⟩ := (atom_quote_iff hq).1 hatom
    obtain ⟨-, x, u, hu, rfl, rfl⟩ := quotation_of_quotedRest hread
    refine ⟨u, ?_, rfl, rfl⟩
    rwa [hu.unquote_eq hq]
  · rintro ⟨u, hu, hs, rfl⟩
    have hread : quotedRest q (u ++ q :: r) = .ok (u ++ [q], r) :=
      hu.quotedRest_quote (ne_backslash_of_isQuote hq) r
    rw [(atom_quote_iff hq).2 ⟨_, hread, hs⟩]
    rfl

/-- Unquoting undoes escaping, and at a quoted text the scan takes the whole of it as one span,
whatever was read before and whatever stands behind it, also between brackets. -/
theorem Text.unquote_and_span_quoted (hq : q = '"' ∨ q = '\'' ∨ q = backtick) (t r : Text) :
    unquote (quoted q t) = t ∧
      (∀ word, span? word q (escape q t ++ q :: r) = .ok (some (quoted q t, r))) ∧
      (∀ (cutter : Cutter) word, cutter.pieces word (quoted q t ++ r) =
        (cutter.pieces false r).after (.span (quoted q t))) ∧
      ∀ start opener closer depth, enclosedRest start opener closer depth (quoted q t ++ r) =
        prepended (quoted q t) (enclosedRest start opener closer depth r) := by
  have hquote : isQuote q = true := isQuote_iff.2 hq
  have hline : q ≠ '\n' := by rcases hq with rfl | rfl | rfl <;> decide
  have hwritten : Quotation q true t (escape q t) := quotation_escape hline t
  have hunquote : unquote (quoted q t) = t := unquote_quoted hq t
  have hspan (word : Bool) : span? word q (escape q t ++ q :: r) = .ok (some (quoted q t, r)) := by
    refine (span?_quote_iff hquote).2 ⟨escape q t, ?_, rfl, rfl⟩
    rwa [hunquote]
  refine ⟨hunquote, hspan, fun cutter word => ?_, fun start o cl d => ?_⟩
  · have hgroup : ¬ cutter.Groups word q := Cutter.not_groups_of_isQuote hquote
    have hlast : lastEndsWord (quoted q t) = false := by
      simpa [lastEndsWord, quoted, List.getLast?_cons] using not_endsWord_of_isQuote hquote
    rw [← hlast, ← Cutter.pieces_span hgroup (hspan word), quoted, List.cons_append,
      List.append_assoc]
    rfl
  · exact balanced_quoted hquote hwritten.quotedRest_append start d r

/-- A quote in the text, and a backslash right before the closing quote. -/
theorem Text.unquote_and_span_quoted_backslash :
    unquote "'it\\'s \\\\'".toList = "it's \\".toList ∧
      span? true '\'' "it\\'s \\\\'=b] c".toList = .ok
        (some ("'it\\'s \\\\'".toList, "=b] c".toList)) ∧
      (Cutter.operators [['=']]).pieces true "'it\\'s \\\\'=b] c".toList =
        ((Cutter.operators [['=']]).pieces false "=b] c".toList).after
          (.span "'it\\'s \\\\'".toList) ∧
      enclosedRest ['['] '[' ']' 0 "'it\\'s \\\\'=b] c".toList =
        .ok ("'it\\'s \\\\'=b]".toList, " c".toList) := by
  obtain ⟨hunquote, hspan, hpieces, henclosed⟩ :=
    unquote_and_span_quoted (.inr (.inl rfl)) "it's \\".toList "=b] c".toList
  have hclose : enclosedRest ['['] '[' ']' 0 "=b] c".toList = .ok ("=b]".toList, " c".toList) := by
    decide +kernel
  refine ⟨hunquote, hspan true, hpieces _ true, ?_⟩
  have hwhole := henclosed ['['] '[' ']' 0
  rw [hclose] at hwhole
  exact hwhole

end QueryShorthand
