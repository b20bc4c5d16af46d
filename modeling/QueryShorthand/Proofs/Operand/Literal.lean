import QueryShorthand.Proofs.Operand.Writing

/-! Operands in quotes. Only the first and the last character tell a literal, so a quote at the end
counts even where it does not close the first one. -/
namespace QueryShorthand

namespace Text

/-- Behind its opening quote, the text closes with its last character, the first quote in it that is
not escaped; `s` is what stands before that, without the escapes. -/
def Closes (q : Char) (s t : Text) : Prop := ∃ u, Quotation q true s u ∧ t = u ++ [q]

/-- Behind its opening quote, the text ends with a quote that does not close it: another one closes
it before, or this one is escaped. -/
inductive Misclosed (q : Char) : Text → Prop where
  | early {s u : Text} (v : Text) (h : Quotation q true s u) : Misclosed q (u ++ q :: (v ++ [q]))
  | escaped {s u : Text} (h : Quotation q true s u) : Misclosed q (u ++ ['\\', q])

variable {q : Char} {s t u : Text}

theorem Misclosed.behind (h : Misclosed q t) (hu : Quotation q true s u) :
    Misclosed q (u ++ t) := by
  cases h with
  | early v h =>
    rw [← List.append_assoc]
    exact .early v (hu.append h)
  | escaped h =>
    rw [← List.append_assoc]
    exact .escaped (hu.append h)

theorem Misclosed.exists_append (h : Misclosed q t) : ∃ u, t = u ++ [q] := by
  cases h with
  | @early _ u v h => exact ⟨u ++ q :: v, by simp⟩
  | @escaped _ u h => exact ⟨u ++ ['\\'], by simp⟩

theorem Misclosed.not_closes (hq : q ≠ '\\') (h : Misclosed q t) : ¬ Closes q s t := by
  rintro ⟨u, hu, rfl⟩
  have hread : quotedRest? q true (u ++ [q]) = some (s, []) := hu.quotedRest? hq []
  generalize u ++ [q] = t at h hread
  cases h with
  | early v h =>
    rw [h.quotedRest? hq] at hread
    simp at hread
  | escaped h =>
    have hnone : quotedRest? q true ['\\', q] = none := by simp [quotedRest?]
    rw [h.quotedRest?_append, hnone] at hread
    cases hread

theorem closes_or_misclosed (q : Char) (u : Text) :
    (∃ s, Closes q s (u ++ [q])) ∨ Misclosed q (u ++ [q]) := by
  suffices h : (∃ s, Quotation q true s u) ∨ Misclosed q (u ++ [q]) from
    h.imp_left fun ⟨s, hs⟩ => ⟨s, u, hs, rfl⟩
  fun_induction unescape u with
  | case1 => exact .inl ⟨[], .nil⟩
  | case2 => exact .inr (.escaped .nil)
  | case3 c r ih =>
    have hescape : Quotation q true [c] ['\\', c] := .escaped (by simp) .nil
    rcases ih with ⟨s, hs⟩ | h
    · exact .inl ⟨_, hescape.append hs⟩
    · exact .inr (h.behind hescape)
  | case4 c r hlast hescape ih =>
    have hc : c ≠ '\\' := ne_backslash hlast hescape
    by_cases hq : c = q
    · subst hq
      exact .inr (.early r .nil)
    · have hplain : Quotation q true [c] [c] := .plain ⟨hc, hq⟩ .nil
      rcases ih with ⟨s, hs⟩ | h
      · exact .inl ⟨_, hplain.append hs⟩
      · exact .inr (h.behind hplain)

end Text

namespace Operand

variable {q : Char} {r t : Text}

theorem isQuoted_cons (hq : q = '\'' ∨ q = '"') :
    Text.isQuoted (q :: r) = true ↔ r.getLast? = some q := by
  rcases hq with rfl | rfl <;> cases r <;> simp [Text.isQuoted, Text.isWrapped, List.getLast?_cons]

theorem simple?_quote (hq : q = '\'' ∨ q = '"') : simple? (q :: r) =
    .ok (if r.getLast? = some q then some (literal (Text.unescape r.dropLast)) else none) := by
  have other : q ∉ ['?', ':', '[', '$', '-', '\x60', '*'] ∧ isDecimalDigit q = false ∧
      Name.isStart q = false ∧ q ∉ "nulNUL".toList := by
    rcases hq with rfl | rfl <;> decide
  obtain ⟨hsign, hdigit, hstart, hletter⟩ := other
  simp only [List.mem_cons, List.not_mem_nil, or_false, not_or] at hsign
  obtain ⟨hauto, hparam, harray, hdollar, hminus, htick, hstar⟩ := hsign
  have hnull : isNullWord (q :: r) = false := not_isNullWord List.mem_cons_self hletter
  by_cases hr : r.getLast? = some q
  · have hquoted : Text.isQuoted (q :: r) = true := (isQuoted_cons hq).2 hr
    have hunquote : Text.unquote (q :: r) = Text.unescape r.dropLast := by
      rw [Text.unquote, if_pos (by simp [hquoted])]
      rfl
    simp [simple?, hauto, parameter?_none hparam, harray, hnull, hquoted, hr, hunquote]
  · have hquoted : Text.isQuoted (q :: r) = false := by
      rw [← Bool.not_eq_true, isQuoted_cons hq]
      exact hr
    simp [simple?, hauto, parameter?_none hparam, harray, hnull, hquoted,
      isBareLiteral_false hdollar hdigit hminus, column_read?_none hstart htick hstar, hr]

theorem read_quote (hq : q = '\'' ∨ q = '"') (ht : t.trim = q :: r) : read t =
    if r.getLast? = some q then .ok (literal (Text.unescape r.dropLast))
      else .error (.operand t.trim) := by
  have hcall : call? (q :: r) = none := by
    have hword : Name.word? (q :: r) = none := by rcases hq with rfl | rfl <;> rfl
    rw [call?, hword]
  rw [read_eq, ht, simple?_quote hq]
  by_cases hr : r.getLast? = some q
  · simp only [if_pos hr]
  · simp only [if_neg hr, hcall]

theorem read_quote_append {u : Text} (hq : q = '\'' ∨ q = '"') (ht : t.trim = q :: (u ++ [q])) :
    read t = .ok (literal (Text.unescape u)) := by
  rw [read_quote hq ht, if_pos (by simp), List.dropLast_concat]

/-- A text that begins with a quote is a literal if it closes with its last character, and no
operand otherwise. The exception is a misclosed text: all that stands between its first and last
character is taken for a literal. -/
theorem read_of_quote (hq : q = '\'' ∨ q = '"') (ht : t.trim = q :: r) :
    (∀ s, Text.Closes q s r → read t = .ok (literal s)) ∧
      ((∀ s, ¬ Text.Closes q s r) → ¬ Text.Misclosed q r → read t = .error (.operand t.trim)) ∧
      (Text.Misclosed q r → (∀ s, ¬ Text.Closes q s r) ∧
        ∃ u, r = u ++ [q] ∧ read t = .ok (literal (Text.unescape u))) := by
  have hbackslash : q ≠ '\\' := by rcases hq with rfl | rfl <;> decide
  refine ⟨?_, fun hopen hmis => ?_, fun hmis => ⟨fun s => hmis.not_closes hbackslash, ?_⟩⟩
  · rintro s ⟨u, hu, rfl⟩
    rw [read_quote_append hq ht, hu.unescape_eq]
  · rw [read_quote hq ht, if_neg]
    intro hlast
    obtain ⟨u, rfl⟩ := List.getLast?_eq_some_iff.1 hlast
    rcases Text.closes_or_misclosed q u with ⟨s, hs⟩ | hu
    · exact hopen s hs
    · exact hmis hu
  · obtain ⟨u, rfl⟩ := hmis.exists_append
    exact ⟨u, rfl, read_quote_append hq ht⟩

theorem read_of_quote_escaped :
    Text.trim " 'it\\'s \"so\"' ".toList = '\'' :: "it\\'s \"so\"'".toList ∧
      Text.Closes '\'' "it's \"so\"".toList "it\\'s \"so\"'".toList ∧
      read " 'it\\'s \"so\"' ".toList = .ok (literal "it's \"so\"".toList) := by
  have htrim : Text.trim " 'it\\'s \"so\"' ".toList = '\'' :: "it\\'s \"so\"'".toList := by decide
  have hclosed : Text.Closes '\'' "it's \"so\"".toList "it\\'s \"so\"'".toList :=
    ⟨_, Text.quotation_escape (by decide) "it's \"so\"".toList, by decide⟩
  exact ⟨htrim, hclosed, (read_of_quote (.inl rfl) htrim).1 _ hclosed⟩

/-- Two literals side by side, and one whose closing quote is escaped, are taken for a literal. -/
theorem read_of_quote_misclosed :
    (read "'a' 'b'".toList = .ok (literal "a' 'b".toList) ∧
      ∀ s, ¬ Text.Closes '\'' s "a' 'b'".toList) ∧
      read "'a\\'".toList = .ok (literal ['a']) ∧ ∀ s, ¬ Text.Closes '\'' s "a\\'".toList := by
  have hletter : Text.Quotation '\'' true ['a'] ['a'] := .plain (by decide) .nil
  have hadjacent : Text.Misclosed '\'' "a' 'b'".toList := .early " 'b".toList hletter
  have hescaped : Text.Misclosed '\'' "a\\'".toList := .escaped hletter
  refine ⟨⟨?_, fun s => hadjacent.not_closes (by decide)⟩, ?_, fun s =>
    hescaped.not_closes (by decide)⟩
  · exact read_quote_append (u := "a' 'b".toList) (.inl rfl) (by decide)
  · exact read_quote_append (u := "a\\".toList) (.inl rfl) (by decide)

end Operand

end QueryShorthand
