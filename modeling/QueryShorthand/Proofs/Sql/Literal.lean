import QueryShorthand.Proofs.Sql.Reading

/-! Literals and quoted names as a database decodes them. -/
namespace QueryShorthand.Sql

def withFirst (c : Char) (p : Text × Text) : Text × Text := (c :: p.1, p.2)

/-- Reads on from inside quotes: the content up to the closing one, and the text behind it. A
doubled quote stands for one; if `escapes`, a backslash takes the next character as it is. -/
def contentRest? (quote : Char) (escapes : Bool) : Text → Option (Text × Text)
  | [] => none
  | [c] => if c = quote then some ([], []) else none
  | c :: d :: r =>
    if c = quote then
      if d = quote then (contentRest? quote escapes r).map (withFirst quote) else some ([], d :: r)
    else if c = '\\' ∧ escapes then (contentRest? quote escapes r).map (withFirst d)
    else (contentRest? quote escapes (d :: r)).map (withFirst c)

def quoted? (quote : Char) (escapes : Bool) : Text → Option (Text × Text)
  | [] => none
  | c :: r => if c = quote then contentRest? quote escapes r else none

def literal? (d : Dialect) (t : Text) : Option (Text × Text) := quoted? '\'' (d == .mysql) t

def name? (d : Dialect) (t : Text) : Option (Text × Text) := quoted? d.nameQuote false t

variable {q c : Char} {escapes : Bool} {d : Dialect} {t u r : Text}

theorem contentRest?_doubled (h : contentRest? q escapes u = some (t, r)) :
    contentRest? q escapes (q :: q :: u) = some (q :: t, r) := by
  rw [contentRest?, if_pos rfl, if_pos rfl, h]
  rfl

theorem contentRest?_escaped (hq : q ≠ '\\') (h : contentRest? q true u = some (t, r)) :
    contentRest? q true ('\\' :: c :: u) = some (c :: t, r) := by
  rw [contentRest?, if_neg hq.symm, if_pos ⟨rfl, rfl⟩, h]
  rfl

theorem contentRest?_plain (hq : c ≠ q) (hb : c = '\\' → escapes = false)
    (h : contentRest? q escapes u = some (t, r)) :
    contentRest? q escapes (c :: u) = some (c :: t, r) := by
  cases u with
  | nil => cases h
  | cons d u =>
    have hescape : ¬ (c = '\\' ∧ escapes = true) := fun hc => by simp [hb hc.1] at hc
    rw [contentRest?, if_neg hq, if_neg hescape, h]
    rfl

theorem contentRest?_closing (hr : r.head? ≠ some q) :
    contentRest? q escapes (q :: r) = some ([], r) := by
  cases r with
  | nil => simp [contentRest?]
  | cons d r =>
    have hd : d ≠ q := by simpa using hr
    simp [contentRest?, hd]

theorem doubled_cons :
    Dialect.doubled q (c :: t) = (if c = q then [q, q] else [c]) ++ Dialect.doubled q t :=
  List.flatMap_cons

theorem contentRest?_doubled_text (hr : r.head? ≠ some q) :
    contentRest? q false (Dialect.doubled q t ++ q :: r) = some (t, r) := by
  induction t with
  | nil => exact contentRest?_closing hr
  | cons c t ih =>
    rw [doubled_cons, List.append_assoc]
    by_cases hc : c = q
    · rw [if_pos hc, hc]
      exact contentRest?_doubled ih
    · rw [if_neg hc]
      exact contentRest?_plain hc (fun _ => rfl) ih

theorem name?_quoteName (hr : r.head? ≠ some d.nameQuote) :
    name? d (d.quoteName t ++ r) = some (t, r) := by
  rw [name?, Dialect.quoteName, List.cons_append, List.append_assoc, quoted?, if_pos rfl]
  exact contentRest?_doubled_text hr

theorem quoteName_inj : d.quoteName t = d.quoteName u ↔ t = u := by
  refine ⟨fun h => ?_, congrArg _⟩
  have ht := name?_quoteName (d := d) (t := t) (r := []) (by simp)
  have hu := name?_quoteName (d := d) (t := u) (r := []) (by simp)
  rw [h] at ht
  exact (Prod.mk.inj (Option.some.inj (ht.symm.trans hu))).1

theorem literalBody_cons :
    literalBody d (c :: t) =
      (if c = '\'' then ['\'', '\''] else if c = '\\' ∧ d = .mysql then ['\\', '\\'] else [c])
        ++ literalBody d t := by
  cases d
  case mysql =>
    by_cases hq : c = '\''
    · simp [literalBody, doubled_cons, hq]
    · by_cases hb : c = '\\'
      · simp [literalBody, doubled_cons, hb]
      · simp [literalBody, doubled_cons, hq, hb]
  all_goals simp [literalBody, doubled_cons]

theorem contentRest?_literalBody (hr : r.head? ≠ some '\'') :
    contentRest? '\'' (d == .mysql) (literalBody d t ++ '\'' :: r) = some (t, r) := by
  induction t with
  | nil =>
    have hnil : literalBody d [] = [] := by cases d <;> rfl
    rw [hnil]
    exact contentRest?_closing hr
  | cons c t ih =>
    rw [literalBody_cons, List.append_assoc]
    by_cases hq : c = '\''
    · rw [if_pos hq, hq]
      exact contentRest?_doubled ih
    rw [if_neg hq]
    by_cases hb : c = '\\' ∧ d = .mysql
    · obtain ⟨rfl, rfl⟩ := hb
      rw [if_pos ⟨rfl, rfl⟩]
      exact contentRest?_escaped (by decide) ih
    · rw [if_neg hb]
      exact contentRest?_plain hq (fun hc => by simpa [hc] using hb) ih

theorem literal?_quoteText (hr : r.head? ≠ some '\'') :
    literal? d (d.quoteText t ++ r) = some (t, r) := by
  rw [literal?, quoteText_eq, List.cons_append, List.append_assoc, quoted?, if_pos rfl]
  exact contentRest?_literalBody hr

/-- Quoting is undone by the reading rule of the dialect, which stops right behind the quotes: no
text can end its quotes early, nor take in what follows. -/
theorem decodes_quoted (d : Dialect) (t r : Text) :
    (r.head? ≠ some '\'' → literal? d (d.quoteText t ++ r) = some (t, r)) ∧
      (r.head? ≠ some d.nameQuote → name? d (d.quoteName t ++ r) = some (t, r)) :=
  ⟨literal?_quoteText, name?_quoteName⟩

/-- A text that ends in a backslash and a quote, before another condition. -/
theorem decodes_quoted_backslash :
    literal? .mysql (Dialect.mysql.quoteText "a\\'".toList ++ " OR 1".toList)
        = some ("a\\'".toList, " OR 1".toList) ∧
      name? .mysql (Dialect.mysql.quoteName "a\x60".toList ++ " OR 1".toList)
        = some ("a\x60".toList, " OR 1".toList) :=
  ⟨(decodes_quoted .mysql _ _).1 (by decide), (decodes_quoted .mysql _ _).2 (by decide)⟩

end QueryShorthand.Sql
