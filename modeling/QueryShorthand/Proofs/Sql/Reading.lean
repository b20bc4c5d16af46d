import QueryShorthand.Dialect

/-! Reading SQL text one character at a time: which characters stand inside literals, quoted names
and parentheses. Literals follow the rule of the dialect: a doubled quote does not close one, and on
MySQL a backslash takes the next character with it. -/
namespace QueryShorthand.Sql

inductive Mode where
  | code
  | name
  | literal
  | escape
  /-- Behind a quote inside a literal, which is closed unless another quote follows. -/
  | quote
  deriving DecidableEq, Repr

structure Place where
  mode : Mode
  depth : Nat
  deriving DecidableEq, Repr

def Place.start : Place := ⟨.code, 0⟩

def nextInCode (d : Dialect) (depth : Nat) (c : Char) : Place :=
  if c = '\'' then ⟨.literal, depth⟩
  else if c = d.nameQuote then ⟨.name, depth⟩
  else if c = '(' then ⟨.code, depth + 1⟩
  else if c = ')' then ⟨.code, depth - 1⟩
  else ⟨.code, depth⟩

def next (d : Dialect) (p : Place) (c : Char) : Place :=
  match p.mode with
  | .code => nextInCode d p.depth c
  | .name => if c = d.nameQuote then ⟨.code, p.depth⟩ else p
  | .literal =>
    if c = '\'' then ⟨.quote, p.depth⟩
    else if c = '\\' ∧ d = .mysql then ⟨.escape, p.depth⟩
    else p
  | .escape => ⟨.literal, p.depth⟩
  | .quote => if c = '\'' then ⟨.literal, p.depth⟩ else nextInCode d p.depth c

def place (d : Dialect) (p : Place) (t : Text) : Place := t.foldl (next d) p

/-- What a character leaves in the skeleton of a text: an opening quote leaves an empty literal, the
rest of a literal nothing. -/
def shown (p : Place) (c : Char) : Text :=
  match p.mode with
  | .code => if c = '\'' then ['\'', '\''] else [c]
  | .name => [c]
  | .literal => []
  | .escape => []
  | .quote => if c = '\'' then [] else [c]

def skeletonFrom (d : Dialect) (p : Place) : Text → Text
  | [] => []
  | c :: r => shown p c ++ skeletonFrom d (next d p c) r

def skeleton (d : Dialect) (t : Text) : Text := skeletonFrom d .start t

/-- Neither quoted nor in parentheses, nor a quote or a parenthesis itself. -/
def isTop (d : Dialect) (p : Place) (c : Char) : Bool :=
  p.depth == 0 && (p.mode == .code || p.mode == .quote) && c != '\'' && c != d.nameQuote
    && c != '(' && c != ')'

/-- A character and whether it stands at the top level. -/
abbrev Cell := Char × Bool

def cellsFrom (d : Dialect) (p : Place) : Text → List Cell
  | [] => []
  | c :: r => (c, isTop d p c) :: cellsFrom d (next d p c) r

def cells (d : Dialect) (t : Text) : List Cell := cellsFrom d .start t

structure Settled (n : Nat) (p : Place) : Prop where
  depth : p.depth = n
  mode : p.mode = .code ∨ p.mode = .quote

variable {d : Dialect} {n : Nat} {p : Place}

theorem settled_code : Settled n ⟨.code, n⟩ := ⟨rfl, .inl rfl⟩

theorem settled_quote : Settled n ⟨.quote, n⟩ := ⟨rfl, .inr rfl⟩

@[simp] theorem place_nil : place d p [] = p := rfl

@[simp] theorem place_cons (c : Char) (r : Text) : place d p (c :: r) = place d (next d p c) r :=
  rfl

@[simp] theorem place_append (t u : Text) : place d p (t ++ u) = place d (place d p t) u :=
  List.foldl_append

theorem skeletonFrom_append (t u : Text) :
    skeletonFrom d p (t ++ u) = skeletonFrom d p t ++ skeletonFrom d (place d p t) u := by
  induction t generalizing p with
  | nil => rfl
  | cons c r ih => simp [skeletonFrom, ih]

theorem cellsFrom_append (t u : Text) :
    cellsFrom d p (t ++ u) = cellsFrom d p t ++ cellsFrom d (place d p t) u := by
  induction t generalizing p with
  | nil => rfl
  | cons c r ih => simp [cellsFrom, ih]

theorem map_fst_cellsFrom (t : Text) : (cellsFrom d p t).map Prod.fst = t := by
  induction t generalizing p with
  | nil => rfl
  | cons c r ih => simp [cellsFrom, ih]

/-- Behind a closed literal, anything but a quote is read as in code. -/
theorem next_of_settled (h : Settled n p) {c : Char} (hc : c ≠ '\'') :
    next d p c = nextInCode d n c := by
  rcases p with ⟨m, k⟩
  rcases h with ⟨rfl, rfl | rfl⟩
  · rfl
  · simp [next, hc]

theorem next_quote_of_settled (h : Settled n p) : next d p '\'' = ⟨.literal, n⟩ := by
  rcases p with ⟨m, k⟩
  rcases h with ⟨rfl, rfl | rfl⟩
  · rfl
  · rfl

theorem nameQuote_ne_apostrophe (d : Dialect) : d.nameQuote ≠ '\'' := by
  cases d <;> decide

theorem place_doubled_in_name (t r : Text) :
    place d ⟨.name, n⟩ (Dialect.doubled d.nameQuote t ++ r) = place d ⟨.name, n⟩ r := by
  induction t with
  | nil => rfl
  | cons c t ih =>
    by_cases hc : c = d.nameQuote
    · subst hc
      have hq := nameQuote_ne_apostrophe d
      simpa [Dialect.doubled, next, nextInCode, hq] using ih
    · simpa [Dialect.doubled, next, hc] using ih

theorem place_quoteName (h : Settled n p) (t : Text) : place d p (d.quoteName t) = ⟨.code, n⟩ := by
  have hq := nameQuote_ne_apostrophe d
  rw [Dialect.quoteName, place_cons, next_of_settled h hq]
  simp only [nextInCode, hq, if_false, if_true]
  rw [place_doubled_in_name]
  simp [next]

def literalBody (d : Dialect) (t : Text) : Text :=
  match d with
  | .mysql => Dialect.doubled '\'' (Dialect.doubled '\\' t)
  | _ => Dialect.doubled '\'' t

theorem quoteText_eq (d : Dialect) (t : Text) :
    d.quoteText t = '\'' :: (literalBody d t ++ ['\'']) := by
  cases d <;> rfl

theorem place_literalBody (t r : Text) :
    place d ⟨.literal, n⟩ (literalBody d t ++ r) = place d ⟨.literal, n⟩ r := by
  induction t with
  | nil => cases d <;> rfl
  | cons c t ih =>
    cases d <;> by_cases hq : c = '\'' <;> by_cases hb : c = '\\' <;>
      simp_all [literalBody, Dialect.doubled, next]

theorem place_quoteText (h : Settled n p) (t : Text) : place d p (d.quoteText t) = ⟨.quote, n⟩ := by
  rw [quoteText_eq, place_cons, next_quote_of_settled h, place_literalBody]
  rfl

theorem skeletonFrom_literalBody (t r : Text) :
    skeletonFrom d ⟨.literal, n⟩ (literalBody d t ++ r) = skeletonFrom d ⟨.literal, n⟩ r := by
  induction t with
  | nil => cases d <;> rfl
  | cons c t ih =>
    cases d <;> by_cases hq : c = '\'' <;> by_cases hb : c = '\\' <;>
      simp_all [literalBody, Dialect.doubled, next, skeletonFrom, shown]

/-- Of a literal only its opening shows. -/
theorem skeletonFrom_quoteText (h : Settled n p) (t : Text) :
    skeletonFrom d p (d.quoteText t) = shown p '\'' := by
  rw [quoteText_eq, skeletonFrom, next_quote_of_settled h, skeletonFrom_literalBody]
  simp [skeletonFrom, shown]

theorem isTop_of_depth {c : Char} (h : p.depth ≠ 0) : isTop d p c = false := by
  simp [isTop, h]

def Covered (l : List Cell) : Prop := ∀ x ∈ l, x.2 = false

theorem Covered.append {k l : List Cell} (hk : Covered k) (hl : Covered l) : Covered (k ++ l) := by
  intro x hx
  rcases List.mem_append.1 hx with hx | hx
  · exact hk x hx
  · exact hl x hx

theorem covered_cons {x : Cell} {l : List Cell} : Covered (x :: l) ↔ x.2 = false ∧ Covered l := by
  simp [Covered]

theorem covered_doubled_in_name (t r : Text) :
    Covered (cellsFrom d ⟨.name, n⟩ (Dialect.doubled d.nameQuote t ++ r)) ↔
      Covered (cellsFrom d ⟨.name, n⟩ r) := by
  induction t with
  | nil => rfl
  | cons c t ih =>
    by_cases hc : c = d.nameQuote
    · subst hc
      have hq := nameQuote_ne_apostrophe d
      simpa [Dialect.doubled, next, nextInCode, hq, cellsFrom, covered_cons, isTop] using ih
    · simpa [Dialect.doubled, next, hc, cellsFrom, covered_cons, isTop] using ih

theorem covered_quoteName (h : Settled n p) (t : Text) :
    Covered (cellsFrom d p (d.quoteName t)) := by
  have hq := nameQuote_ne_apostrophe d
  rw [Dialect.quoteName, cellsFrom, next_of_settled h hq, covered_cons]
  simp only [nextInCode, hq, if_false, if_true]
  rw [covered_doubled_in_name]
  simp [cellsFrom, isTop, Covered]

theorem covered_literalBody (t r : Text) :
    Covered (cellsFrom d ⟨.literal, n⟩ (literalBody d t ++ r)) ↔
      Covered (cellsFrom d ⟨.literal, n⟩ r) := by
  induction t with
  | nil => cases d <;> rfl
  | cons c t ih =>
    cases d <;> by_cases hq : c = '\'' <;> by_cases hb : c = '\\' <;>
      simp_all [literalBody, Dialect.doubled, next, cellsFrom, covered_cons, isTop]

theorem covered_quoteText (h : Settled n p) (t : Text) :
    Covered (cellsFrom d p (d.quoteText t)) := by
  rw [quoteText_eq, cellsFrom, next_quote_of_settled h, covered_cons, covered_literalBody]
  simp [cellsFrom, isTop, Covered]

end QueryShorthand.Sql
