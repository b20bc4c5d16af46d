import QueryShorthand.Text.Basic

/-! Quoted texts: a backslash inside the quotes makes the character after it literal. -/

namespace QueryShorthand

def backtick : Char := '\x60'

namespace Text

def escape (quote : Char) : Text → Text
  | [] => []
  | c :: r => if c = '\\' ∨ c = quote then '\\' :: c :: escape quote r else c :: escape quote r

/-- Each backslash gives way to the character after it; one at the end vanishes. -/
def unescape : Text → Text
  | [] => []
  | ['\\'] => []
  | '\\' :: c :: r => c :: unescape r
  | c :: r => c :: unescape r

def quoted (quote : Char) (t : Text) : Text := quote :: (escape quote t ++ [quote])

def isWrapped (quote : Char) (t : Text) : Bool :=
  2 ≤ t.length && t.head? == some quote && t.getLast? == some quote

def isQuoted (t : Text) : Bool := t.isWrapped '"' || t.isWrapped '\''

/-- Takes quotes or backticks off and resolves escapes; any other text stays as it is. -/
def unquote (t : Text) : Text :=
  if t.isQuoted || t.isWrapped backtick then unescape t.tail.dropLast else t

/-- Reads on from inside quotes up to the closing one and resolves escapes. A line break cannot be
escaped unless `multiline`. -/
def quotedRest? (quote : Char) (multiline : Bool) : Text → Option (Text × Text)
  | [] => none
  | ['\\'] => none
  | '\\' :: c :: r =>
    if c = '\n' ∧ !multiline then none
    else (quotedRest? quote multiline r).map fun p => (c :: p.1, p.2)
  | c :: r =>
    if c = quote then some ([], r)
    else (quotedRest? quote multiline r).map fun p => (c :: p.1, p.2)

theorem ne_backslash {c : Char} {t : Text} (hlast : c = '\\' → t = [] → False)
    (hescape : ∀ d r, c = '\\' → t = d :: r → False) : c ≠ '\\' := by
  rintro rfl
  cases t with
  | nil => exact hlast rfl rfl
  | cons d r => exact hescape d r rfl rfl

theorem unescape_escape (quote : Char) (t : Text) : unescape (escape quote t) = t := by
  induction t with
  | nil => rfl
  | cons c r ih =>
    by_cases h : c = '\\' ∨ c = quote
    · simp [escape, unescape, h, ih]
    · have hc : c ≠ '\\' := fun e => h (.inl e)
      rw [escape, if_neg h, unescape.eq_4 _ _ (by simp [hc]) (by simp [hc]), ih]

theorem isWrapped_between (quote : Char) (u : Text) :
    isWrapped quote (quote :: (u ++ [quote])) = true := by
  simp [isWrapped, List.getLast?_cons]

theorem isWrapped_quoted (quote : Char) (t : Text) : (quoted quote t).isWrapped quote = true :=
  isWrapped_between quote (escape quote t)

theorem unquote_between {quote : Char} (h : quote = '"' ∨ quote = '\'' ∨ quote = backtick)
    (u : Text) :
    unquote (quote :: (u ++ [quote])) = unescape u := by
  have hw : isQuoted (quote :: (u ++ [quote])) || isWrapped backtick (quote :: (u ++ [quote])) := by
    have := isWrapped_between quote u
    rcases h with rfl | rfl | rfl <;> simp_all [isQuoted]
  rw [unquote, if_pos hw, List.tail_cons, List.dropLast_concat]

theorem unquote_quoted {quote : Char} (h : quote = '"' ∨ quote = '\'' ∨ quote = backtick)
    (t : Text) : unquote (quoted quote t) = t := by
  rw [quoted, unquote_between h, unescape_escape]

end Text

end QueryShorthand
