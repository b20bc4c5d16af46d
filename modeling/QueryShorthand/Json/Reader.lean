import QueryShorthand.Json.Basic
import QueryShorthand.Number.Decimal

namespace QueryShorthand.Json

structure Limits where
  depth : Nat
  /-- Accept numbers out of range and unpaired surrogates, for text that is only skipped. -/
  lenient : Bool

/-- Documents are nested less than 128 deep. -/
def Limits.document : Limits := ⟨127, false⟩

def Limits.skipped (length : Nat) : Limits := ⟨length, true⟩

def skipBlanks (t : Text) : Text :=
  t.dropWhile fun c => c == ' ' || c == '\n' || c == '\t' || c == '\r'

def hexValue? (c : Char) : Option Nat :=
  if '0' ≤ c ∧ c ≤ '9' then some (c.toNat - 48)
  else if 'a' ≤ c ∧ c ≤ 'f' then some (c.toNat - 87)
  else if 'A' ≤ c ∧ c ≤ 'F' then some (c.toNat - 55)
  else none

def hex4? (a b c d : Char) : Option Nat := do
  return (((← hexValue? a) * 16 + (← hexValue? b)) * 16 + (← hexValue? c)) * 16 + (← hexValue? d)

def escaped? (c : Char) : Option Char :=
  if c = '"' ∨ c = '\\' ∨ c = '/' then some c
  else if c = 'b' then some '\x08'
  else if c = 'f' then some '\x0c'
  else if c = 'n' then some '\n'
  else if c = 'r' then some '\r'
  else if c = 't' then some '\t'
  else none

def isHighSurrogate (n : Nat) : Bool := 0xD800 ≤ n && n < 0xDC00

def isLowSurrogate (n : Nat) : Bool := 0xDC00 ≤ n && n < 0xE000

def joinSurrogates (high low : Nat) : Char :=
  Char.ofNat (0x10000 + (high - 0xD800) * 0x400 + (low - 0xDC00))

def consChar (c : Char) : Option (Text × Text) → Option (Text × Text) :=
  Option.map fun p => (c :: p.1, p.2)

/-- Reads on from inside the quotes of a text up to the closing one. `high` is the first half of a
surrogate pair that waits for its second half. -/
def textRest (lenient : Bool) : (high : Option Nat) → Text → Option (Text × Text)
  | high, '\\' :: 'u' :: a :: b :: c :: d :: r =>
    match hex4? a b c d, high with
    | none, _ => none
    | some n, some m =>
      if lenient ∨ isLowSurrogate n then consChar (joinSurrogates m n) (textRest lenient none r)
      else none
    | some n, none =>
      if lenient then consChar '\uFFFD' (textRest lenient none r)
      else if isHighSurrogate n then textRest lenient (some n) r
      else if isLowSurrogate n then none
      else consChar (Char.ofNat n) (textRest lenient none r)
  | some _, _ => none
  | none, [] => none
  | none, '"' :: r => some ([], r)
  | none, '\\' :: c :: r =>
    match escaped? c with
    | none => none
    | some c' => consChar c' (textRest lenient none r)
  | none, c :: r => if c.toNat < 32 then none else consChar c (textRest lenient none r)

/-- Takes digits into `n` while it stays below 2 ^ 64; counts the digits taken. -/
def absorb (n taken : Nat) : Text → Nat × Nat
  | [] => (n, taken)
  | c :: r =>
    let n' := 10 * n + (c.toNat - 48)
    if n' < 18446744073709551616 then absorb n' (taken + 1) r else (n, taken)

def shrunk (x : Binary64) (k : Nat) : Binary64 :=
  if k ≤ 308 then x.overPowerOfTen k
  else if x.isZero then x
  else shrunk (x.overPowerOfTen 308) (k - 308)
termination_by k

/-- `n · 10 ^ e`, rounding first `n` and then each product or quotient; none if out of range. -/
def floatOfParts? (n : Nat) (e : Int) : Option Binary64 :=
  let x := Binary64.ofNat n
  let y :=
    if e < 0 then shrunk x (-e).toNat
    else if e ≤ 308 then x.timesPowerOfTen e.toNat
    else if x.isZero then x
    else .infinite false
  if y.isFinite then some y else none

def numberOfFloat? (negative : Bool) (x : Binary64) : Option Number :=
  let y : Binary64 := { x with negative }
  if h : y.isFinite = true then some (.float y h) else none

/-- An integer of 64 bits if there is one; a smaller negative one and the negative zero are
floats. -/
def numberOfInteger? (negative : Bool) (n : Nat) : Option Number :=
  if negative then
    let i := Int64.ofInt (-n)
    if h : i < 0 ∧ n ≤ 9223372036854775808 then some (.negative i h.1)
    else numberOfFloat? true (.ofNat n)
  else some (.natural (UInt64.ofNat n))

def exponent? : Text → Option (Option Int × Text)
  | c :: r =>
    if c = 'e' ∨ c = 'E' then
      let (negative, t) := signed r
      let digits := t.takeWhile isDigit
      if digits = [] then none
      else
        let e : Int := natOfDigits digits
        some (some (if negative then -e else e), t.dropWhile isDigit)
    else some (none, c :: r)
  | [] => some (none, [])

def number? (lenient : Bool) (t : Text) : Option (Number × Text) :=
  let (negative, t) := match t with
    | '-' :: r => (true, r)
    | _ => (false, t)
  let whole := t.takeWhile isDigit
  let rest := t.dropWhile isDigit
  let (hasPoint, places, rest) := match rest with
    | '.' :: r => (true, r.takeWhile isDigit, r.dropWhile isDigit)
    | _ => (false, [], rest)
  if whole = [] ∨ (whole.head? = some '0' ∧ whole ≠ ['0']) ∨ (hasPoint ∧ places = []) then none
  else
    match exponent? rest with
    | none => none
    | some (exponent, rest) =>
      let (n, taken) := absorb 0 0 whole
      let ignored := whole.length - taken
      let number :=
        if ignored = 0 ∧ !hasPoint ∧ exponent = none then numberOfInteger? negative n
        else
          let (n, places) := absorb n 0 places
          (floatOfParts? n (exponent.getD 0 + ignored - places)).bind (numberOfFloat? negative)
      match number with
      | some x => some (x, rest)
      | none => if lenient then some (.natural 0, rest) else none

mutual

def value? (lenient : Bool) : (fuel depth : Nat) → Text → Option (Json × Text)
  | 0, _, _ => none
  | fuel + 1, depth, t =>
    match skipBlanks t with
    | 'n' :: 'u' :: 'l' :: 'l' :: r => some (null, r)
    | 't' :: 'r' :: 'u' :: 'e' :: r => some (bool true, r)
    | 'f' :: 'a' :: 'l' :: 's' :: 'e' :: r => some (bool false, r)
    | '"' :: r => (textRest lenient none r).map fun p => (text p.1, p.2)
    | '[' :: r =>
      match depth with
      | 0 => none
      | depth + 1 =>
        match skipBlanks r with
        | ']' :: r' => some (array [], r')
        | r' => (items? lenient fuel depth r').map fun p => (array p.1, p.2)
    | '\x7b' :: r =>
      match depth with
      | 0 => none
      | depth + 1 =>
        match skipBlanks r with
        | '\x7d' :: r' => some (object [], r')
        | r' => (members? lenient fuel depth r').map fun p => (ofMembers p.1, p.2)
    | t' => (number? lenient t').map fun p => (number p.1, p.2)

def items? (lenient : Bool) : (fuel depth : Nat) → Text → Option (List Json × Text)
  | 0, _, _ => none
  | fuel + 1, depth, t =>
    match value? lenient fuel depth t with
    | none => none
    | some (j, r) =>
      match skipBlanks r with
      | ']' :: r' => some ([j], r')
      | ',' :: r' => (items? lenient fuel depth r').map fun p => (j :: p.1, p.2)
      | _ => none

def members? (lenient : Bool) : (fuel depth : Nat) → Text → Option (List (Text × Json) × Text)
  | 0, _, _ => none
  | fuel + 1, depth, t =>
    match skipBlanks t with
    | '"' :: r =>
      match textRest lenient none r with
      | none => none
      | some (k, r) =>
        match skipBlanks r with
        | ':' :: r =>
          match value? lenient fuel depth r with
          | none => none
          | some (j, r) =>
            match skipBlanks r with
            | '\x7d' :: r' => some ([(k, j)], r')
            | ',' :: r' => (members? lenient fuel depth r').map fun p => ((k, j) :: p.1, p.2)
            | _ => none
        | _ => none
    | _ => none

end

/-- A value at the head of `t`, with the rest. Each step consumes a character, so the length of the
text bounds the steps. -/
def valueAt? (limits : Limits) (t : Text) : Option (Json × Text) :=
  value? limits.lenient (2 * t.length + 1) limits.depth t

def read? (t : Text) : Option Json :=
  match valueAt? .document t with
  | some (j, r) => if skipBlanks r = [] then some j else none
  | none => none

end QueryShorthand.Json
