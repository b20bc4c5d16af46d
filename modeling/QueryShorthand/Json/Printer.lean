import QueryShorthand.Json.Basic
import QueryShorthand.Number.Shortest

namespace QueryShorthand

structure FloatNotation where
  /-- The least exponent written without one. -/
  low : Int
  /-- The least exponent above `low` that is written. -/
  high : Int
  tie : Tie

namespace Json

/-- A float has an exponent below 1e-5 and from 1e16 on, and always a point or an exponent. -/
def floats : FloatNotation := ⟨-5, 16, .even⟩

def floatText (x : Binary64) : Text :=
  let d := x.shortest floats.tie
  let digits := Text.ofNat d.coefficient
  let exponent : Int := (digits.length : Int) - 1 + d.exponent
  if floats.low ≤ exponent ∧ exponent < floats.high then
    if 0 ≤ d.exponent then d.positional ++ ".0".toList else d.positional
  else
    let sign := if d.negative then ['-'] else []
    let places := if digits.length = 1 then digits else digits.take 1 ++ '.' :: digits.drop 1
    let mark := if exponent < 0 then "e-".toList else "e+".toList
    sign ++ places ++ mark ++ Text.ofNat exponent.natAbs

def Number.written : Number → Text
  | natural n => Text.ofNat n.toNat
  | negative n _ => Text.ofInt n.toInt
  | float x _ => floatText x

def hexDigit (n : Nat) : Char := (Nat.digitChar n)

def escapedChar (c : Char) : Text :=
  if c = '"' then ['\\', '"']
  else if c = '\\' then ['\\', '\\']
  else if c = '\x08' then ['\\', 'b']
  else if c = '\x0c' then ['\\', 'f']
  else if c = '\n' then ['\\', 'n']
  else if c = '\r' then ['\\', 'r']
  else if c = '\t' then ['\\', 't']
  else if c.toNat < 32 then
    ['\\', 'u', '0', '0', hexDigit (c.toNat / 16), hexDigit (c.toNat % 16)]
  else [c]

def quotedText (t : Text) : Text := '"' :: (t.flatMap escapedChar ++ ['"'])

mutual

def written : Json → Text
  | null => "null".toList
  | bool true => "true".toList
  | bool false => "false".toList
  | number n => n.written
  | text t => quotedText t
  | array items => '[' :: (writtenItems items ++ [']'])
  | object members => '\x7b' :: (writtenMembers members ++ ['\x7d'])

def writtenItems : List Json → Text
  | [] => []
  | [j] => j.written
  | j :: js => j.written ++ ',' :: writtenItems js

def writtenMembers : List (Text × Json) → Text
  | [] => []
  | [(k, j)] => quotedText k ++ ':' :: j.written
  | (k, j) :: ms => quotedText k ++ ':' :: (j.written ++ ',' :: writtenMembers ms)

end

end Json

end QueryShorthand
