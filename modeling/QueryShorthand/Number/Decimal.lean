import QueryShorthand.Number.Binary64
import QueryShorthand.Text.Basic

/-!
Decimal numbers: reading their text, rounding them to binary, and writing them without an exponent.
-/

namespace QueryShorthand

structure Decimal where
  negative : Bool
  coefficient : Nat
  exponent : Int
  deriving DecidableEq, Repr

def isDigit (c : Char) : Bool := '0' ≤ c && c ≤ '9'

def natOfDigits (t : Text) : Nat := t.foldl (fun n c => 10 * n + (c.toNat - 48)) 0

def signed : Text → Bool × Text
  | '-' :: r => (true, r)
  | '+' :: r => (false, r)
  | t => (false, t)

namespace Decimal

/-- What may follow the digits of a number: nothing, or an exponent. -/
def exponentOf? : Text → Option Int
  | [] => some 0
  | c :: r =>
    let (negative, digits) := signed r
    if (c = 'e' ∨ c = 'E') ∧ digits ≠ [] ∧ digits.all isDigit then
      some (if negative then -natOfDigits digits else natOfDigits digits)
    else none

def read? (t : Text) : Option Decimal :=
  let (negative, t) := signed t
  let whole := t.takeWhile isDigit
  let rest := t.dropWhile isDigit
  let (places, rest) := match rest with
    | '.' :: r => (r.takeWhile isDigit, r.dropWhile isDigit)
    | _ => ([], rest)
  if whole = [] ∧ places = [] then none
  else (exponentOf? rest).map fun e => ⟨negative, natOfDigits (whole ++ places), e - places.length⟩

def digitCount (n : Nat) : Nat := (Nat.toDigits 10 n).length

/-- Rounds with `round`, which gets sign, numerator and denominator. Far outside the range of binary
numbers the exponent alone decides. -/
def roundedBy (round : Bool → Nat → Nat → Binary64) (d : Decimal) : Binary64 :=
  let top := digitCount d.coefficient + d.exponent
  if d.coefficient = 0 ∨ top < -400 then .zero d.negative
  else if 400 < top then .infinite d.negative
  else
    let (n, m) := scaled d.coefficient 1 10 d.exponent
    round d.negative n m

def toBinary64 (d : Decimal) : Binary64 := d.roundedBy .ofRatio

def toSingle (d : Decimal) : Binary64 := d.roundedBy .ofRatioSingle

def trimmed (d : Decimal) : Decimal :=
  if d.coefficient ≠ 0 ∧ d.coefficient % 10 = 0 then
    trimmed { d with coefficient := d.coefficient / 10, exponent := d.exponent + 1 }
  else d
termination_by d.coefficient
decreasing_by omega

/-- All digits, without an exponent; a point only before decimal places. -/
def positional (d : Decimal) : Text :=
  let digits := Text.ofNat d.coefficient
  let magnitude :=
    if 0 ≤ d.exponent then digits ++ List.replicate d.exponent.toNat '0'
    else
      let places := (-d.exponent).toNat
      let padded := List.replicate (places + 1 - digits.length) '0' ++ digits
      padded.take (padded.length - places) ++ '.' :: padded.drop (padded.length - places)
  if d.negative then '-' :: magnitude else magnitude

end Decimal

/-- Reads a decimal number, or one of the words `nan`, `inf` and `infinity` in any case, which may
have a sign; `round` decides the precision. -/
def readFloat? (round : Decimal → Binary64) (t : Text) : Option Binary64 :=
  match Decimal.read? t with
  | some d => some (round d)
  | none =>
    let (negative, word) := signed t
    let word := word.map Char.toLower
    if word = "nan".toList then some { Binary64.nan with negative }
    else if word = "inf".toList ∨ word = "infinity".toList then some (.infinite negative)
    else none

end QueryShorthand
