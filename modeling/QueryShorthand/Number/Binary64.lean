/-!
Binary floating-point numbers of 64 bits, with rounding in exact natural arithmetic.
-/

namespace QueryShorthand

/-- Sign, biased exponent and fraction. The largest exponent marks infinities and NaN. -/
structure Binary64 where
  negative : Bool
  exponent : Fin 2048
  fraction : Fin 4503599627370496
  deriving DecidableEq, Repr

def roundHalfEven (num den : Nat) : Nat :=
  let q := num / den
  let r := num % den
  if 2 * r < den then q else if den < 2 * r then q + 1 else q + q % 2

def scaled (num den base : Nat) (e : Int) : Nat × Nat :=
  if 0 ≤ e then (num * Nat.pow base e.toNat, den) else (num, den * Nat.pow base (-e).toNat)

/-- The greatest power of two that is at most `num / den`, for positive arguments. -/
def floorLog2 (num den : Nat) : Int :=
  let guess : Int := (Nat.log2 num : Int) - Nat.log2 den
  let (n, d) := scaled num den 2 (-guess)
  if d ≤ n then guess else guess - 1

/-- The positive `num / den` rounded to a significand of at most `bits` bits times a power of two
whose exponent is at least `least`. -/
def rounded (bits : Nat) (least : Int) (num den : Nat) : Nat × Int :=
  let q := max least (floorLog2 num den - bits + 1)
  let (n, d) := scaled num den 2 (-q)
  (roundHalfEven n d, q)

namespace Binary64

def infinite (negative : Bool) : Binary64 := ⟨negative, 2047, 0⟩

def nan : Binary64 := ⟨false, 2047, 2251799813685248⟩

def zero (negative : Bool) : Binary64 := ⟨negative, 0, 0⟩

def isFinite (x : Binary64) : Bool := x.exponent.val < 2047

def isNaN (x : Binary64) : Bool := x.exponent.val == 2047 && x.fraction.val != 0

def isZero (x : Binary64) : Bool := x.exponent.val == 0 && x.fraction.val == 0

/-- A finite number is `significand · 2 ^ scale`, up to its sign. -/
def significand (x : Binary64) : Nat :=
  if x.exponent.val = 0 then x.fraction.val else 4503599627370496 + x.fraction.val

def scale (x : Binary64) : Int := (max x.exponent.val 1 : Nat) - 1075

def magnitude (x : Binary64) : Nat × Nat := scaled x.significand 1 2 x.scale

def same (x y : Binary64) : Bool :=
  !x.isNaN && !y.isNaN && (x == y || (x.isZero && y.isZero))

def ofCode (negative : Bool) (code : Nat) : Binary64 :=
  if h : code / 4503599627370496 < 2047 then
    ⟨negative, ⟨code / 4503599627370496, by omega⟩,
      ⟨code % 4503599627370496, Nat.mod_lt _ (by decide)⟩⟩
  else infinite negative

def ofRatio (negative : Bool) (num den : Nat) : Binary64 :=
  if num = 0 then zero negative
  else
    let (m, q) := rounded 53 (-1074) num den
    ofCode negative ((q + 1074).toNat * 4503599627370496 + m)

/-- The single-precision number nearest to `num / den`, widened. -/
def ofRatioSingle (negative : Bool) (num den : Nat) : Binary64 :=
  if num = 0 then zero negative
  else
    let (m, q) := rounded 24 (-149) num den
    let (n, d) := scaled m 1 2 q
    if d * Nat.pow 2 128 ≤ n then infinite negative else ofRatio negative n d

def timesPowerOfTen (x : Binary64) (e : Nat) : Binary64 :=
  let (n, d) := x.magnitude
  let (pn, pd) := (ofRatio false (Nat.pow 10 e) 1).magnitude
  ofRatio x.negative (n * pn) (d * pd)

def overPowerOfTen (x : Binary64) (e : Nat) : Binary64 :=
  let (n, d) := x.magnitude
  let (pn, pd) := (ofRatio false (Nat.pow 10 e) 1).magnitude
  ofRatio x.negative (n * pd) (d * pn)

def ofNat (n : Nat) : Binary64 := ofRatio false n 1

end Binary64

end QueryShorthand
