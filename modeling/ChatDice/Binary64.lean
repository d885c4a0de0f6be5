import ChatDice.Instances

/-!
Binary floating-point numbers of 64 bits, as exact data. A finite number is a whole multiple of
the smallest positive one, so its magnitude is a natural number of units of `2 ^ -1074`. Ratios
are rounded to the nearest number, a tie going to the even significand.
-/

namespace ChatDice

/-- The magnitude of a finite number is `significand * 2 ^ exponent` units. -/
inductive Binary64
  | finite (negative : Bool) (significand exponent : Nat)
  | infinite (negative : Bool)
  | nan
  deriving DecidableEq, Repr

namespace Binary64

/-- The number of units in one. -/
def unitsPerOne : Nat := 2 ^ 1074

/-- The largest exponent of a finite number. -/
def largestExponent : Nat := 2045

/-- The whole number nearest to a ratio, of two equally near the even one. -/
def roundHalfEven (numerator denominator : Nat) : Nat :=
  let quotient := numerator / denominator
  let twice := 2 * (numerator % denominator)
  if twice < denominator then quotient
  else if denominator < twice then quotient + 1
  else quotient + quotient % 2

/-- The bits that a number of units needs beyond the 53 of a significand. -/
def excessBits (units : Nat) : Nat := units.log2 + 1 - 53

/-- Significand and exponent nearest to a ratio of units, with no upper limit. -/
def roundUnits (numerator denominator : Nat) : Nat × Nat :=
  let exponent := excessBits (numerator / denominator)
  let significand := roundHalfEven numerator (denominator * 2 ^ exponent)
  if significand = 2 ^ 53 then (2 ^ 52, exponent + 1) else (significand, exponent)

/-- The finite number nearest to a ratio, unless that is beyond the largest one. -/
def ofRatio? (negative : Bool) (numerator denominator : Nat) : Option Binary64 :=
  let rounded := roundUnits (numerator * unitsPerOne) denominator
  if rounded.2 ≤ largestExponent then some (.finite negative rounded.1 rounded.2) else none

/-- The number nearest to a ratio; what is too large becomes infinite. -/
def ofRatio (negative : Bool) (numerator denominator : Nat) : Binary64 :=
  (ofRatio? negative numerator denominator).getD (.infinite negative)

/-- Half of a whole number, correctly rounded, or nothing beyond the largest finite number. -/
def half? (n : Int) : Option Binary64 := ofRatio? (n < 0) n.natAbs 2

def zero : Binary64 := .finite false 0 0

/-- Both zeros are zero. -/
def isZero : Binary64 → Bool
  | .finite _ significand _ => significand == 0
  | _ => false

/-- The magnitude of a finite number in units. -/
def units : Binary64 → Nat
  | .finite _ significand exponent => significand * 2 ^ exponent
  | _ => 0

def isNegative : Binary64 → Bool
  | .finite negative _ _ => negative
  | .infinite negative => negative
  | .nan => false

/-- The whole number that a finite number is, if it is one. -/
def toInt? : Binary64 → Option Int
  | .finite negative significand exponent =>
    let units := significand * 2 ^ exponent
    if units % unitsPerOne = 0 then
      let magnitude : Int := (units / unitsPerOne : Nat)
      some (if negative then -magnitude else magnitude)
    else none
  | _ => none

def neg : Binary64 → Binary64
  | .finite negative significand exponent => .finite (!negative) significand exponent
  | .infinite negative => .infinite (!negative)
  | .nan => .nan

/-- The units of a finite number with its sign. -/
def signedUnits (x : Binary64) : Int := if x.isNegative then -(x.units : Int) else x.units

/-- The sum of two numbers, correctly rounded. A sum of nothing is negative only if both numbers
are, and infinities of opposite signs have no sum. -/
def add (x y : Binary64) : Binary64 :=
  match x, y with
  | .nan, _ => .nan
  | _, .nan => .nan
  | .infinite a, .infinite b => if a = b then .infinite a else .nan
  | .infinite a, .finite _ _ _ => .infinite a
  | .finite _ _ _, .infinite b => .infinite b
  | .finite a _ _, .finite b _ _ =>
    let sum := x.signedUnits + y.signedUnits
    if sum = 0 then .finite (a && b) 0 0 else ofRatio (sum < 0) sum.natAbs unitsPerOne

/-- The product of two numbers, correctly rounded. Infinitely many times nothing is no number. -/
def mul (x y : Binary64) : Binary64 :=
  let negative := x.isNegative != y.isNegative
  match x, y with
  | .nan, _ => .nan
  | _, .nan => .nan
  | .finite _ _ _, .finite _ _ _ => ofRatio negative (x.units * y.units) (unitsPerOne * unitsPerOne)
  | x, y => if x.isZero || y.isZero then .nan else .infinite negative

end Binary64

end ChatDice
