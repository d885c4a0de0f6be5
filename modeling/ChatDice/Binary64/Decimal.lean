import ChatDice.Binary64
import ChatDice.Text.Numeral

/-!
Floating-point numbers as decimal text. A number is written with the fewest digits that read back
as the same number, and of those with the digits nearest to it.
-/

namespace ChatDice.Binary64

/-- The number nearest to `digits * 10 ^ exponent`. Magnitudes far outside the finite range are
decided by their size alone. -/
def ofDecimal (negative : Bool) (digits : Nat) (exponent : Int) : Binary64 :=
  let size : Int := (Numeral.ofNat digits).length + exponent
  if digits = 0 || size < -330 then .finite negative 0 0
  else if 310 < size then .infinite negative
  else if 0 ≤ exponent then ofRatio negative (digits * 10 ^ exponent.toNat) 1
  else ofRatio negative digits (10 ^ (-exponent).toNat)

/-- A positive decimal number `digits * 10 ^ exponent`. -/
structure Decimal where
  digits : Nat
  exponent : Int
  deriving DecidableEq, Repr

namespace Decimal

def toBinary (d : Decimal) : Binary64 := ofDecimal false d.digits d.exponent

/-- Zeros at the end of the digits move into the exponent. -/
def trimmed (d : Decimal) : (fuel : Nat) → Decimal
  | 0 => d
  | fuel + 1 =>
    if d.digits % 10 = 0 && d.digits != 0 then trimmed ⟨d.digits / 10, d.exponent + 1⟩ fuel else d

/-- The digits with a point: within the positional range plainly, outside of it with an exponent
of at least two digits. A whole number keeps one zero after the point. -/
def layout (d : Decimal) : Text :=
  let digits := Numeral.ofNat d.digits
  let point : Int := digits.length + d.exponent
  if 16 < point || point ≤ -4 then
    let power := point - 1
    let fraction := digits.drop 1
    let point : Text := if fraction.isEmpty then "" else "."
    let sign : Text := if power < 0 then "e-" else "e+"
    digits.take 1 ++ point ++ fraction ++ sign ++ Numeral.padded 2 power.natAbs
  else if point ≤ 0 then
    "0." ++ List.replicate (-point).toNat (CodePoint.ofChar '0') ++ digits
  else if digits.length ≤ point.toNat then
    digits ++ List.replicate (point.toNat - digits.length) (CodePoint.ofChar '0') ++ ".0"
  else digits.take point.toNat ++ "." ++ digits.drop point.toNat

end Decimal

/-- The power of ten at or below a positive magnitude. -/
def decimalOrder (units : Nat) : Int :=
  if unitsPerOne ≤ units then ((Numeral.ofNat (units / unitsPerOne)).length : Int) - 1
  else -(((List.range 330).find? fun j => unitsPerOne ≤ units * 10 ^ j).getD 330 : Int)

/-- The best decimal of so many digits that reads back as the given magnitude: of the two
neighbours on that grid the nearer one, of two equally near ones the even one. -/
def readingBack? (significand exponent count : Nat) : Option Decimal :=
  let target := finite false significand exponent
  let units := target.units
  let grid := decimalOrder units - (count : Int) + 1
  let (numerator, denominator) :=
    if 0 ≤ grid then (units, unitsPerOne * 10 ^ grid.toNat)
    else (units * 10 ^ (-grid).toNat, unitsPerOne)
  let low : Decimal := ⟨numerator / denominator, grid⟩
  let high : Decimal := ⟨numerator / denominator + 1, grid⟩
  let twice := 2 * (numerator % denominator)
  let lowFirst := twice < denominator || (twice = denominator && low.digits % 2 = 0)
  let candidates := if lowFirst then [low, high] else [high, low]
  candidates.find? fun d => d.toBinary = target

/-- The shortest decimal of a positive magnitude; seventeen digits always read back. -/
def shortest (significand exponent : Nat) : Decimal :=
  let found := (List.range 17).findSome? fun n => readingBack? significand exponent (n + 1)
  let d := found.getD ⟨0, 0⟩
  d.trimmed 20

/-- Finite numbers only; `special` spells the rest. -/
def layout (special : Bool → Text) (undefinedText : Text) : Binary64 → Text
  | .finite negative significand exponent =>
    let magnitude : Text := if significand = 0 then "0.0" else (shortest significand exponent).layout
    if negative then '-' :: magnitude else magnitude
  | .infinite negative => special negative
  | .nan => undefinedText

/-- The text of a number in messages. -/
def text : Binary64 → Text :=
  layout (fun negative => if negative then "-inf" else "inf") "nan"

/-- The text of a number in JSON. -/
def jsonText : Binary64 → Text :=
  layout (fun negative => if negative then "-Infinity" else "Infinity") "NaN"

end ChatDice.Binary64
