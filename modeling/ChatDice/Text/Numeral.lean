import ChatDice.Text

/-!
Decimal numerals. Both directions refuse a numeral of more than 4300 digits; leading zeros count
when a numeral is read, the sign never counts.
-/

namespace ChatDice.Numeral

/-- The most digits that a numeral may have. -/
def digitLimit : Nat := 4300

/-- A numeral over the limit, met in writing or in reading. -/
inductive Excess
  | written
  | read (digits : Nat)
  deriving DecidableEq, Repr

/-- The decimal digits of a number, without leading zeros. -/
def ofNat (n : Nat) : Text := (Nat.toDigits 10 n).map CodePoint.ofChar

/-- A minus sign stands before a negative number; nothing stands before any other. -/
def ofInt (i : Int) : Text :=
  if i < 0 then '-' :: ofNat i.natAbs else ofNat i.natAbs

/-- The number that a run of digits denotes. -/
def value (digits : Text) : Nat := digits.foldl (fun n digit => 10 * n + digit.digitValue) 0

def write (i : Int) : Except Excess Text :=
  if digitLimit < (ofNat i.natAbs).length then .error .written else .ok (ofInt i)

/-- Reads a run of digits of permitted length. -/
def read (digits : Text) : Except Excess Nat :=
  if digitLimit < digits.length then .error (.read digits.length) else .ok (value digits)

def Excess.message : Excess → Text
  | .written =>
    "Exceeds the limit (4300 digits) for integer string conversion; "
      ++ "use sys.set_int_max_str_digits() to increase the limit"
  | .read digits =>
    "Exceeds the limit (4300 digits) for integer string conversion: value has "
      ++ ofNat digits ++ " digits; use sys.set_int_max_str_digits() to increase the limit"

/-- A numeral filled up with zeros on the left to a least width. -/
def padded (width n : Nat) : Text :=
  let digits := ofNat n
  List.replicate (width - digits.length) (CodePoint.ofChar '0') ++ digits

end ChatDice.Numeral
