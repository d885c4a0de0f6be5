import ChatDice.Datum
import ChatDice.Text.Base64
import ChatDice.Text.LowerCase
import ChatDice.Text.Words
import ChatDice.Yaml.Tag

/-!
The values of tagged scalars. An explicit tag can stand on any text, so every reader here says
what is wrong with a text that it cannot read.
-/

namespace ChatDice.Yaml

private def withoutLines (t : Text) : Text := t.filter fun c => c.val != 0x5F

private def isMinus (t : Text) : Bool := isOneOf "-" t.head?

/-- The value of a digit in any base up to sixteen. -/
private def digitBelow? (base : Nat) (c : CodePoint) : Option Nat :=
  match c.hexValue? with
  | some n => if n < base then some n else none
  | none => none

private def digitsBelow? (base : Nat) (t : Text) : Option Nat :=
  if t.isEmpty then none
  else t.foldlM (fun n c => (digitBelow? base c).map (n * base + ·)) 0

/-- The mark of a base before its digits, which may be left out. -/
private def afterBaseMark (base : Nat) (t : Text) : Text :=
  let letters := if base = 2 then "bB" else if base = 8 then "oO" else if base = 16 then "xX" else ""
  if isOneOf "0" t.head? && isOneOf letters t[1]? then t.drop 2 else t

/-- A whole number in a base, with white space around it. A decimal one is limited in its digits,
which are counted before the rest is looked at. -/
def integerIn (base : Nat) (t : Text) : Except Error Int :=
  let signed := t.asNumber.dropWhile CodePoint.isBlank
  let body := afterBaseMark base (unsigned signed)
  let digits := body.takeWhile fun c => (digitBelow? base c).isSome
  if base = 10 && Numeral.digitLimit < digits.length then .error (.numeral (.read digits.length))
  else match digitsBelow? base digits, (body.drop digits.length).dropWhile CodePoint.isBlank with
    | some n, [] => .ok (if isMinus signed then -n else n)
    | _, _ => .error (.notInteger base t)

/-- The number that parts in base sixty denote, the most significant one first. -/
def sexagesimal (parts : List Int) : Int := parts.foldl (fun n part => n * 60 + part) 0

def integer (t : Text) : Except Error Int := do
  let t := withoutLines t
  if t.isEmpty then throw .emptyNumeral
  let sign : Int := if isMinus t then -1 else 1
  let t := unsigned t
  if t.isEmpty then throw .emptyNumeral
  let magnitude ←
    if t = "0" then pure 0
    else if t.startsWith "0b" then integerIn 2 (t.drop 2)
    else if t.startsWith "0x" then integerIn 16 (t.drop 2)
    else if t.startsWith "0" then integerIn 8 t
    else if t.contains (CodePoint.ofChar ':') then
      sexagesimal <$> (Text.splitOn ':' t).mapM (integerIn 10)
    else integerIn 10 t
  return sign * magnitude

/-- An exponent after its mark, signed or not. -/
private def exponent? : Text → Option Int
  | [] => some 0
  | _ :: t =>
    (digitsBelow? 10 (unsigned t)).map fun n => if isMinus t then -(n : Int) else n

private def withoutBlanks (t : Text) : Text :=
  ((t.dropWhile CodePoint.isBlank).reverse.dropWhile CodePoint.isBlank).reverse

/-- A decimal with or without a point and an exponent, or a word for what is not finite. -/
def decimal (t : Text) : Except Error Binary64 :=
  let number := withoutBlanks t.asNumber
  let magnitude := unsigned number
  let (mantissa, exponent) := breakAt isExponentMark magnitude
  let (whole, fraction) := breakAt isPoint mantissa
  let fraction := fraction.drop 1
  match digitsBelow? 10 (whole ++ fraction), exponent? exponent with
  | some digits, some exponent =>
    .ok (Binary64.ofDecimal (isMinus number) digits (exponent - (fraction.length : Int)))
  | _, _ =>
    if magnitude = "inf" || magnitude = "infinity" then .ok (.infinite (isMinus number))
    else if magnitude = "nan" then .ok .nan
    else .error (.notDecimal t)

/-- The least significant part is added first. Every power of sixty has to be a decimal itself,
even where its part is nothing. -/
def sexagesimalDecimal (parts : List Binary64) : Except Error Binary64 :=
  let add : Binary64 × Nat → Binary64 → Except Error (Binary64 × Nat) := fun (sum, power) part =>
    match Binary64.ofRatio? false power 1 with
    | some factor => .ok (sum.add (part.mul factor), power * 60)
    | none => .error .beyondDecimal
  (parts.reverse.foldlM add (Binary64.zero, 1)).map (·.1)

/-- A decimal as a value. What is no number is made anew from every scalar, apart from the one
that the plain form spells. -/
def float (copy : Nat) (t : Text) : Except Error Datum := do
  let t := Text.lowered (withoutLines t)
  if t.isEmpty then throw .emptyNumeral
  let negative := isMinus t
  let t := unsigned t
  if t = ".nan" then return .float .nan
  let magnitude ←
    if t = ".inf" then pure (.infinite false)
    else if t.contains (CodePoint.ofChar ':') then
      sexagesimalDecimal (← (Text.splitOn ':' t).mapM decimal)
    else decimal t
  match magnitude with
  | .nan => return .undefined copy
  | x => return .float (if negative then x.neg else x)

/-- A word of truth in any case. -/
def truthValue (t : Text) : Except Error Bool :=
  let word := Text.lowered t
  if word = "yes" || word = "true" || word = "on" then .ok true
  else if word = "no" || word = "false" || word = "off" then .ok false
  else .error (.notTruthValue word)

/-- A timestamp that the calendar has. A line feed at its end is passed over. -/
def timestamp (t : Text) : Except Error Datum :=
  let checked {α : Type} (result : Except Date.Error α) (wrap : α → Datum) : Except Error Datum :=
    match result with
    | .ok value => .ok (wrap value)
    | .error error => .error (.calendar error)
  match timestamp? t.withoutLastBreak with
  | none => .error .notTimestamp
  | some ⟨date, none⟩ => checked date.check .date
  | some ⟨_, some moment⟩ => checked moment.check .moment

/-- Bytes in base 64, which is written in ASCII. -/
def binary (t : Text) : Except Error Datum :=
  if t.all (·.val < 0x80) then
    match Base64.decode t with
    | some bytes => .ok (.bytes bytes)
    | none => .error .malformed
  else .error .malformed

/-- The value of a scalar; some tags never stand on one. `copy` tells its values apart from those
of other scalars where that matters. -/
def scalarValue (copy : Nat) (tag : Tag) (t : Text) : Except Error Datum :=
  match tag with
  | .null => .ok .null
  | .bool => (truthValue t).map .bool
  | .int => (integer t).map .int
  | .float => float copy t
  | .timestamp => timestamp t
  | .binary => binary t
  | .str => .ok (.str t)
  | .merge | .value | .unknown => .error .malformed
  | .sequence | .orderedMapping | .pairs | .mapping | .set => .error .malformed

end ChatDice.Yaml
