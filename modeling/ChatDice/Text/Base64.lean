import ChatDice.Text

/-!
Bytes written in base 64. Four code points of the alphabet stand for three bytes, and equals signs
fill up the last four. Reading passes over whatever else stands between them.
-/

namespace ChatDice.Base64

/-- The six bits that a code point of the alphabet stands for. -/
def sixBits? (c : CodePoint) : Option Nat :=
  if c.isUpper then some (c.val - 0x41)
  else if c.isLower then some (c.val - 0x61 + 26)
  else if c.isDigit then some (c.digitValue + 52)
  else if c = CodePoint.ofChar '+' then some 62
  else if c = CodePoint.ofChar '/' then some 63
  else none

/-- The byte that a code point completes in its place among four, given the bits that the one
before it left over. -/
def completed? (place left bits : Nat) : Option UInt8 :=
  match place with
  | 0 => none
  | 1 => some (left * 4 + bits / 16).toUInt8
  | 2 => some (left * 16 + bits / 4).toUInt8
  | _ => some (left * 64 + bits).toUInt8

/-- The bits that a code point leaves over for the next byte. -/
def leftOver (place bits : Nat) : Nat :=
  match place with
  | 0 => bits
  | 1 => bits % 16
  | 2 => bits % 4
  | _ => 0

/-- Reads on from a place among four, with the bits left over and the number of equals signs so
far. Enough of these end the reading; without them the last four have to be complete. -/
def decodeFrom (place left signs : Nat) : Text → Option (List UInt8)
  | [] => if place = 0 then some [] else none
  | c :: rest =>
    if c = CodePoint.ofChar '=' then
      let signs := if 2 ≤ place then signs + 1 else signs
      if 2 ≤ place && 4 ≤ place + signs then some [] else decodeFrom place left signs rest
    else match sixBits? c with
      | none => decodeFrom place left signs rest
      | some bits =>
        (decodeFrom ((place + 1) % 4) (leftOver place bits) 0 rest).map fun bytes =>
          (completed? place left bits).toList ++ bytes

/-- The bytes that a text stands for, if its fours are complete. -/
def decode (t : Text) : Option (List UInt8) := decodeFrom 0 0 0 t

end ChatDice.Base64
