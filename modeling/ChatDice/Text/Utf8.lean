import ChatDice.Text

/-!
The UTF-8 form of a text. Reading is strict: overlong forms, surrogates and numbers beyond the
last code point are refused. Writing gives every code point that stands for a character its
shortest form.
-/

namespace ChatDice.Utf8

def encodeCodePoint (c : CodePoint) : List UInt8 :=
  let n := c.val
  if n < 0x80 then [n.toUInt8]
  else if n < 0x800 then [(0xC0 + n / 0x40).toUInt8, (0x80 + n % 0x40).toUInt8]
  else if n < 0x10000 then
    [(0xE0 + n / 0x1000).toUInt8, (0x80 + n / 0x40 % 0x40).toUInt8, (0x80 + n % 0x40).toUInt8]
  else
    [(0xF0 + n / 0x40000).toUInt8, (0x80 + n / 0x1000 % 0x40).toUInt8,
      (0x80 + n / 0x40 % 0x40).toUInt8, (0x80 + n % 0x40).toUInt8]

/-- Surrogates are written like any other code point; strict reading refuses them again. -/
def encode (t : Text) : List UInt8 := t.flatMap encodeCodePoint

/-- A byte that goes on with a code point. -/
def isContinuation (b : UInt8) : Bool := 0x80 ≤ b && b < 0xC0

/-- What such a byte adds to the code point. -/
def tail (b : UInt8) : Nat := b.toNat % 0x40

/-- The text that has exactly these bytes, if there is one. -/
def decode : List UInt8 → Option Text
  | [] => some []
  | a :: rest =>
    if a < 0x80 then (decode rest).map (CodePoint.ofNat a.toNat :: ·)
    else match a, rest with
      | a, b :: rest =>
        if 0xC2 ≤ a && a < 0xE0 then
          if isContinuation b then
            (decode rest).map (CodePoint.ofNat (a.toNat % 0x20 * 0x40 + tail b) :: ·)
          else none
        else match rest with
          | c :: rest =>
            if 0xE0 ≤ a && a < 0xF0 then
              let n := a.toNat % 0x10 * 0x1000 + tail b * 0x40 + tail c
              if isContinuation b && isContinuation c && 0x800 ≤ n && (n < 0xD800 || 0xE000 ≤ n) then
                (decode rest).map (CodePoint.ofNat n :: ·)
              else none
            else match rest with
              | d :: rest =>
                let n := a.toNat % 0x08 * 0x40000 + tail b * 0x1000 + tail c * 0x40 + tail d
                if 0xF0 ≤ a && a < 0xF5 && isContinuation b && isContinuation c && isContinuation d
                    && 0x10000 ≤ n && n < 0x110000 then
                  (decode rest).map (CodePoint.ofNat n :: ·)
                else none
              | [] => none
          | [] => none
      | _, [] => none

/-- Whether bytes are a proper beginning of the form of some code point. -/
def isBeginning (bytes : List UInt8) : Bool :=
  let isSecond (a b : UInt8) : Bool :=
    isContinuation b && !(a = 0xE0 && b < 0xA0) && !(a = 0xED && 0xA0 ≤ b) && !(a = 0xF0 && b < 0x90)
      && !(a = 0xF4 && 0x90 ≤ b)
  match bytes with
  | [a] => 0xC2 ≤ a && a < 0xF5
  | [a, b] => 0xE0 ≤ a && a < 0xF5 && isSecond a b
  | [a, b, c] => 0xF0 ≤ a && a < 0xF5 && isSecond a b && isContinuation c
  | _ => false

/-- The text that has these bytes apart from the beginning of one more code point at their end,
with that beginning. -/
def decodeBeginning (bytes : List UInt8) : Option (Text × List UInt8) :=
  [0, 1, 2, 3].findSome? fun count =>
    let kept := bytes.drop (bytes.length - count)
    if kept.isEmpty || isBeginning kept then
      (decode (bytes.take (bytes.length - count))).map fun t => (t, kept)
    else none

end ChatDice.Utf8
