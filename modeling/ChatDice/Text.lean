import ChatDice.Instances

/-!
Text as a list of code points. Chat payloads can carry code points that stand for no character
(unpaired surrogates), so a text is wider than a string: every string is a text, and a text is
shown as a string by spelling its unpaired surrogates out.
-/

namespace ChatDice

/-- Any of the 1114112 code points, surrogates included. -/
abbrev CodePoint := Fin 0x110000

abbrev Text := List CodePoint

instance (priority := 1100) codePointLawfulBEq : LawfulBEq CodePoint := instLawfulBEq

instance (priority := 1100) codePointNeZero : NeZero 0x110000 := ⟨by decide⟩

namespace CodePoint

/-- The code point of a character, which is never a surrogate. -/
def ofChar (c : Char) : CodePoint :=
  ⟨c.val.toNat, by
    have valid := c.valid
    rcases valid with low | high <;> simp at * <;> omega⟩

/-- A number beyond the last code point gives the replacement character. -/
def ofNat (n : Nat) : CodePoint :=
  if h : n < 0x110000 then ⟨n, h⟩ else ⟨0xFFFD, by decide⟩

def isDigit (c : CodePoint) : Bool := 0x30 ≤ c.val && c.val ≤ 0x39

def isUpper (c : CodePoint) : Bool := 0x41 ≤ c.val && c.val ≤ 0x5A

def isLower (c : CodePoint) : Bool := 0x61 ≤ c.val && c.val ≤ 0x7A

def isLetter (c : CodePoint) : Bool := c.isUpper || c.isLower

/-- ASCII letters and digits; no other script counts. -/
def isAlphanumeric (c : CodePoint) : Bool := c.isLetter || c.isDigit

def isHighSurrogate (c : CodePoint) : Bool := 0xD800 ≤ c.val && c.val ≤ 0xDBFF

def isLowSurrogate (c : CodePoint) : Bool := 0xDC00 ≤ c.val && c.val ≤ 0xDFFF

def isSurrogate (c : CodePoint) : Bool := 0xD800 ≤ c.val && c.val ≤ 0xDFFF

/-- The value of an ASCII digit, and 0 for anything else. -/
def digitValue (c : CodePoint) : Nat := if c.isDigit then c.val - 0x30 else 0

/-- The value of a hexadecimal digit in either case. -/
def hexValue? (c : CodePoint) : Option Nat :=
  if c.isDigit then some (c.val - 0x30)
  else if 0x61 ≤ c.val && c.val ≤ 0x66 then some (c.val - 0x61 + 10)
  else if 0x41 ≤ c.val && c.val ≤ 0x46 then some (c.val - 0x41 + 10)
  else none

/-- The lower-case hexadecimal digit of a number below 16. -/
def hexDigit (n : Nat) : CodePoint :=
  if n < 10 then ofNat (0x30 + n) else ofNat (0x61 + (n - 10))

/-- Lower case of the ASCII letters; the rest is kept. -/
def toLower (c : CodePoint) : CodePoint := if c.isUpper then ofNat (c.val + 0x20) else c

/-- Upper case of the ASCII letters; the rest is kept. -/
def toUpper (c : CodePoint) : CodePoint := if c.isLower then ofNat (c.val - 0x20) else c

end CodePoint

namespace Text

def ofString (s : String) : Text := s.toList.map CodePoint.ofChar

instance : Coe String Text := ⟨ofString⟩

instance : Coe Char CodePoint := ⟨CodePoint.ofChar⟩

/-- The last `width` hexadecimal digits of a number, most significant first. -/
def hex : (width : Nat) → Nat → Text
  | 0, _ => []
  | width + 1, n => hex width (n / 16) ++ [CodePoint.hexDigit (n % 16)]

/-- Unpaired surrogates are spelled as a backslash, `u` and four hexadecimal digits. -/
def toString (t : Text) : String :=
  String.ofList <| t.flatMap fun c =>
    if c.isSurrogate then
      '\\' :: 'u' :: (hex 4 c.val).map fun digit => Char.ofNat digit.val
    else [Char.ofNat c.val]

/-- Texts joined by a separator that stands between neighbours only. -/
def join (separator : Text) (parts : List Text) : Text := separator.intercalate parts

/-- The pieces between occurrences of one code point; their number is one more than its count. -/
def splitOn (separator : CodePoint) : Text → List Text
  | [] => [[]]
  | c :: rest =>
    if c = separator then [] :: splitOn separator rest
    else match splitOn separator rest with
      | [] => [[c]]
      | piece :: pieces => (c :: piece) :: pieces

def toLower (t : Text) : Text := t.map CodePoint.toLower

/-- Order by code points, the first difference deciding and a proper beginning coming first. -/
def le : Text → Text → Bool
  | [], _ => true
  | _ :: _, [] => false
  | a :: s, b :: t => if a = b then le s t else a.val < b.val

def startsWith (t beginning : Text) : Bool := beginning.isPrefixOf t

def endsWith (t ending : Text) : Bool := ending.isSuffixOf t

end Text

end ChatDice
