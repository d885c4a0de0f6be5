import ChatDice.Json

/-!
Reading JSON. Beyond the standard, `NaN` and the infinities are numbers and an escape may name an
unpaired surrogate. Arrays and objects may nest in so many levels only, and whole numbers are limited
in their digits; going over either limit is told apart from malformed text.
-/

namespace ChatDice.Json

/-- Why a text is not read as a value. -/
inductive ReadError
  | malformed
  | numeralTooLong (digits : Nat)
  | tooDeep
  deriving DecidableEq, Repr

/-- Space, tab, line feed and carriage return. -/
def isBlank (c : CodePoint) : Bool := c.val == 0x20 || c.val == 0x09 || c.val == 0x0A || c.val == 0x0D

def skipBlank (t : Text) : Text := t.dropWhile isBlank

/-- The number that four hexadecimal digits denote. -/
def hex4? (a b c d : CodePoint) : Option Nat := do
  return (← a.hexValue?) * 0x1000 + (← b.hexValue?) * 0x100 + (← c.hexValue?) * 0x10 + (← d.hexValue?)

/-- The code point that two surrogates stand for together. -/
def joinSurrogates (high low : Nat) : CodePoint :=
  CodePoint.ofNat (0x10000 + (high - 0xD800) * 0x400 + (low - 0xDC00))

/-- The code point that a short escape names. -/
def shortEscape? (c : CodePoint) : Option CodePoint :=
  if c = CodePoint.ofChar '"' || c = CodePoint.ofChar '\\' || c = CodePoint.ofChar '/' then some c
  else if c = CodePoint.ofChar 'b' then some 0x08
  else if c = CodePoint.ofChar 'f' then some 0x0C
  else if c = CodePoint.ofChar 'n' then some 0x0A
  else if c = CodePoint.ofChar 'r' then some 0x0D
  else if c = CodePoint.ofChar 't' then some 0x09
  else none

/-- Reads on to the closing quotation mark; `done` holds what was read before, last first. An
escaped high surrogate joins an escaped low one that follows it. -/
def stringRest (done : Text) : Text → Except ReadError (Text × Text)
  | [] => .error .malformed
  | c :: rest =>
    if c = CodePoint.ofChar '"' then .ok (done.reverse, rest)
    else if c.val < 0x20 then .error .malformed
    else if c = CodePoint.ofChar '\\' then
      match rest with
      | [] => .error .malformed
      | e :: rest =>
        if e = CodePoint.ofChar 'u' then
          match rest with
          | a :: b :: c :: d :: rest =>
            match hex4? a b c d with
            | none => .error .malformed
            | some n =>
              if 0xD800 ≤ n && n ≤ 0xDBFF then
                match rest with
                | s :: u :: a :: b :: c :: d :: after =>
                  match (if s = CodePoint.ofChar '\\' && u = CodePoint.ofChar 'u'
                    then hex4? a b c d else none) with
                  | some m =>
                    if 0xDC00 ≤ m && m ≤ 0xDFFF then stringRest (joinSurrogates n m :: done) after
                    else stringRest (CodePoint.ofNat n :: done) (s :: u :: a :: b :: c :: d :: after)
                  | none =>
                    stringRest (CodePoint.ofNat n :: done) (s :: u :: a :: b :: c :: d :: after)
                | rest => stringRest (CodePoint.ofNat n :: done) rest
              else stringRest (CodePoint.ofNat n :: done) rest
          | _ => .error .malformed
        else match shortEscape? e with
          | some c => stringRest (c :: done) rest
          | none => .error .malformed
    else stringRest (c :: done) rest

/-- The parts of a numeral: digits before the point, digits after it, and the power of ten. -/
structure NumberParts where
  whole : Text
  fraction : Option Text
  power : Option Int
  rest : Text

/-- A point counts only before a digit. -/
def fractionPart (t : Text) : Option Text × Text :=
  match t with
  | point :: digit :: rest =>
    if point = CodePoint.ofChar '.' && digit.isDigit then
      (some (digit :: rest.takeWhile CodePoint.isDigit), rest.dropWhile CodePoint.isDigit)
    else (none, t)
  | _ => (none, t)

/-- The digits of an exponent at the start of a text, as a number with the sign given. -/
def powerDigits (negative : Bool) (t : Text) : Option (Int × Text) :=
  let digits := t.takeWhile CodePoint.isDigit
  if digits.isEmpty then none
  else
    let size : Int := Numeral.value digits
    some (if negative then -size else size, t.dropWhile CodePoint.isDigit)

/-- An exponent mark counts only before digits with an optional sign. -/
def powerPart (t : Text) : Option Int × Text :=
  match t with
  | mark :: rest =>
    if mark = CodePoint.ofChar 'e' || mark = CodePoint.ofChar 'E' then
      let found := match rest with
        | sign :: digits =>
          if sign = CodePoint.ofChar '-' then powerDigits true digits
          else if sign = CodePoint.ofChar '+' then powerDigits false digits
          else powerDigits false rest
        | [] => none
      match found with
      | some (power, rest) => (some power, rest)
      | none => (none, t)
    else (none, t)
  | [] => (none, t)

/-- The longest numeral at the start of a text; a leading zero stands alone. -/
def numeral? (t : Text) : Option NumberParts :=
  let whole := match t with
    | c :: _ => if c = CodePoint.ofChar '0' then [c] else t.takeWhile CodePoint.isDigit
    | [] => []
  if whole.isEmpty then none
  else
    let (fraction, rest) := fractionPart (t.drop whole.length)
    let (power, rest) := powerPart rest
    some ⟨whole, fraction, power, rest⟩

/-- A numeral without fraction and power is a whole number. -/
def number (negative : Bool) (n : NumberParts) : Except ReadError Json :=
  match n.fraction, n.power with
  | none, none =>
    match Numeral.read n.whole with
    | .ok size => .ok (.int (if negative then -size else size))
    | .error _ => .error (.numeralTooLong n.whole.length)
  | fraction, power =>
    let fraction := fraction.getD []
    .ok (.float (Binary64.ofDecimal negative (Numeral.value (n.whole ++ fraction))
      (power.getD 0 - fraction.length)))

/-- The words that are values, with what they stand for. -/
def words : List (Text × Json) :=
  [("true", .bool true), ("false", .bool false), ("null", .null), ("NaN", .float .nan),
    ("Infinity", .float (.infinite false)), ("-Infinity", .float (.infinite true))]

/-- A word or a number at the start of a text. -/
def plain (t : Text) : Except ReadError (Json × Text) :=
  match words.find? fun word => word.1.isPrefixOf t with
  | some (word, value) => .ok (value, t.drop word.length)
  | none =>
    let (negative, unsigned) := match t with
      | c :: rest => if c = CodePoint.ofChar '-' then (true, rest) else (false, t)
      | [] => (false, t)
    match numeral? unsigned with
    | some n => (number negative n).map fun value => (value, n.rest)
    | none => .error .malformed

mutual

/-- One value at the start of a text, with the text after it. -/
def value : (fuel depth : Nat) → Text → Except ReadError (Json × Text)
  | 0, _, _ => .error .malformed
  | fuel + 1, depth, t =>
    match t with
    | [] => .error .malformed
    | c :: rest =>
      if c = CodePoint.ofChar '"' then (stringRest [] rest).map fun (s, rest) => (.str s, rest)
      else if c = CodePoint.ofChar '[' || c = CodePoint.ofChar '{' then
        match depth with
        | 0 => .error .tooDeep
        | depth + 1 =>
          let inside := skipBlank rest
          if c = CodePoint.ofChar '[' then
            match inside with
            | close :: after =>
              if close = CodePoint.ofChar ']' then .ok (.arr [], after) else items fuel depth [] inside
            | [] => .error .malformed
          else
            match inside with
            | close :: after =>
              if close = CodePoint.ofChar '}' then .ok (.obj [], after)
              else members fuel depth [] inside
            | [] => .error .malformed
      else plain t

/-- The items of an array up to its closing bracket; `done` holds the earlier ones, last first. -/
def items : (fuel depth : Nat) → List Json → Text → Except ReadError (Json × Text)
  | 0, _, _, _ => .error .malformed
  | fuel + 1, depth, done, t =>
    match value fuel depth t with
    | .error e => .error e
    | .ok (item, rest) =>
      match skipBlank rest with
      | c :: rest =>
        if c = CodePoint.ofChar ']' then .ok (.arr (item :: done).reverse, rest)
        else if c = CodePoint.ofChar ',' then items fuel depth (item :: done) (skipBlank rest)
        else .error .malformed
      | [] => .error .malformed

/-- The members of an object up to its closing brace; `done` holds the earlier ones in order. -/
def members : (fuel depth : Nat) → List (Text × Json) → Text → Except ReadError (Json × Text)
  | 0, _, _, _ => .error .malformed
  | fuel + 1, depth, done, t =>
    match t with
    | [] => .error .malformed
    | c :: rest =>
      if c = CodePoint.ofChar '"' then
        match stringRest [] rest with
        | .error e => .error e
        | .ok (name, rest) =>
          match skipBlank rest with
          | [] => .error .malformed
          | c :: rest =>
            if c = CodePoint.ofChar ':' then
              match value fuel depth (skipBlank rest) with
              | .error e => .error e
              | .ok (item, rest) =>
                match skipBlank rest with
                | c :: rest =>
                  if c = CodePoint.ofChar '}' then .ok (.obj (put done name item), rest)
                  else if c = CodePoint.ofChar ',' then
                    members fuel depth (put done name item) (skipBlank rest)
                  else .error .malformed
                | [] => .error .malformed
            else .error .malformed
      else .error .malformed

end

/-- The value that a whole text denotes, nested in at most so many levels. Each step of the reading
uses up a code point or opens what the last one announced, so twice the length is fuel enough. -/
def readWithin (levels : Nat) (t : Text) : Except ReadError Json :=
  match value (2 * t.length + 2) levels (skipBlank t) with
  | .error e => .error e
  | .ok (v, rest) => if (skipBlank rest).isEmpty then .ok v else .error .malformed

/-- Reads a message. -/
def read [Nesting] (t : Text) : Except ReadError Json := readWithin Nesting.read t

end ChatDice.Json
