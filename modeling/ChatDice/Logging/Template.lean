import ChatDice.Binary64.Decimal
import ChatDice.Logging.Level
import ChatDice.Text.Quoted
import ChatDice.Text.Words

/-!
Templates of log lines. A template is literal text with fields that start with a percent sign and
name an attribute of the record. It must look as if it had one such field; whether it can be
filled in shows only with a record. A field without a name takes what is at hand: all attributes
together at first, and the value that was named last if nothing has taken it yet.
-/

namespace ChatDice.Logging

/-- The value of a record's attribute: a text, a number, or what is only ever shown. -/
inductive Attribute
  | text (value : Text)
  | number (value : Int)
  | shown (text : Text)
  deriving DecidableEq, Repr

/-- A width or a precision: written down, or taken from what is at hand. -/
inductive Amount
  | given (n : Nat)
  | taken
  deriving DecidableEq, Repr

/-- A field: the name of its attribute, its flags, width and precision, and the letter that says
how its value is written. -/
structure Field where
  key : Option Text
  flags : Text
  width : Amount
  precision : Option Amount
  letter : CodePoint
  deriving DecidableEq, Repr

/-- How the value of a field is written, with all amounts known. -/
structure Layout where
  flags : Text
  width : Nat
  precision : Option Nat
  letter : CodePoint
  deriving DecidableEq, Repr

inductive Piece
  | literal (c : CodePoint)
  | field (field : Field)
  deriving DecidableEq, Repr

namespace Template

def isFlag (c : CodePoint) : Bool := isOneOf "#0+ -" c
where
  isOneOf (characters : String) (c : CodePoint) : Bool := (Text.ofString characters).contains c

/-- Letters that end a field, in either case and in the spellings that fall together with them. -/
def looksLikeConversion (c : CodePoint) : Bool :=
  (Text.ofString "diouxefgcrsa%").contains c.toLower || c.val == 0x130 || c.val == 0x131 || c.val == 0x17F

/-- A star or digits; nothing is accepted too. -/
private def skipAmount (t : Text) : Text :=
  match t with
  | c :: rest => if c = CodePoint.ofChar '*' then rest else t.dropWhile CodePoint.isDecimal
  | [] => []

/-- Whether a named field starts a text, as far as its looks go. -/
def startsField (t : Text) : Bool :=
  match t with
  | percent :: parenthesis :: rest =>
    let name := rest.takeWhile CodePoint.isWord
    let rest := rest.dropWhile CodePoint.isWord
    percent = CodePoint.ofChar '%' && parenthesis = CodePoint.ofChar '(' && !name.isEmpty
      && match rest with
        | closing :: rest =>
          let rest := skipAmount (rest.dropWhile isFlag)
          closing = CodePoint.ofChar ')' && (endsHere rest || afterPoint rest)
        | [] => false
  | _ => false
where
  endsHere : Text → Bool
    | c :: _ => looksLikeConversion c
    | [] => false
  afterPoint : Text → Bool
    | c :: rest =>
      c = CodePoint.ofChar '.' && (skipAmount rest).length < rest.length && endsHere (skipAmount rest)
    | [] => false

/-- Somewhere in a template there is a named field. -/
def isValid : Text → Bool
  | [] => false
  | c :: rest => startsField (c :: rest) || isValid rest

/-- Widths and precisions beyond this are refused. -/
def amountLimit : Nat := 2 ^ 31

/-- The name in parentheses, which may be nested, and the text after it. -/
def key? : (depth : Nat) → Text → Option (Text × Text)
  | _, [] => none
  | depth, c :: rest =>
    if c = CodePoint.ofChar ')' then
      match depth with
      | 0 => some ([], rest)
      | depth + 1 => (key? depth rest).map fun (key, rest) => (c :: key, rest)
    else
      let depth := if c = CodePoint.ofChar '(' then depth + 1 else depth
      (key? depth rest).map fun (key, rest) => (c :: key, rest)

/-- A star or digits as an amount; without any the amount is zero. -/
private def amount? (t : Text) : Option (Amount × Text) :=
  match t with
  | [] => some (.given 0, [])
  | c :: rest =>
    if c = CodePoint.ofChar '*' then some (.taken, rest)
    else
      let n := Numeral.value (t.takeWhile CodePoint.isDigit)
      if n < amountLimit then some (.given n, t.dropWhile CodePoint.isDigit) else none

/-- A field after its percent sign. -/
def field? (t : Text) : Option (Field × Text) := do
  let (key, t) ← match t with
    | [] => none
    | c :: rest =>
      if c = CodePoint.ofChar '(' then (key? 0 rest).map fun (key, rest) => (some key, rest)
      else some (none, c :: rest)
  let flags := t.takeWhile isFlag
  let (width, t) ← amount? (t.dropWhile isFlag)
  let (precision, t) ← match t with
    | [] => some (none, [])
    | c :: rest =>
      if c = CodePoint.ofChar '.' then (amount? rest).map fun (n, rest) => (some n, rest)
      else some (none, c :: rest)
  let t := match t with
    | [] => []
    | c :: rest => if (Text.ofString "hlL").contains c then rest else c :: rest
  match t with
  | [] => none
  | letter :: rest => some (⟨key, flags, width, precision, letter⟩, rest)

/-- The pieces of a template; two percent signs in a row stand for one. Every step takes at least
one code point. -/
def pieces? : (fuel : Nat) → Text → Option (List Piece)
  | _, [] => some []
  | 0, _ => none
  | fuel + 1, c :: rest =>
    if c != CodePoint.ofChar '%' then (pieces? fuel rest).map (.literal c :: ·)
    else if rest.head? = some c then (pieces? fuel (rest.drop 1)).map (.literal c :: ·)
    else do
      let (field, rest) ← field? rest
      return .field field :: (← pieces? fuel rest)

private def has (f : Layout) (flag : Char) : Bool := f.flags.contains (CodePoint.ofChar flag)

/-- Fills a text up to a width, on the right if the flags say so. -/
private def pad (f : Layout) (t : Text) : Text :=
  let spaces := List.replicate (f.width - t.length) (CodePoint.ofChar ' ')
  if has f '-' then t ++ spaces else spaces ++ t

/-- A text is cut to the precision first. -/
private def textField (f : Layout) (t : Text) : Text :=
  pad f (match f.precision with
    | some n => t.take n
    | none => t)

/-- A number has its sign, what marks its base, and zeros to fill it up. -/
private def numberField (f : Layout) (negative : Bool) (mark digits : Text) : Text :=
  let sign : Text := if negative then "-" else if has f '+' then "+" else if has f ' ' then " " else ""
  let zeros := if has f '0' && !has f '-' then
      f.width - (sign.length + mark.length + digits.length) else 0
  pad f (sign ++ mark ++ List.replicate zeros (CodePoint.ofChar '0') ++ digits)

private def digitsIn (base n : Nat) : Text := (Nat.toDigits base n).map CodePoint.ofChar

/-- A whole number in a base, with at least as many digits as the precision says. -/
private def integerField (f : Layout) (base : Nat) (mark : Text) (n : Int) (upper : Bool) : Text :=
  let digits := digitsIn base n.natAbs
  let digits := if upper then digits.map CodePoint.toUpper else digits
  let zeros := f.precision.getD 0 - digits.length
  let mark : Text := if has f '#' then mark else ""
  numberField f (n < 0) mark (List.replicate zeros (CodePoint.ofChar '0') ++ digits)

/-- The code points of a text that lie outside of ASCII are named by their numbers. -/
private def asciiOnly (t : Text) : Text :=
  t.flatMap fun c =>
    if c.val < 0x80 then [c]
    else if c.val < 0x100 then "\\x" ++ Text.hex 2 c.val
    else if c.val < 0x10000 then "\\u" ++ Text.hex 4 c.val
    else "\\U" ++ Text.hex 8 c.val

private def zeros (count : Nat) : Text := List.replicate count (CodePoint.ofChar '0')

/-- A fraction with its point, which stands alone only if the flags say so. -/
private def withPoint (f : Layout) (whole fraction : Text) : Text :=
  if fraction.isEmpty then (if has f '#' then whole ++ "." else whole) else whole ++ "." ++ fraction

/-- So many significant digits of a whole number, and the power of ten of the first one. -/
def significant (count n : Nat) : Text × Nat :=
  let length := (Numeral.ofNat n).length
  if length ≤ count then (Numeral.ofNat n ++ zeros (count - length), length - 1)
  else
    let rounded := Binary64.roundHalfEven n (10 ^ (length - count))
    if rounded = 10 ^ count then (Numeral.ofNat (rounded / 10), length)
    else (Numeral.ofNat rounded, length - 1)

private def withPower (f : Layout) (digits : Text) (power : Nat) : Text :=
  withPoint f (digits.take 1) (digits.drop 1) ++ "e+" ++ Numeral.padded 2 power

/-- A whole number with a fraction, with an exponent, or in the shorter of the two forms. -/
private def fixedDigits (f : Layout) (n : Nat) : Text :=
  withPoint f (Numeral.ofNat n) (zeros (f.precision.getD 6))

private def exponentDigits (f : Layout) (n : Nat) : Text :=
  let (digits, power) := significant (f.precision.getD 6 + 1) n
  withPower f digits power

private def generalDigits (f : Layout) (n : Nat) : Text :=
  let count := max 1 (f.precision.getD 6)
  let (digits, power) := significant count n
  let kept (t : Text) : Text :=
    if has f '#' then t else (t.reverse.dropWhile (· = CodePoint.ofChar '0')).reverse
  if power < count then withPoint f (digits.take (power + 1)) (kept (digits.drop (power + 1)))
  else withPower f (digits.take 1 ++ kept (digits.drop 1)) power

/-- The whole number that a floating-point number is taken for; there is none beyond the largest
of them. -/
private def nearestDouble? (n : Int) : Option Int := Binary64.ofRatio? (n < 0) n.natAbs 1 >>= Binary64.toInt?

/-- The text of a number in a field, if its letter suits numbers. -/
private def numberText? (f : Layout) (n : Int) : Option Text :=
  let is (letter : Char) : Bool := f.letter = CodePoint.ofChar letter
  let floating (digits : Layout → Nat → Text) : Option Text :=
    (nearestDouble? n).map fun n => numberField f (n < 0) [] (digits f n.natAbs)
  let upper (t : Text) : Text := t.map CodePoint.toUpper
  if is 'd' || is 'i' || is 'u' then some (integerField f 10 [] n false)
  else if is 'o' then some (integerField f 8 "0o" n false)
  else if is 'x' then some (integerField f 16 "0x" n false)
  else if is 'X' then some (integerField f 16 "0X" n true)
  else if is 'c' then
    if 0 ≤ n && n < 0x110000 then some (pad f [CodePoint.ofNat n.toNat]) else none
  else if is 'f' || is 'F' then floating fixedDigits
  else if is 'e' then floating exponentDigits
  else if is 'E' then (floating exponentDigits).map upper
  else if is 'g' then floating generalDigits
  else if is 'G' then (floating generalDigits).map upper
  else none

/-- The text of a value, if the letter suits it. -/
def written? (f : Layout) (value : Attribute) : Option Text :=
  let is (letter : Char) : Bool := f.letter = CodePoint.ofChar letter
  let plain := match value with
    | .text t => t
    | .number n => Numeral.ofInt n
    | .shown t => t
  let quoted := match value with
    | .text t => t.quoted
    | .number n => Numeral.ofInt n
    | .shown t => t
  if is 's' then some (textField f plain)
  else if is 'r' then some (textField f quoted)
  else if is 'a' then some (textField f (asciiOnly quoted))
  else match value with
    | .text t => if is 'c' && t.length = 1 then some (pad f t) else none
    | .number n => numberText? f n
    | .shown _ => none

/-- Fills fields in, with what is at hand for those that name nothing. -/
abbrev Filling := StateT (Option Attribute) Option

/-- Takes what is at hand, which is gone afterwards. -/
def takeValue : Filling Attribute := do
  match ← get with
  | some value =>
    set (none : Option Attribute)
    return value
  | none => failure

/-- An amount; one that is taken has to be a number within bounds. -/
def amountOf (amount : Amount) (bound : Int) : Filling Int :=
  match amount with
  | .given n => return n
  | .taken => do
    match ← takeValue with
    | .number n => if -bound ≤ n && n < bound then return n else failure
    | _ => failure

/-- The layout of a field. A negative width fills up on the right, and a negative precision is
none. -/
def layoutOf (f : Field) : Filling Layout := do
  let width ← amountOf f.width (2 ^ 63)
  let precision ← f.precision.mapM fun amount => amountOf amount (2 ^ 31)
  let flags := if width < 0 then CodePoint.ofChar '-' :: f.flags else f.flags
  return ⟨flags, width.natAbs, precision.map Int.toNat, f.letter⟩

/-- The text of a field, whose key puts the value of an attribute at hand. -/
def fillField (attribute? : Text → Option Attribute) (f : Field) : Filling Text := do
  match f.key with
  | none => pure ()
  | some key =>
    match attribute? key with
    | some value => set (some value)
    | none => failure
  let layout ← layoutOf f
  match written? layout (← takeValue) with
  | some t => return t
  | none => failure

/-- The line of a template, if every field has a value that suits it; `all` is at hand first. -/
def render? (attribute? : Text → Option Attribute) (all : Attribute) (template : Text) : Option Text := do
  let fill : Filling (List Text) := (← pieces? template.length template).mapM fun piece =>
    match piece with
    | .literal c => return [c]
    | .field f => fillField attribute? f
  return (← fill.run (some all)).1.flatten

end Template

end ChatDice.Logging
