import ChatDice.Text.Lines
import ChatDice.Yaml.Cursor

/-!
The tags of YAML nodes, and which of them a plain scalar has by its form alone.
-/

namespace ChatDice.Yaml

/-- What a node is meant to be. Only the tags of the core vocabulary are known. -/
inductive Tag
  | null
  | bool
  | int
  | float
  | timestamp
  | binary
  | str
  | merge
  | value
  | sequence
  | orderedMapping
  | pairs
  | mapping
  | set
  | unknown
  deriving DecidableEq, Repr

/-- The beginning of every tag of the core vocabulary. -/
def coreTag : Text := "tag:yaml.org,2002:"

/-- The tag that a full tag name denotes. -/
def Tag.ofName (name : Text) : Tag :=
  let known : List (Text × Tag) :=
    [("null", .null), ("bool", .bool), ("int", .int), ("float", .float), ("timestamp", .timestamp),
      ("binary", .binary), ("str", .str), ("merge", .merge), ("value", .value), ("seq", .sequence),
      ("omap", .orderedMapping), ("pairs", .pairs), ("map", .mapping), ("set", .set)]
  match known.find? fun entry => coreTag ++ entry.1 = name with
  | some (_, tag) => tag
  | none => .unknown

def isDigitOrLine (c : CodePoint) : Bool := c.isDigit || c.val == 0x5F

def isHexOrLine (c : CodePoint) : Bool := c.hexValue?.isSome || c.val == 0x5F

/-- A digit below a bound, or an underscore. -/
def isLowDigitOrLine (bound : Nat) (c : CodePoint) : Bool :=
  (c.isDigit && c.digitValue < bound) || c.val == 0x5F

/-- The text after a sign, if it starts with one. -/
def unsigned : Text → Text
  | c :: rest => if isOneOf "+-" (some c) then rest else c :: rest
  | [] => []

/-- A digit followed by digits and underscores. -/
def isDigitRun : Text → Bool
  | c :: rest => c.isDigit && rest.all isDigitOrLine
  | [] => false

/-- A digit run that does not start with zero. -/
def isPositiveRun (t : Text) : Bool := isDigitRun t && t.head? != some (CodePoint.ofChar '0')

/-- One digit, or two that are below sixty. -/
def isSixtieth : Text → Bool
  | [a] => a.isDigit
  | [a, b] => a.isDigit && a.digitValue < 6 && b.isDigit
  | _ => false

/-- A leading run and at least one part in base sixty after it. -/
def isSexagesimal (leading : Text → Bool) (t : Text) : Bool :=
  match Text.splitOn ':' t with
  | first :: parts => leading first && !parts.isEmpty && parts.all isSixtieth
  | [] => false

def isInteger (t : Text) : Bool :=
  let t := unsigned t
  let after (start : Text) (p : CodePoint → Bool) : Bool :=
    t.startsWith start && start.length < t.length && (t.drop start.length).all p
  after "0b" (isLowDigitOrLine 2) || after "0" (isLowDigitOrLine 8) || t = "0" || isPositiveRun t
    || after "0x" isHexOrLine || isSexagesimal isPositiveRun t

/-- An exponent has a sign and digits; there may be none at all. -/
def isExponent : Text → Bool
  | [] => true
  | [_] => false
  | _ :: sign :: digits => isOneOf "+-" (some sign) && !digits.isEmpty && digits.all CodePoint.isDigit

/-- A text before and from the first code point that passes a test. -/
def breakAt (p : CodePoint → Bool) (t : Text) : Text × Text := (t.takeWhile (!p ·), t.dropWhile (!p ·))

def isPoint (c : CodePoint) : Bool := c.val == 0x2E

def isExponentMark (c : CodePoint) : Bool := isOneOf "eE" (some c)

/-- A decimal with a point; base sixty allows no exponent. -/
def isDecimal (t : Text) : Bool :=
  let (mantissa, exponent) := breakAt isExponentMark t
  match breakAt isPoint mantissa with
  | (whole, _ :: fraction) =>
    fraction.all isDigitOrLine
      && ((isDigitRun (unsigned whole) && isExponent exponent)
        || (whole.isEmpty && isDigitRun fraction && isExponent exponent)
        || (exponent.isEmpty && isSexagesimal isDigitRun (unsigned whole)))
  | (_, []) => false

private def isAmong (t : Text) (words : List String) : Bool := words.any fun word => t = Text.ofString word

def isInfinite (t : Text) : Bool := isAmong (unsigned t) [".inf", ".Inf", ".INF"]

def isUndefined (t : Text) : Bool := isAmong t [".nan", ".NaN", ".NAN"]

def isTruthValue (t : Text) : Bool :=
  isAmong t ["yes", "Yes", "YES", "no", "No", "NO", "true", "True", "TRUE", "false", "False", "FALSE",
    "on", "On", "ON", "off", "Off", "OFF"]

def isNull (t : Text) : Bool := isAmong t ["", "~", "null", "Null", "NULL"]

/-- The numbers of a timestamp; the day alone, or with a time of day. -/
structure Timestamp where
  date : Date
  time : Option Moment
  deriving Repr

/-- At least and at most so many digits. -/
def digits? (least most : Nat) (t : Text) : Option (Text × Text) :=
  let run := (t.take most).takeWhile CodePoint.isDigit
  if run.length < least then none else some (run, t.drop run.length)

def number? (least most : Nat) (t : Text) : Option (Nat × Text) :=
  (digits? least most t).map fun (run, rest) => (Numeral.value run, rest)

/-- The text after a mark that has to stand here. -/
def after? (mark : Char) : Text → Option Text
  | c :: rest => if c = CodePoint.ofChar mark then some rest else none
  | [] => none

/-- A zone at the end: `Z`, or signed hours with or without minutes. -/
def zone? (t : Text) : Option (Option Int) :=
  match t.dropWhile isSpaceOrTab with
  | [] => if t.isEmpty then some none else none
  | c :: rest =>
    if c = CodePoint.ofChar 'Z' then (if rest.isEmpty then some (some 0) else none)
    else if isOneOf "+-" (some c) then do
      let (hours, rest) ← number? 1 2 rest
      let (minutes, rest) ← if rest.isEmpty then some (0, []) else after? ':' rest >>= number? 2 2
      let offset : Int := (hours * 60 + minutes : Nat)
      if rest.isEmpty then some (some (if c = CodePoint.ofChar '-' then -offset else offset)) else none
    else none

/-- The digits of a fraction as millionths; further digits are dropped. -/
def millionths (digits : Text) : Nat :=
  Numeral.value ((digits ++ List.replicate 6 (CodePoint.ofChar '0')).take 6)

/-- Numbers in the places of a timestamp, whether or not the calendar has them. -/
def timestamp? (t : Text) : Option Timestamp := do
  let (year, t) ← number? 4 4 t
  let (month, t) ← after? '-' t >>= number? 1 2
  let (day, t) ← after? '-' t >>= number? 1 2
  let date : Date := ⟨year, month, day⟩
  if t.isEmpty then return ⟨date, none⟩
  let t ← if isOneOf "Tt" t.head? then some (t.drop 1)
    else if isOneOf " \t" t.head? then some (t.dropWhile isSpaceOrTab) else none
  let (hour, t) ← number? 1 2 t
  let (minute, t) ← after? ':' t >>= number? 2 2
  let (second, t) ← after? ':' t >>= number? 2 2
  let (fraction, t) : Text × Text := match after? '.' t with
    | some rest => (rest.takeWhile CodePoint.isDigit, rest.dropWhile CodePoint.isDigit)
    | none => ([], t)
  let offset ← zone? t
  return ⟨date, some ⟨date, hour, minute, second, millionths fraction, offset⟩⟩

/-- Without a time, a plain timestamp has two digits for the month and for the day. -/
def isTimestamp (t : Text) : Bool :=
  match timestamp? t with
  | some ⟨_, none⟩ => t.length == 10
  | some ⟨_, some _⟩ => true
  | none => false

/-- The tag that a form shows. -/
def Tag.ofForm (t : Text) : Tag :=
  if isTruthValue t then .bool
  else if isDecimal t || isInfinite t || isUndefined t then .float
  else if isInteger t then .int
  else if t = "<<" then .merge
  else if isNull t then .null
  else if isTimestamp t then .timestamp
  else if t = "=" then .value
  else .str

/-- The tag of a scalar that shows what it is by its form. A line feed at its end is passed over,
unless there is nothing else. -/
def Tag.ofPlain (t : Text) : Tag :=
  let form := t.withoutLastBreak
  if form.isEmpty && !t.isEmpty then .str else .ofForm form

end ChatDice.Yaml
