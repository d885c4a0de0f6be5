import ChatDice.Text.Numeral
import ChatDice.Text.Words

/-!
The expressions that a plugin module assigns to its names: names, numbers, texts, lists and tables,
what hangs on another expression by a point, a call or an index, and the words `or`, `and`, `not`,
`if` and `else` between them. Whatever else can be written there gives a value of no interest.
-/

namespace ChatDice.Plugin

inductive Expression
  | name (name : Text)
  | number (value : Nat)
  | text (value : Text)
  | items (items : List Expression)
  | table (keysAndValues : List Expression)
  | member (owner : Expression) (name : Text)
  | call (callee : Expression) (arguments : List Expression)
  | item (owner index : Expression)
  | either (first second : Expression)
  | both (first second : Expression)
  | negation (operand : Expression)
  | choice (condition yes no : Expression)
  | other
  deriving Repr

namespace Expression

inductive Token
  | word (text : Text)
  | number (value : Nat)
  | text (text : Text)
  | mark (mark : CodePoint)
  deriving DecidableEq, Repr

private def startsName (c : CodePoint) : Bool :=
  c.isLetter || c = CodePoint.ofChar '_' || 0x80 ≤ c.val

private def continuesName (c : CodePoint) : Bool := startsName c || c.isDigit

private def isQuote (c : CodePoint) : Bool :=
  c = CodePoint.ofChar '\'' || c = CodePoint.ofChar '"'

/-- The tokens of an expression. A text without its second quotation mark has none, and neither
has one with a backslash in it. -/
def tokens (t : Text) : Option (List Token) :=
  match t with
  | [] => some []
  | c :: rest =>
    if c.isBlank then tokens rest
    else if startsName c then do
      let more ← tokens (rest.dropWhile continuesName)
      return .word (c :: rest.takeWhile continuesName) :: more
    else if c.isDigit then do
      let more ← tokens (rest.dropWhile CodePoint.isDigit)
      return .number (Numeral.value (c :: rest.takeWhile CodePoint.isDigit)) :: more
    else if isQuote c then do
      let body := rest.takeWhile (· != c)
      if body.length = rest.length || body.contains (CodePoint.ofChar '\\') then none
      let more ← tokens (rest.drop (body.length + 1))
      return .text body :: more
    else do
      let more ← tokens rest
      return .mark c :: more
  termination_by t.length
  decreasing_by
    · exact Nat.lt_succ_self _
    · exact Nat.lt_succ_of_le (List.dropWhile_sublist continuesName).length_le
    · exact Nat.lt_succ_of_le (List.dropWhile_sublist CodePoint.isDigit).length_le
    · simp only [List.length_drop, List.length_cons]; omega
    · exact Nat.lt_succ_self _

/-- What is left of some tokens once the first of them are read. -/
abbrev Rest (tokens : List Token) := { rest : List Token // rest.length < tokens.length }

/-- What is left of what is left. -/
def Rest.further {tokens : List Token} (rest : Rest tokens) (last : Rest rest.val) : Rest tokens :=
  ⟨last.val, Nat.lt_trans last.property rest.property⟩

/-- Reads on in what is left. -/
def Rest.onward {α : Type} {tokens : List Token} (rest : Rest tokens)
    (read : (more : List Token) → more.length < tokens.length → Option (α × Rest more)) :
    Option (α × Rest tokens) :=
  (read rest.val rest.property).map fun (value, last) => (value, rest.further last)

/-- What follows a token, if it comes first. -/
def after? (token : Token) : (tokens : List Token) → Option (Rest tokens)
  | [] => none
  | first :: rest => if first = token then some ⟨rest, by simp⟩ else none

private def word (s : String) : Token := .word s

private def mark (c : Char) : Token := .mark c

/-- The words that stand between expressions and are no names. -/
private def isJoint (name : Text) : Bool :=
  [word "or", word "and", word "not", word "if", word "else"].contains (.word name)

mutual

/-- An expression that may hang on a condition. -/
def readChoice (tokens : List Token) : Option (Expression × Rest tokens) := do
  let (yes, rest) ← readEither tokens
  match after? (word "if") rest.val with
  | none => return (yes, rest)
  | some inner =>
    let (condition, rest) ← (rest.further inner).onward fun more _ => readEither more
    let inner ← after? (word "else") rest.val
    let (no, rest) ← (rest.further inner).onward fun more _ => readChoice more
    return (.choice condition yes no, rest)
  termination_by (tokens.length, 5)

/-- Alternatives with `or`. -/
def readEither (tokens : List Token) : Option (Expression × Rest tokens) := do
  let (first, rest) ← readBoth tokens
  match after? (word "or") rest.val with
  | none => return (first, rest)
  | some inner =>
    let (second, rest) ← (rest.further inner).onward fun more _ => readEither more
    return (.either first second, rest)
  termination_by (tokens.length, 4)

/-- Operands of `and`, which binds more tightly than `or`. -/
def readBoth (tokens : List Token) : Option (Expression × Rest tokens) := do
  let (first, rest) ← readNegation tokens
  match after? (word "and") rest.val with
  | none => return (first, rest)
  | some inner =>
    let (second, rest) ← (rest.further inner).onward fun more _ => readBoth more
    return (.both first second, rest)
  termination_by (tokens.length, 3)

/-- An operand of `not`, or an expression without these words. -/
def readNegation (tokens : List Token) : Option (Expression × Rest tokens) := do
  match after? (word "not") tokens with
  | none => readWhole tokens
  | some rest =>
    let (operand, rest) ← rest.onward fun more _ => readNegation more
    return (.negation operand, rest)
  termination_by (tokens.length, 2)

/-- An expression that begins with a name, a number, a text or an opening bracket. -/
def readWhole (tokens : List Token) : Option (Expression × Rest tokens) :=
  match tokens with
  | .word label :: rest =>
    if isJoint label then none else readEndings (.name label) ⟨rest, by simp⟩
  | .number n :: rest => readEndings (.number n) ⟨rest, by simp⟩
  | .text t :: rest => readEndings (.text t) ⟨rest, by simp⟩
  | .mark bracket :: rest => do
    let rest : Rest (.mark bracket :: rest) := ⟨rest, by simp⟩
    if bracket = CodePoint.ofChar '(' then
      let ((parts, hasComma), rest) ← rest.onward fun more _ => readItems (mark ')') more
      have := rest.property
      match parts, hasComma with
      | [only], false => readEndings only rest
      | parts, _ => readEndings (.items parts) rest
    else if bracket = CodePoint.ofChar '[' then
      let ((parts, _), rest) ← rest.onward fun more _ => readItems (mark ']') more
      have := rest.property
      readEndings (.items parts) rest
    else if bracket = CodePoint.ofChar '\x7b' then
      let (keysAndValues, rest) ← rest.onward fun more _ => readTable more
      have := rest.property
      readEndings (.table keysAndValues) rest
    else none
  | [] => none
  termination_by (tokens.length, 1)

/-- What hangs on an expression that has been read. -/
def readEndings (owner : Expression) {tokens : List Token} (rest : Rest tokens) :
    Option (Expression × Rest tokens) := do
  match after? (mark '.') rest.val, after? (mark '(') rest.val, after? (mark '[') rest.val with
  | some inner, _, _ =>
    match inner with
    | ⟨.word label :: last, shorter⟩ =>
      have shorter : last.length < rest.val.length := Nat.lt_of_succ_lt shorter
      readEndings (.member owner label) (rest.further ⟨last, shorter⟩)
    | _ => none
  | _, some inner, _ =>
    let ((arguments, _), last) ← inner.onward fun more _ => readItems (mark ')') more
    have := last.property
    readEndings (.call owner arguments) (rest.further last)
  | _, _, some inner =>
    let (index, last) ← inner.onward fun more _ => readChoice more
    let last ← (after? (mark ']') last.val).map last.further
    have := last.property
    readEndings (.item owner index) (rest.further last)
  | none, none, none => return (owner, rest)
  termination_by (rest.val.length, 0)

/-- Expressions between commas up to a closing bracket, and whether there is any comma. -/
def readItems (closing : Token) (tokens : List Token) :
    Option ((List Expression × Bool) × Rest tokens) := do
  match after? closing tokens with
  | some rest => return (([], false), rest)
  | none =>
    let (first, rest) ← readChoice tokens
    match after? closing rest.val with
    | some last => return (([first], false), rest.further last)
    | none =>
      let inner ← after? (mark ',') rest.val
      let ((parts, _), last) ← (rest.further inner).onward fun more _ => readItems closing more
      return ((first :: parts, true), last)
  termination_by (tokens.length, 6)

/-- Keys and values in turn up to the closing brace. -/
def readTable (tokens : List Token) : Option (List Expression × Rest tokens) := do
  match after? (mark '\x7d') tokens with
  | some rest => return ([], rest)
  | none =>
    let (key, rest) ← readChoice tokens
    let inner ← after? (mark ':') rest.val
    let (value, rest) ← (rest.further inner).onward fun more _ => readChoice more
    match after? (mark '\x7d') rest.val with
    | some last => return ([key, value], rest.further last)
    | none =>
      let inner ← after? (mark ',') rest.val
      let (entries, rest) ← (rest.further inner).onward fun more _ => readTable more
      return (key :: value :: entries, rest)
  termination_by (tokens.length, 6)

end

/-- The expression that a text spells out. -/
def read (t : Text) : Expression :=
  match tokens t with
  | none => .other
  | some all =>
    match readChoice all with
    | some (expression, ⟨[], _⟩) => expression
    | _ => .other

end Expression

end ChatDice.Plugin
