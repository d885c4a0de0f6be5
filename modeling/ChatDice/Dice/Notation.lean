import ChatDice.Text.Numeral

/-!
Dice notation: an optional amount, the letter `d`, the sides, and an optional modifier after one
of four operators. The first `d` before a digit makes the term; the runs of letters and digits
around it are taken whole, so that stray text touching the term is reported and never skipped.
-/

namespace ChatDice.Dice

/-- What to roll, with the text that asked for it. -/
structure Specification where
  query : Text
  amount : Int
  sides : Int
  modifier : Int
  deriving DecidableEq, Repr

/-- The field that a notation fails in. -/
inductive Failure
  | format
  | sides
  | amount
  | modifier
  deriving DecidableEq, Repr

/-- The reply that a failure earns. -/
def Failure.message : Failure → Text
  | .format => "Invalid format"
  | .sides => "Invalid sides"
  | .amount => "Invalid amount"
  | .modifier => "Invalid modifier"

/-- The fields of a term as they are written; the modifier comes with its operator. -/
structure Term where
  amount : Text
  sides : Text
  modifier : Option (CodePoint × Text)
  deriving DecidableEq, Repr

def isOperator (c : CodePoint) : Bool :=
  c == CodePoint.ofChar '-' || c == CodePoint.ofChar '+' || c == CodePoint.ofChar '*'
    || c == CodePoint.ofChar '/'

/-- An operator counts only before a letter or a digit. -/
def modifierAt : Text → Option (CodePoint × Text)
  | operator :: rest =>
    let run := rest.takeWhile CodePoint.isAlphanumeric
    if isOperator operator && !run.isEmpty then some (operator, run) else none
  | [] => none

/-- Sides and modifier at the place after the `d` of a term. -/
def Term.after (amount rest : Text) : Term :=
  { amount
    sides := rest.takeWhile CodePoint.isAlphanumeric
    modifier := modifierAt (rest.dropWhile CodePoint.isAlphanumeric) }

def startsWithDigit : Text → Bool
  | c :: _ => c.isDigit
  | [] => false

/-- Searches on for a term; `run` holds the letters and digits just before, last first. -/
def Term.search (run : Text) : Text → Option Term
  | [] => none
  | c :: rest =>
    if c = CodePoint.ofChar 'd' && startsWithDigit rest then some (Term.after run.reverse rest)
    else if c.isAlphanumeric then Term.search (c :: run) rest
    else Term.search [] rest

def Term.find? (query : Text) : Option Term := Term.search [] query

/-- The number that a field denotes if it is a run of digits of permitted length. -/
def number? (field : Text) : Option Nat :=
  if field.isEmpty || !field.all CodePoint.isDigit then none else (Numeral.read field).toOption

/-- The field's failure if it is no number. -/
def required (field : Text) (failure : Failure) : Except Failure Nat :=
  match number? field with
  | some n => .ok n
  | none => .error failure

/-- A missing amount is one. -/
def amountOf (field : Text) : Except Failure Nat :=
  if field.isEmpty then .ok 1 else required field .amount

/-- Only a minus makes the modifier negative; a missing one is zero. -/
def modifierOf : Option (CodePoint × Text) → Except Failure Int
  | none => .ok 0
  | some (operator, field) =>
    (required field .modifier).map fun n => if operator = CodePoint.ofChar '-' then -n else n

/-- Reads the first term of a query. Format, sides, amount and modifier are checked in this
order. -/
def parse (query : Text) : Except Failure Specification :=
  match Term.find? query with
  | none => .error .format
  | some term => do
    let sides ← required term.sides .sides
    if sides = 0 then throw .sides
    let amount ← amountOf term.amount
    let modifier ← modifierOf term.modifier
    return { query, amount, sides, modifier }

end ChatDice.Dice
