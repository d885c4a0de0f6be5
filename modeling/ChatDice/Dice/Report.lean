import ChatDice.Binary64.Decimal
import ChatDice.Dice.Grouping
import ChatDice.Dice.Roll

/-!
The report of a roll for the chat. Numbers are turned into text in a fixed order, and the first
one that cannot be makes the report fail.
-/

namespace ChatDice.Dice.Report

/-- Why there is no report. -/
inductive Error
  | numeral (excess : Numeral.Excess)
  | averageTooLarge
  deriving DecidableEq, Repr

def Error.message : Error → Text
  | .numeral excess => excess.message
  | .averageTooLarge => "integer division result too large for a float"

def number (n : Int) : Except Error Text :=
  match Numeral.write n with
  | .ok t => .ok t
  | .error excess => .error (.numeral excess)

/-- A whole average is written as a whole number, any other one as the shortest decimal. -/
def averageText (average : Option Binary64) : Except Error Text :=
  match average with
  | none => .error .averageTooLarge
  | some x =>
    match x.toInt? with
    | some n => number n
    | none => .ok x.text

/-- Each number as text, the first failure winning. -/
def numbers : List Int → Except Error (List Text)
  | [] => .ok []
  | n :: rest => do
    let t ← number n
    return t :: (← numbers rest)

/-- The bullet of one face. -/
def groupLine (group : Int × List Nat) : Except Error Text := do
  return "  - **" ++ Numeral.ofNat group.2.length ++ "** " ++ (← number group.1) ++ "s"

def groupLines : Grouping → Except Error (List Text)
  | [] => .ok []
  | group :: rest => do
    let line ← groupLine group
    return line :: (← groupLines rest)

/-- One bullet on its own line for each face that came up more than once. -/
def groups (grouping : Grouping) : Except Error Text :=
  (groupLines grouping.repeated).map (Text.join "\n")

/-- The whole report. The heading of the groups is there whenever they are asked for. -/
def render (query : Text) (roll : Roll) (grouping : Grouping) (showGroups : Bool) :
    Except Error Text := do
  let maximum ← number roll.maximum
  let minimum ← number roll.minimum
  let average ← averageText roll.average?
  let outcomes ← numbers roll.outcomes
  let total ← number roll.total
  let body := "You rolled **" ++ query ++ "** (max is " ++ maximum ++ ", min is " ++ minimum
    ++ ", avg is " ++ average ++ "):\n- Results: **" ++ Text.join ", " outcomes
    ++ "**\n- Total: **" ++ total ++ "**\n"
  if showGroups then return body ++ "- Groups:\n" ++ (← groups grouping)
  return body

end ChatDice.Dice.Report
