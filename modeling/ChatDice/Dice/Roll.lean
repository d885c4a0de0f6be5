import ChatDice.Binary64
import ChatDice.Dice.Generator
import ChatDice.Dice.Notation

/-!
Rolling dice. A roll keeps its outcomes in the order of the draws; its minimum, maximum and
average are those of the dice and not of the outcomes.
-/

namespace ChatDice.Dice

structure Roll where
  amount : Int
  sides : Int
  modifier : Int
  outcomes : List Int
  total : Int
  deriving DecidableEq, Repr

namespace Roll

/-- The total when every die shows 1. -/
def minimum (roll : Roll) : Int := roll.amount + roll.modifier

/-- The total when every die shows its highest face. -/
def maximum (roll : Roll) : Int := roll.amount * roll.sides + roll.modifier

/-- The midpoint of minimum and maximum, unless it is too large for a floating-point number. -/
def average? (roll : Roll) : Option Binary64 := Binary64.half? (roll.minimum + roll.maximum)

end Roll

variable {σ : Type}

/-- Draws a number of dice; `done` holds the earlier outcomes, last first. -/
def outcomesOnto (draw : Draw σ) (sides : Int) (done : List Int) : Nat → σ → List Int × σ
  | 0, state => (done.reverse, state)
  | count + 1, state =>
    let (outcome, next) := draw 1 sides state
    outcomesOnto draw sides (outcome :: done) count next

/-- The outcomes of a number of dice in the order of the draws, and the source after them. -/
def outcomes (draw : Draw σ) (sides : Int) (count : Nat) (state : σ) : List Int × σ :=
  outcomesOnto draw sides [] count state

/-- The result that given outcomes make for a specification. -/
def Roll.ofOutcomes (spec : Specification) (outcomes : List Int) : Roll :=
  { amount := spec.amount
    sides := spec.sides
    modifier := spec.modifier
    outcomes
    total := outcomes.sum + spec.modifier }

/-- Rolls every die of a specification; a negative amount has no dice. -/
def Specification.roll (spec : Specification) (draw : Draw σ) (state : σ) : Roll × σ :=
  let (outcomes, next) := outcomes draw spec.sides spec.amount.toNat state
  (Roll.ofOutcomes spec outcomes, next)

end ChatDice.Dice
