import ChatDice.Instances

/-!
Sources of random numbers. A source is a state and a way to draw from it: asked for a number
between two bounds, it answers with a number and its next state.
-/

namespace ChatDice.Dice

/-- One draw between a lowest and a highest number. -/
abbrev Draw (σ : Type) := (low high : Int) → σ → Int × σ

/-- Every answer lies between the bounds asked for. -/
def Draw.InBounds {σ : Type} (draw : Draw σ) : Prop :=
  ∀ low high state, low ≤ high → low ≤ (draw low high state).1 ∧ (draw low high state).1 ≤ high

/-- The same source with a list of the bounds it was asked for, the latest first. -/
def Draw.recording {σ : Type} (draw : Draw σ) : Draw (σ × List (Int × Int)) :=
  fun low high (state, asked) =>
    let (answer, next) := draw low high state
    (answer, next, (low, high) :: asked)

/-- Sources for replay: given values over and over, or a linear congruential sequence. -/
inductive Script
  | cycle (values : List Int) (position : Nat)
  | congruential (state : Nat)
  deriving Repr

/-- The state after this one: a multiple of it and a constant, modulo `2 ^ 64`. -/
def Script.advance (state : Nat) : Nat :=
  (state * 6364136223846793005 + 1442695040888963407) % 2 ^ 64

/-- A cycle answers in turn whatever the bounds; the sequence folds its upper 31 bits into
them. -/
def Script.draw : Draw Script := fun low high script =>
  match script with
  | .cycle values position =>
    (values[position % values.length]?.getD low, .cycle values (position + 1))
  | .congruential state =>
    let next := Script.advance state
    (low + Int.fmod (next / 2 ^ 33 : Nat) (high - low + 1), .congruential next)

end ChatDice.Dice
