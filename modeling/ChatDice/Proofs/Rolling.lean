import ChatDice.Dice.Roll
import ChatDice.Proofs.Parsing
import Mathlib.Algebra.Order.BigOperators.Group.List

/-!
What a roll shows: as many faces as there are dice, each of them a face of the die, so that the
total lies between minimum and maximum.
-/

namespace ChatDice.Dice

variable {σ : Type}

/-- A source that answers with a face when a die is rolled. -/
def Draw.GivesFaces (draw : Draw σ) (sides : Int) : Prop :=
  ∀ state, 1 ≤ (draw 1 sides state).1 ∧ (draw 1 sides state).1 ≤ sides

theorem Draw.InBounds.givesFaces {draw : Draw σ} (inBounds : draw.InBounds) {sides : Int}
    (positive : 1 ≤ sides) : draw.GivesFaces sides :=
  fun state => inBounds 1 sides state positive

/-- The source that always answers with the lower bound. -/
def Draw.lowest : Draw σ := fun low _ state => (low, state)

theorem Draw.lowest_inBounds : (Draw.lowest : Draw σ).InBounds :=
  fun low _ _ ordered => ⟨Int.le_refl low, ordered⟩

/-- The answers of a source to requests made one after another, and the source after them. -/
def Draw.answers (draw : Draw σ) : List (Int × Int) → σ → List Int × σ
  | [], source => ([], source)
  | (low, high) :: rest, source =>
    let (answer, next) := draw low high source
    let (others, last) := draw.answers rest next
    (answer :: others, last)

theorem outcomesOnto_eq (draw : Draw σ) (sides : Int) (done : List Int) (count : Nat) (source : σ) :
    outcomesOnto draw sides done count source =
      let (answers, next) := draw.answers (List.replicate count (1, sides)) source
      (done.reverse ++ answers, next) := by
  induction count generalizing done source with
  | zero => simp [outcomesOnto, Draw.answers]
  | succ count ih => simp [outcomesOnto, List.replicate_succ, Draw.answers, ih]

/-- The outcomes of a roll are the answers to one request for each die, in order. -/
theorem Specification.roll_eq (spec : Specification) (draw : Draw σ) (source : σ) :
    spec.roll draw source =
      let (answers, next) := draw.answers (List.replicate spec.amount.toNat (1, spec.sides)) source
      (Roll.ofOutcomes spec answers, next) := by
  simp [roll, outcomes, outcomesOnto_eq]

private theorem length_outcomesOnto (draw : Draw σ) (sides : Int) (done : List Int) (count : Nat)
    (state : σ) : (outcomesOnto draw sides done count state).1.length = done.length + count := by
  induction count generalizing done state with
  | zero => simp [outcomesOnto]
  | succ count ih =>
    rw [outcomesOnto, ih, List.length_cons, Nat.add_assoc, Nat.add_comm 1]

/-- What holds of every answer and of the earlier outcomes holds of all of them. -/
private theorem forall_mem_outcomesOnto (holds : Int → Prop) {draw : Draw σ} {sides : Int}
    {done : List Int} (drawn : ∀ state, holds (draw 1 sides state).1)
    (kept : ∀ face ∈ done, holds face) (count : Nat) (state : σ) :
    ∀ face ∈ (outcomesOnto draw sides done count state).1, holds face := by
  induction count generalizing done state with
  | zero =>
    intro face member
    exact kept face (List.mem_reverse.mp member)
  | succ count ih =>
    apply ih
    intro face member
    rcases List.mem_cons.mp member with new | old
    · subst face
      exact drawn state
    · exact kept face old

/-- The least that the dice can show, with the modifier. -/
def Specification.minimum (spec : Specification) : Int := spec.amount + spec.modifier

/-- The most that the dice can show, with the modifier. -/
def Specification.maximum (spec : Specification) : Int := spec.amount * spec.sides + spec.modifier

/-- What the dice of a specification can show. -/
structure Roll.Shows (spec : Specification) (roll : Roll) : Prop where
  amount : roll.amount = spec.amount
  sides : roll.sides = spec.sides
  modifier : roll.modifier = spec.modifier
  dice : roll.outcomes.length = spec.amount.toNat
  faces : ∀ face ∈ roll.outcomes, 1 ≤ face ∧ face ≤ spec.sides
  total : roll.total = roll.outcomes.sum + spec.modifier

/-- As many outcomes as there are dice, whatever the source answers. -/
theorem Specification.length_outcomes_roll (spec : Specification) (draw : Draw σ) (state : σ) :
    (spec.roll draw state).1.outcomes.length = spec.amount.toNat := by
  have length := length_outcomesOnto draw spec.sides [] spec.amount.toNat state
  rw [List.length_nil, Nat.zero_add] at length
  exact length

theorem Specification.roll_shows {draw : Draw σ} (spec : Specification)
    (faces : draw.GivesFaces spec.sides) (state : σ) : (spec.roll draw state).1.Shows spec := by
  refine ⟨rfl, rfl, rfl, spec.length_outcomes_roll draw state, ?_, rfl⟩
  exact forall_mem_outcomesOnto (fun face => 1 ≤ face ∧ face ≤ spec.sides) faces (by simp)
    spec.amount.toNat state

namespace Roll.Shows

variable {spec : Specification} {roll : Roll}

theorem minimum_eq (shows : roll.Shows spec) : roll.minimum = spec.minimum := by
  rw [minimum, Specification.minimum, shows.amount, shows.modifier]

theorem maximum_eq (shows : roll.Shows spec) : roll.maximum = spec.maximum := by
  rw [maximum, Specification.maximum, shows.amount, shows.sides, shows.modifier]

theorem minimum_le_total (shows : roll.Shows spec) : roll.minimum ≤ roll.total := by
  have sum := List.card_nsmul_le_sum roll.outcomes 1 fun face member => (shows.faces face member).1
  rw [shows.dice, Int.nsmul_eq_mul, mul_one] at sum
  rw [shows.minimum_eq, shows.total, Specification.minimum]
  omega

theorem total_le_maximum (shows : roll.Shows spec) (inRange : spec.InRange) :
    roll.total ≤ roll.maximum := by
  have sum := List.sum_le_card_nsmul roll.outcomes spec.sides fun face member =>
    (shows.faces face member).2
  rw [shows.dice, Int.nsmul_eq_mul, Int.toNat_of_nonneg inRange.amountNonneg] at sum
  rw [shows.maximum_eq, shows.total, Specification.maximum]
  omega

theorem natAbs_face_lt (shows : roll.Shows spec) (inRange : spec.InRange) :
    ∀ face ∈ roll.outcomes, face.natAbs < 10 ^ Numeral.digitLimit := by
  intro face member
  have within := shows.faces face member
  have sides := inRange.sides
  omega

/-- No number between minimum and maximum falls below the modifier, so that it can only be too
large if the maximum is. -/
theorem natAbs_lt (shows : roll.Shows spec) (inRange : spec.InRange) {n : Int}
    (above : roll.minimum ≤ n) (below : n ≤ roll.maximum)
    (small : spec.maximum < (10 ^ Numeral.digitLimit : Nat)) : n.natAbs < 10 ^ Numeral.digitLimit := by
  have modifier := inRange.modifier
  have dice := inRange.amountNonneg
  rw [shows.minimum_eq, Specification.minimum] at above
  rw [shows.maximum_eq] at below
  omega

theorem minimum_le_maximum (shows : roll.Shows spec) (inRange : spec.InRange) :
    roll.minimum ≤ roll.maximum :=
  Int.le_trans shows.minimum_le_total (shows.total_le_maximum inRange)

end Roll.Shows

end ChatDice.Dice
