import ChatDice.Proofs.Rolling
import Mathlib.Data.Set.Defs

/-!
Which totals dice can show. Every list of faces is what some source rolls, and sums of faces leave
out no number between the least and the greatest of them.
-/

namespace ChatDice.Dice

/-- The source that gives out a list of answers, each moved into the bounds it is asked for. -/
def Draw.listed : Draw (List Int) := fun low high answers =>
  (max low (min high (answers.headD low)), answers.tail)

theorem Draw.listed_inBounds : Draw.listed.InBounds := by
  intro low high answers ordered
  exact ⟨Int.le_max_left .., Int.max_le.mpr ⟨ordered, Int.min_le_left ..⟩⟩

/-- Answers that are faces of the die are given out as they are. -/
theorem Draw.answers_listed {sides : Int} {faces : List Int}
    (within : ∀ face ∈ faces, 1 ≤ face ∧ face ≤ sides) :
    Draw.listed.answers (List.replicate faces.length (1, sides)) faces = (faces, []) := by
  induction faces with
  | nil => rfl
  | cons face rest ih =>
    obtain ⟨⟨least, most⟩, others⟩ := List.forall_mem_cons.mp within
    have kept : max 1 (min sides face) = face := by omega
    simp only [List.length_cons, List.replicate_succ, answers, listed, List.headD_cons,
      List.tail_cons, ih others, kept]

/-- Outcomes that the dice of a specification can show. -/
structure Specification.CanShow (spec : Specification) (outcomes : List Int) : Prop where
  dice : outcomes.length = spec.amount.toNat
  faces : ∀ face ∈ outcomes, 1 ≤ face ∧ face ≤ spec.sides

/-- Whatever dice can show is what they do show if the source gives it out. -/
theorem Specification.CanShow.roll_listed {spec : Specification} {outcomes : List Int}
    (canShow : spec.CanShow outcomes) :
    spec.roll Draw.listed outcomes = (Roll.ofOutcomes spec outcomes, []) := by
  rw [spec.roll_eq, ← canShow.dice, Draw.answers_listed canShow.faces]

/-- Faces that add up to a sum: each one as high as the sum allows once 1 is kept for every later
die. -/
def facesFor (sides : Int) : Nat → Int → List Int
  | 0, _ => []
  | count + 1, sum =>
    let face := min sides (sum - count)
    face :: facesFor sides count (sum - face)

theorem length_facesFor (sides : Int) (count : Nat) (sum : Int) :
    (facesFor sides count sum).length = count := by
  induction count generalizing sum with
  | zero => rfl
  | succ count ih => rw [facesFor, List.length_cons, ih]

/-- What one die leaves to the others is again within their reach. -/
private theorem reach_of_first {sides sum : Int} {count : Nat} (positive : 1 ≤ sides)
    (least : (count + 1 : Nat) ≤ sum) (most : sum ≤ (count + 1 : Nat) * sides) :
    let face := min sides (sum - count)
    (1 ≤ face ∧ face ≤ sides) ∧ count ≤ sum - face ∧ sum - face ≤ count * sides := by
  have others : (count : Int) * 1 ≤ count * sides :=
    Int.mul_le_mul_of_nonneg_left positive (Int.natCast_nonneg count)
  rw [Int.natCast_succ] at least
  rw [Int.natCast_succ, Int.add_mul, Int.one_mul] at most
  omega

theorem facesFor_spec {sides : Int} (positive : 1 ≤ sides) (count : Nat) (sum : Int)
    (least : count ≤ sum) (most : sum ≤ count * sides) :
    (∀ face ∈ facesFor sides count sum, 1 ≤ face ∧ face ≤ sides) ∧
      (facesFor sides count sum).sum = sum := by
  induction count generalizing sum with
  | zero =>
    have nothing : sum = 0 := by omega
    exact ⟨by simp [facesFor], by simp [facesFor, nothing]⟩
  | succ count ih =>
    obtain ⟨face, least, most⟩ := reach_of_first positive least most
    obtain ⟨others, rest⟩ := ih _ least most
    exact ⟨List.forall_mem_cons.mpr ⟨face, others⟩, by rw [facesFor, List.sum_cons, rest]; omega⟩

/-- Some outcomes have each total between minimum and maximum. -/
theorem Specification.InRange.exists_canShow {spec : Specification} (inRange : spec.InRange)
    {total : Int} (least : spec.minimum ≤ total) (most : total ≤ spec.maximum) :
    ∃ outcomes, spec.CanShow outcomes ∧ outcomes.sum + spec.modifier = total := by
  have dice := Int.toNat_of_nonneg inRange.amountNonneg
  rw [minimum] at least
  rw [maximum] at most
  obtain ⟨faces, sum⟩ := facesFor_spec inRange.sidesPositive spec.amount.toNat (total - spec.modifier)
    (by omega) (by rw [dice]; omega)
  exact ⟨_, ⟨length_facesFor .., faces⟩, by omega⟩

/-- The totals that rolls of a specification have, over all sources that answer with its faces. -/
def Specification.totals (spec : Specification) : Set Int :=
  {total | ∃ (σ : Type) (draw : Draw σ) (state : σ),
    draw.GivesFaces spec.sides ∧ (spec.roll draw state).1.total = total}

/-- The totals of what is parsed, any number of dice with at least one face, are the whole numbers
from minimum to maximum: none lies outside, and none between is missing. -/
theorem totals_of_parse {query : Text} {spec : Specification} (parsed : parse query = .ok spec) :
    (0 ≤ spec.amount ∧ 1 ≤ spec.sides) ∧
    spec.totals = {total | spec.amount + spec.modifier ≤ total ∧
      total ≤ spec.amount * spec.sides + spec.modifier} ∧
    ∀ {σ : Type} (draw : Draw σ) (state : σ),
      let roll := (spec.roll draw state).1
      roll.minimum = spec.amount + spec.modifier ∧
        roll.maximum = spec.amount * spec.sides + spec.modifier := by
  have inRange := inRange_of_parse parsed
  refine ⟨⟨inRange.amountNonneg, inRange.sidesPositive⟩,
    Set.ext fun total => ⟨?within, ?reached⟩, fun draw state => ⟨rfl, rfl⟩⟩
  case within =>
    rintro ⟨σ, draw, state, faces, rfl⟩
    have shows := spec.roll_shows faces state
    exact ⟨shows.minimum_le_total, shows.total_le_maximum inRange⟩
  case reached =>
    -- The source has nothing to choose: it gives out faces that make up the total.
    rintro ⟨least, most⟩
    obtain ⟨outcomes, canShow, sum⟩ := inRange.exists_canShow least most
    refine ⟨_, Draw.listed, outcomes, Draw.listed_inBounds.givesFaces inRange.sidesPositive, ?_⟩
    rw [canShow.roll_listed]
    exact sum

/-- Three coins with a negative modifier, from one below zero to two above it. -/
theorem totals_of_parse_three_coins :
    parse "3d2-4" = .ok ⟨"3d2-4", 3, 2, -4⟩ ∧
    Specification.totals ⟨"3d2-4", 3, 2, -4⟩ = {total | -1 ≤ total ∧ total ≤ 2} := by
  have parsed : parse "3d2-4" = .ok ⟨"3d2-4", 3, 2, -4⟩ := by decide +kernel
  exact ⟨parsed, (totals_of_parse parsed).2.1⟩

end ChatDice.Dice
