import ChatDice.Proofs.Totals
import Mathlib.Algebra.BigOperators.Ring.Finset
import Mathlib.Tactic.FieldSimp
import Mathlib.Tactic.Linarith

/-!
The mean total of fair dice. With every die turned over, the total lies as far below the maximum as
it lay above the minimum; so totals are as frequent as their mirror images, and the midpoint is the
mean over all lists of faces.
-/

namespace ChatDice.Dice

/-- All lists of a number of faces. -/
def faceLists (sides : Int) : Nat → Finset (List Int)
  | 0 => {[]}
  | count + 1 => (Finset.range sides.toNat ×ˢ faceLists sides count).image fun (below, rest) =>
    (below + 1 : Int) :: rest

theorem mem_faceLists {sides : Int} {count : Nat} {faces : List Int} :
    faces ∈ faceLists sides count ↔
      faces.length = count ∧ ∀ face ∈ faces, 1 ≤ face ∧ face ≤ sides := by
  induction count generalizing faces with
  | zero =>
    rw [faceLists, Finset.mem_singleton, List.length_eq_zero_iff]
    exact ⟨fun empty => ⟨empty, by simp [empty]⟩, And.left⟩
  | succ count ih =>
    simp only [faceLists, Finset.mem_image, Finset.mem_product, Finset.mem_range, ih]
    constructor
    · rintro ⟨⟨below, rest⟩, ⟨within, length, others⟩, rfl⟩
      dsimp only at within
      exact ⟨congrArg (· + 1) length, List.forall_mem_cons.mpr ⟨by omega, others⟩⟩
    · rintro ⟨length, within⟩
      obtain ⟨face, rest, rfl⟩ := List.exists_cons_of_length_eq_add_one length
      obtain ⟨first, others⟩ := List.forall_mem_cons.mp within
      have again : ((face - 1).toNat : Int) + 1 = face := by omega
      exact ⟨((face - 1).toNat, rest), ⟨by dsimp only; omega, Nat.succ.inj length, others⟩,
        by rw [again]⟩

theorem card_faceLists (sides : Int) (count : Nat) :
    (faceLists sides count).card = sides.toNat ^ count := by
  induction count with
  | zero => rfl
  | succ count ih =>
    have injective : Function.Injective fun part : Nat × List Int => (part.1 + 1 : Int) :: part.2 := by
      rintro ⟨below, rest⟩ ⟨other, others⟩ same
      obtain ⟨first, rfl⟩ := List.cons.inj same
      dsimp only at first
      obtain rfl : below = other := by omega
      rfl
    rw [faceLists, Finset.card_image_of_injective _ injective, Finset.card_product, ih,
      Finset.card_range, Nat.pow_succ, Nat.mul_comm]

/-- The dice turned over: opposite faces make up one more than the highest face. -/
def opposite (sides : Int) (faces : List Int) : List Int := faces.map fun face => sides + 1 - face

theorem opposite_opposite (sides : Int) (faces : List Int) :
    opposite sides (opposite sides faces) = faces := by
  simp [opposite]

theorem sum_opposite (sides : Int) (faces : List Int) :
    (opposite sides faces).sum = faces.length * (sides + 1) - faces.sum := by
  induction faces with
  | nil => simp [opposite]
  | cons face rest ih =>
    rw [opposite] at ih
    rw [opposite, List.map_cons, List.sum_cons, ih, List.length_cons, List.sum_cons, Int.natCast_succ,
      Int.add_mul]
    omega

theorem opposite_mem_faceLists {sides : Int} {count : Nat} {faces : List Int}
    (member : faces ∈ faceLists sides count) : opposite sides faces ∈ faceLists sides count := by
  obtain ⟨length, within⟩ := mem_faceLists.mp member
  refine mem_faceLists.mpr ⟨by rw [opposite, List.length_map, length], fun face shown => ?_⟩
  obtain ⟨other, found, rfl⟩ := List.mem_map.mp shown
  have between := within other found
  omega

variable {spec : Specification}

/-- The dice of a specification turned over show the mirror image of their total. -/
theorem total_opposite (amountNonneg : 0 ≤ spec.amount) {faces : List Int}
    (member : faces ∈ faceLists spec.sides spec.amount.toNat) :
    (Roll.ofOutcomes spec (opposite spec.sides faces)).total =
      spec.minimum + spec.maximum - (Roll.ofOutcomes spec faces).total := by
  obtain ⟨length, -⟩ := mem_faceLists.mp member
  simp only [Roll.ofOutcomes, sum_opposite, length, Int.toNat_of_nonneg amountNonneg,
    Specification.minimum, Specification.maximum, Int.mul_add]
  omega

/-- Among all lists of faces there are as many with a total as with its mirror image. -/
theorem card_total_eq (amountNonneg : 0 ≤ spec.amount) (total : Int) :
    let lists := faceLists spec.sides spec.amount.toNat
    (lists.filter fun faces => (Roll.ofOutcomes spec faces).total = total).card =
      (lists.filter fun faces =>
        (Roll.ofOutcomes spec faces).total = spec.minimum + spec.maximum - total).card := by
  intro lists
  apply Finset.card_nbij' (opposite spec.sides) (opposite spec.sides)
  case left_inv | right_inv =>
    intro faces _
    exact opposite_opposite spec.sides faces
  all_goals
    intro faces counted
    obtain ⟨member, shown⟩ := Finset.mem_filter.mp counted
    have turned := total_opposite amountNonneg member
    exact Finset.mem_filter.mpr ⟨opposite_mem_faceLists member, by omega⟩

/-- A total and its mirror image make up minimum and maximum, so that all lists together make up
half of these for each list. -/
theorem two_mul_sum_total (amountNonneg : 0 ≤ spec.amount) :
    let lists := faceLists spec.sides spec.amount.toNat
    2 * ∑ faces ∈ lists, (Roll.ofOutcomes spec faces).total =
      lists.card * (spec.minimum + spec.maximum) := by
  intro lists
  -- Turning the dice over only puts the lists in another order.
  have turned : ∑ faces ∈ lists, (Roll.ofOutcomes spec faces).total =
      ∑ faces ∈ lists, (spec.minimum + spec.maximum - (Roll.ofOutcomes spec faces).total) := by
    refine Finset.sum_nbij' (opposite spec.sides) (opposite spec.sides)
      (fun faces member => opposite_mem_faceLists member)
      (fun faces member => opposite_mem_faceLists member)
      (fun faces _ => opposite_opposite spec.sides faces)
      (fun faces _ => opposite_opposite spec.sides faces) fun faces member => ?_
    have image := total_opposite amountNonneg member
    omega
  rw [Finset.sum_sub_distrib, Finset.sum_const, nsmul_eq_mul] at turned
  linarith

/-- What dice show when a list of their faces is given out to them. -/
theorem roll_of_mem_faceLists {faces : List Int}
    (member : faces ∈ faceLists spec.sides spec.amount.toNat) :
    (spec.roll Draw.listed faces).1 = Roll.ofOutcomes spec faces := by
  obtain ⟨length, within⟩ := mem_faceLists.mp member
  have canShow : spec.CanShow faces := ⟨length, within⟩
  rw [canShow.roll_listed]

/-- Over all lists of faces that fair dice show alike, totals are as frequent as their mirror images
between minimum and maximum, and the midpoint that the average rounds is their mean. -/
theorem mean_total_eq_midpoint (amountNonneg : 0 ≤ spec.amount) (sidesPositive : 1 ≤ spec.sides) :
    let lists := faceLists spec.sides spec.amount.toNat
    let roll (faces : List Int) : Roll := (spec.roll Draw.listed faces).1
    let sum := spec.minimum + spec.maximum
    (lists.card : Int) = spec.sides ^ spec.amount.toNat ∧
    (∀ faces, faces ∈ lists ↔
      faces.length = spec.amount.toNat ∧ ∀ face ∈ faces, 1 ≤ face ∧ face ≤ spec.sides) ∧
    (∀ faces ∈ lists, (roll faces).outcomes = faces ∧
      (roll faces).minimum = spec.minimum ∧ (roll faces).maximum = spec.maximum ∧
      (roll faces).average? = Binary64.half? sum) ∧
    (∀ total, (lists.filter fun faces => (roll faces).total = total).card =
      (lists.filter fun faces => (roll faces).total = sum - total).card) ∧
    2 * ∑ faces ∈ lists, (roll faces).total = spec.sides ^ spec.amount.toNat * sum ∧
    (∑ faces ∈ lists, ((roll faces).total : ℚ)) / lists.card = (sum : ℚ) / 2 := by
  intro lists roll sum
  have shown : ∀ faces ∈ lists, roll faces = Roll.ofOutcomes spec faces := fun _ member =>
    roll_of_mem_faceLists member
  have sides := Int.toNat_of_nonneg (Int.le_trans (by decide) sidesPositive : 0 ≤ spec.sides)
  have card : (lists.card : Int) = spec.sides ^ spec.amount.toNat := by
    rw [card_faceLists, Int.natCast_pow, sides]
  have double : 2 * ∑ faces ∈ lists, (roll faces).total = lists.card * sum := by
    rw [Finset.sum_congr rfl fun faces member => congrArg Roll.total (shown faces member)]
    exact two_mul_sum_total amountNonneg
  refine ⟨card, fun faces => mem_faceLists, fun faces member => ?rolled, fun total => ?mirrored,
    card ▸ double, ?mean⟩
  case rolled =>
    rw [shown faces member]
    exact ⟨rfl, rfl, rfl, rfl⟩
  case mirrored =>
    have counted (n : Int) : (lists.filter fun faces => (roll faces).total = n) =
        lists.filter fun faces => (Roll.ofOutcomes spec faces).total = n :=
      Finset.filter_congr fun faces member => by rw [shown faces member]
    rw [counted, counted]
    exact card_total_eq amountNonneg total
  case mean =>
    -- Dice with a face show something, so there is a list to divide by.
    have some : (lists.card : ℚ) ≠ 0 := by
      rw [card_faceLists]
      have positive := Nat.pow_pos (n := spec.amount.toNat) (show 0 < spec.sides.toNat by omega)
      exact Nat.cast_ne_zero.mpr positive.ne'
    have rational : 2 * ∑ faces ∈ lists, ((roll faces).total : ℚ) = lists.card * (sum : ℚ) := by
      exact_mod_cast double
    field_simp
    linarith

/-- Two dice of six: four is as frequent as twelve, and the mean is eight. -/
theorem mean_total_eq_midpoint_two_dice :
    let lists := faceLists 6 2
    let roll (faces : List Int) : Roll := (Specification.roll ⟨"2d6+1", 2, 6, 1⟩ Draw.listed faces).1
    (0 ≤ (2 : Int) ∧ 1 ≤ (6 : Int)) ∧
    (lists.filter fun faces => (roll faces).total = 4).card = 2 ∧
    (lists.filter fun faces => (roll faces).total = 12).card = 2 ∧
    2 * ∑ faces ∈ lists, (roll faces).total = 36 * 16 ∧
    (∑ faces ∈ lists, ((roll faces).total : ℚ)) / lists.card = 8 := by
  intro lists roll
  have dice : 0 ≤ (Specification.mk "2d6+1" 2 6 1).amount := by decide
  have faces : 1 ≤ (Specification.mk "2d6+1" 2 6 1).sides := by decide
  obtain ⟨-, -, -, mirrored, double, mean⟩ := mean_total_eq_midpoint dice faces
  have four : (lists.filter fun faces => (roll faces).total = 4).card = 2 := by decide +kernel
  refine ⟨⟨dice, faces⟩, four, (mirrored 4).symm.trans four, double, mean.trans ?_⟩
  norm_num [Specification.minimum, Specification.maximum]

end ChatDice.Dice
