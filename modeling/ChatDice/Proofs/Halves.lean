import ChatDice.Proofs.Rounding

/-!
Halves of whole numbers as floating-point numbers. Rounding gives the nearest number that has at
most 53 significant bits, of two equally near ones that with the even significand. So the half of a
number of at most 53 bits is exact, and every larger half is a whole number.
-/

namespace ChatDice.Binary64

/-- A number of at most 53 significant bits. -/
def Representable (n : Nat) : Prop :=
  ∃ significand exponent : Nat, significand < 2 ^ 53 ∧ n = significand * 2 ^ exponent

def distance (a b : Nat) : Nat := ((a : Int) - b).natAbs

theorem distance_mul_right (a b c : Nat) : distance (a * c) (b * c) = distance a b * c := by
  rw [distance, distance, Int.natCast_mul, Int.natCast_mul, ← Int.sub_mul, Int.natAbs_mul,
    Int.natAbs_natCast]

/-- A number of a ratio's denominators is nearest to its numerator, and the significand is even if
there is another one as near. -/
structure Rounded (numerator denominator significand exponent : Nat) : Prop where
  small : significand < 2 ^ 53
  normal : exponent = 0 ∨ 2 ^ 52 ≤ significand
  nearest : ∀ n, Representable n →
    distance (significand * 2 ^ exponent * denominator) numerator ≤ distance (n * denominator) numerator
  even : ∀ n, Representable n → n ≠ significand * 2 ^ exponent →
    distance (n * denominator) numerator =
      distance (significand * 2 ^ exponent * denominator) numerator → significand % 2 = 0

namespace Nearest

variable {numerator denominator rounded other : Nat}

theorem distance_le (nearest : Nearest numerator denominator rounded) (other : Nat) :
    distance (rounded * denominator) numerator ≤ distance (other * denominator) numerator := by
  obtain ⟨notAbove, notBelow, -, -⟩ := nearest
  unfold distance
  rcases Nat.lt_trichotomy other rounded with below | same | above
  · have scaled : (other + 1) * denominator ≤ rounded * denominator :=
      Nat.mul_le_mul_right denominator below
    rw [Nat.succ_mul] at scaled
    omega
  · subst other
    exact Nat.le_refl _
  · have scaled : (rounded + 1) * denominator ≤ other * denominator :=
      Nat.mul_le_mul_right denominator above
    rw [Nat.succ_mul] at scaled
    omega

theorem even_of_distance_eq (nearest : Nearest numerator denominator rounded)
    (different : other ≠ rounded)
    (tie : distance (other * denominator) numerator = distance (rounded * denominator) numerator) :
    rounded % 2 = 0 := by
  obtain ⟨notAbove, notBelow, evenAbove, evenBelow⟩ := nearest
  unfold distance at tie
  rcases Nat.lt_or_gt_of_ne different with below | above
  · have scaled : (other + 1) * denominator ≤ rounded * denominator :=
      Nat.mul_le_mul_right denominator below
    rw [Nat.succ_mul] at scaled
    omega
  · have scaled : (rounded + 1) * denominator ≤ other * denominator :=
      Nat.mul_le_mul_right denominator above
    rw [Nat.succ_mul] at scaled
    omega

end Nearest

variable {numerator denominator : Nat}

/-- A ratio with excess bits has all bits of a significand. -/
private theorem normal_of_excess {bits : Nat} (excess : excessBits (numerator / denominator) = bits + 1) :
    2 ^ 52 * (denominator * 2 ^ (bits + 1)) ≤ numerator := by
  have large : 2 ^ (53 + bits) ≤ numerator / denominator := by
    apply Nat.le_of_not_lt
    intro short
    have within := excessBits_le_iff.mpr short
    omega
  calc
    2 ^ 52 * (denominator * 2 ^ (bits + 1)) = 2 ^ (53 + bits) * denominator := by
      rw [Nat.mul_left_comm, ← Nat.pow_add, Nat.mul_comm]
      congr 2
      omega
    _ ≤ numerator / denominator * denominator := Nat.mul_le_mul_right denominator large
    _ ≤ numerator := Nat.div_mul_le_self numerator denominator

/-- A number of at most 53 bits that is no multiple of the step of the rounding lies below the
smallest significand of full length. -/
private theorem multiple_or_below {n : Nat} (representable : Representable n) (bits : Nat) :
    (∃ m, n = m * 2 ^ bits) ∨ ∃ less, bits = less + 1 ∧ n < 2 ^ 52 * 2 ^ bits := by
  obtain ⟨significand, exponent, small, rfl⟩ := representable
  by_cases within : bits ≤ exponent
  · refine .inl ⟨significand * 2 ^ (exponent - bits), ?_⟩
    rw [Nat.mul_assoc, ← Nat.pow_add, Nat.sub_add_cancel within]
  · refine .inr ⟨bits - 1, by omega, ?_⟩
    calc
      significand * 2 ^ exponent < 2 ^ 53 * 2 ^ exponent :=
        Nat.mul_lt_mul_of_pos_right small (Nat.two_pow_pos _)
      _ = 2 ^ 52 * 2 ^ (exponent + 1) := by rw [Nat.pow_succ 2 52, Nat.mul_assoc, ← Nat.pow_succ']
      _ ≤ 2 ^ 52 * 2 ^ bits :=
        Nat.mul_le_mul_left _ (Nat.pow_le_pow_right (by decide) (by omega))

private theorem below_of_excess {n bits : Nat} (excess : excessBits (numerator / denominator) = bits + 1)
    (positive : 0 < denominator) (below : n < 2 ^ 52 * 2 ^ (bits + 1)) :
    n * denominator < 2 ^ 52 * (denominator * 2 ^ (bits + 1)) ∧
      2 ^ 52 * (denominator * 2 ^ (bits + 1)) ≤ numerator := by
  refine ⟨?_, normal_of_excess excess⟩
  rw [Nat.mul_comm denominator, ← Nat.mul_assoc]
  exact Nat.mul_lt_mul_of_pos_right below positive

/-- Rounding gives a nearest number of at most 53 bits, before it is normalized. -/
private theorem nearest_of_excess (positive : 0 < denominator) {bits : Nat}
    (excess : excessBits (numerator / denominator) = bits) {n : Nat} (representable : Representable n) :
    let significand := roundHalfEven numerator (denominator * 2 ^ bits)
    distance (significand * 2 ^ bits * denominator) numerator ≤ distance (n * denominator) numerator ∧
    (n ≠ significand * 2 ^ bits →
      distance (n * denominator) numerator =
        distance (significand * 2 ^ bits * denominator) numerator → significand % 2 = 0) := by
  intro significand
  have step : 0 < denominator * 2 ^ bits := Nat.mul_pos positive (Nat.two_pow_pos _)
  have nearest : Nearest numerator (denominator * 2 ^ bits) significand := roundHalfEven_nearest step
  have scaled (m : Nat) : m * 2 ^ bits * denominator = m * (denominator * 2 ^ bits) := by
    rw [Nat.mul_assoc, Nat.mul_comm denominator]
  rcases multiple_or_below representable bits with ⟨m, rfl⟩ | ⟨less, rfl, below⟩
  · rw [scaled, scaled]
    refine ⟨nearest.distance_le m, fun different => nearest.even_of_distance_eq fun same => ?_⟩
    exact different (congrArg (· * 2 ^ bits) same)
  · -- The smallest significand of full length lies between, and is nearer.
    obtain ⟨far, near⟩ := below_of_excess excess positive below
    have closer := nearest.distance_le (2 ^ 52)
    rw [scaled]
    unfold distance at closer ⊢
    constructor
    · omega
    · intro _ tie
      omega

theorem roundUnits_rounded (numerator : Nat) (positive : 0 < denominator) :
    Rounded numerator denominator (roundUnits numerator denominator).1
      (roundUnits numerator denominator).2 := by
  have bounded := significand_le numerator positive
  unfold roundUnits
  simp only
  generalize excess : excessBits (numerator / denominator) = bits at bounded ⊢
  have nearest {n : Nat} (representable : Representable n) :=
    nearest_of_excess positive excess representable
  split
  · -- Past the last significand there is a power of two, with an even significand of full length.
    rename_i full
    have carried : 2 ^ 53 * 2 ^ bits = 2 ^ 52 * 2 ^ (bits + 1) := by
      rw [Nat.pow_succ 2 52, Nat.mul_assoc, ← Nat.pow_succ']
    have small : 2 ^ 52 < 2 ^ 53 := by decide
    have isEven : 2 ^ 52 % 2 = 0 := by decide
    simp only [full, carried] at nearest
    exact ⟨small, .inr (Nat.le_refl _), fun n representable => (nearest representable).1,
      fun _ _ _ _ => isEven⟩
  · rename_i partly
    refine ⟨Nat.lt_of_le_of_ne bounded partly, ?normal, fun n representable => (nearest representable).1,
      fun n representable => (nearest representable).2⟩
    cases bits with
    | zero => exact .inl rfl
    | succ less =>
      have step : 0 < denominator * 2 ^ (less + 1) := Nat.mul_pos positive (Nat.two_pow_pos _)
      refine .inr (((roundHalfEven_nearest step).even_le_iff step (by decide)).mpr ?_)
      have normal := normal_of_excess excess
      omega

theorem Representable.mul_two_pow {n : Nat} (representable : Representable n) (scale : Nat) :
    Representable (n * 2 ^ scale) := by
  obtain ⟨significand, exponent, small, rfl⟩ := representable
  exact ⟨significand, exponent + scale, small, by rw [Nat.pow_add, Nat.mul_assoc]⟩

theorem representable_of_le {n : Nat} (small : n ≤ 2 ^ 53) : Representable n := by
  rcases Nat.lt_or_eq_of_le small with below | same
  · exact ⟨n, 0, below, (Nat.mul_one n).symm⟩
  · exact ⟨2 ^ 52, 1, by decide, same⟩

private theorem mul_two_pow_add (n scale power : Nat) :
    n * 2 ^ (scale + power) = n * 2 ^ power * 2 ^ scale := by
  rw [Nat.add_comm, Nat.pow_add, Nat.mul_assoc]

namespace Rounded

variable {significand exponent n : Nat}

theorem eq_of_representable (rounded : Rounded numerator denominator significand exponent)
    (positive : 0 < denominator) (representable : Representable n)
    (exact : numerator = n * denominator) : significand * 2 ^ exponent = n := by
  have nearest := rounded.nearest n representable
  rw [exact, distance_mul_right, distance_mul_right] at nearest
  have noFurther := Nat.le_of_mul_le_mul_right nearest positive
  unfold distance at noFurther
  omega

/-- A result that is a multiple of larger units is the one in those units, too. -/
theorem of_scaled {scale power : Nat}
    (rounded : Rounded (numerator * 2 ^ scale) denominator significand (scale + power)) :
    Rounded numerator denominator significand power := by
  have shifted (m : Nat) : distance (m * 2 ^ scale * denominator) (numerator * 2 ^ scale) =
      distance (m * denominator) numerator * 2 ^ scale := by
    rw [Nat.mul_right_comm, distance_mul_right]
  have units := mul_two_pow_add significand scale power
  have positive : 0 < 2 ^ scale := Nat.two_pow_pos scale
  refine ⟨rounded.small, ?normal, ?nearest, ?even⟩
  case normal =>
    rcases rounded.normal with none | normal
    · exact .inl (Nat.eq_zero_of_add_eq_zero_left none)
    · exact .inr normal
  case nearest =>
    intro n representable
    have nearest := rounded.nearest _ (representable.mul_two_pow scale)
    rw [units, shifted, shifted] at nearest
    exact Nat.le_of_mul_le_mul_right nearest positive
  case even =>
    intro n representable different tie
    apply rounded.even _ (representable.mul_two_pow scale)
    · rw [units]
      exact fun same => different (Nat.eq_of_mul_eq_mul_right positive same)
    · rw [units, shifted, shifted, tie]

end Rounded

private theorem units_of_small {n : Nat} (small : n ≤ 2 ^ 53) {units scale : Nat}
    (unit : units = scale + 1) :
    (roundUnits (n * 2 ^ units) 2).1 * 2 ^ (roundUnits (n * 2 ^ units) 2).2 = n * 2 ^ scale := by
  have rounded := roundUnits_rounded (n * 2 ^ units) Nat.two_pos
  apply rounded.eq_of_representable Nat.two_pos ((representable_of_le small).mul_two_pow scale)
  rw [unit, Nat.pow_succ, Nat.mul_assoc]

private theorem exponent_of_large {n : Nat} (large : 2 ^ 53 ≤ n) {units scale : Nat}
    (unit : units = scale + 1) : units ≤ (roundUnits (n * 2 ^ units) 2).2 := by
  have long : ¬ excessBits (n * 2 ^ scale) ≤ scale := by
    rw [excessBits_le_iff, scaled_lt_iff]
    exact Nat.not_lt.mpr large
  rw [unit, roundUnits_exponent, half_scaled]
  omega

/-- The number of units in one half. -/
def unitsPerHalf : Nat := 2 ^ 1073

private theorem unit : 1074 = 1073 + 1 := rfl

theorem unitsPerOne_eq : unitsPerOne = 2 * unitsPerHalf := by decide +kernel

theorem unitsPerHalf_pos : 0 < unitsPerHalf := by decide +kernel

theorem unitsPerOne_pos : 0 < unitsPerOne := by decide +kernel

/-- Half of a number of at most 53 bits is exact. -/
theorem units_half_of_small {n : Nat} (small : n ≤ 2 ^ 53) :
    (roundUnits (n * unitsPerOne) 2).1 * 2 ^ (roundUnits (n * unitsPerOne) 2).2 = n * unitsPerHalf := by
  rw [unitsPerOne, unitsPerHalf]
  exact units_of_small small unit

/-- Half of any larger number is whole. -/
theorem exists_power_of_large {n : Nat} (large : 2 ^ 53 ≤ n) :
    ∃ power, (roundUnits (n * unitsPerOne) 2).2 = 1074 + power :=
  Nat.exists_eq_add_of_le (exponent_of_large large unit)

theorem units_of_power (significand power : Nat) :
    significand * 2 ^ (1074 + power) = significand * 2 ^ power * unitsPerOne :=
  mul_two_pow_add significand 1074 power

theorem toInt?_of_whole {negative : Bool} {significand exponent whole : Nat}
    (units : significand * 2 ^ exponent = whole * unitsPerOne) :
    (finite negative significand exponent).toInt? = some (if negative then -(whole : Int) else whole) := by
  unfold toInt?
  simp only [units, Nat.mul_mod_left, Nat.mul_div_cancel _ unitsPerOne_pos, if_true]

theorem rest_of_odd {n : Nat} (odd : n % 2 = 1) : n * unitsPerHalf % unitsPerOne = unitsPerHalf := by
  rw [unitsPerOne_eq, Nat.mul_mod_mul_right, odd, Nat.one_mul]

theorem toInt?_of_odd {negative : Bool} {significand exponent n : Nat}
    (units : significand * 2 ^ exponent = n * unitsPerHalf) (odd : n % 2 = 1) :
    (finite negative significand exponent).toInt? = none := by
  unfold toInt?
  simp only [units, rest_of_odd odd]
  rw [if_neg (Nat.ne_of_gt unitsPerHalf_pos)]

theorem half?_of_lt {n : Int} (finite : n.natAbs < halfLimit) :
    half? n = some (.finite (n < 0) (roundUnits (n.natAbs * unitsPerOne) 2).1
      (roundUnits (n.natAbs * unitsPerOne) 2).2) := by
  have found : half? n ≠ none := mt half?_eq_none_iff.mp (Nat.not_le.mpr finite)
  unfold half? ofRatio? at found ⊢
  simp only at found ⊢
  split at found
  · rename_i within
    rw [if_pos within]
  · exact absurd rfl found

/-- A whole number is nearest to half of a sum among the numbers of at most 53 bits, and its
significand is even if there is another one as near. -/
structure NearestHalf (sum whole : Int) (significand : Nat) : Prop where
  normal : 2 ^ 52 ≤ significand ∧ significand < 2 ^ 53
  value : ∃ exponent : Nat, whole.natAbs = significand * 2 ^ exponent
  nearest : ∀ other : Int, Representable other.natAbs →
    (2 * whole - sum).natAbs ≤ (2 * other - sum).natAbs
  even : ∀ other : Int, Representable other.natAbs → other ≠ whole →
    (2 * other - sum).natAbs = (2 * whole - sum).natAbs → significand % 2 = 0

theorem halfLimit_gt : 2 ^ 53 < halfLimit := by decide +kernel

theorem half?_of_small {n : Int} (small : n.natAbs ≤ 2 ^ 53) :
    ∃ significand exponent, half? n = some (.finite (n < 0) significand exponent) ∧
      significand * 2 ^ exponent = n.natAbs * unitsPerHalf :=
  ⟨_, _, half?_of_lt (Nat.lt_of_le_of_lt small halfLimit_gt), units_half_of_small small⟩

theorem half?_of_even {n : Int} (small : n.natAbs ≤ 2 ^ 53) (even : n % 2 = 0) :
    ∃ x, half? n = some x ∧ x.toInt? = some (n / 2) := by
  obtain ⟨significand, exponent, found, units⟩ := half?_of_small small
  refine ⟨_, found, ?_⟩
  have whole : significand * 2 ^ exponent = n.natAbs / 2 * unitsPerOne := by
    have twice : n.natAbs = n.natAbs / 2 * 2 := by omega
    rw [units, unitsPerOne_eq, ← Nat.mul_assoc, ← twice]
  rw [toInt?_of_whole whole, Option.some.injEq]
  split
  · rename_i negative
    have below := of_decide_eq_true negative
    omega
  · rename_i notNegative
    have above := mt decide_eq_true notNegative
    omega

private theorem distance_le_natAbs_sub (n other : Int) :
    distance (other.natAbs * 2) n.natAbs ≤ (2 * other - n).natAbs := by
  unfold distance
  omega

/-- Rounding a magnitude rounds the number on its side of zero. -/
theorem nearestHalf_of_rounded {n : Int} {significand power : Nat}
    (rounded : Rounded n.natAbs 2 significand power) (nonzero : n ≠ 0) (normal : 2 ^ 52 ≤ significand) :
    NearestHalf n (if n < 0 then -(significand * 2 ^ power : Nat) else (significand * 2 ^ power : Nat))
      significand := by
  have positive : 0 < significand * 2 ^ power :=
    Nat.mul_pos (Nat.lt_of_lt_of_le (by decide) normal) (Nat.two_pow_pos _)
  have nearest := rounded.nearest
  have even := rounded.even
  have magnitude : (if n < 0 then -(significand * 2 ^ power : Nat)
      else (significand * 2 ^ power : Nat) : Int).natAbs = significand * 2 ^ power := by
    split
    · rw [Int.natAbs_neg, Int.natAbs_natCast]
    · rw [Int.natAbs_natCast]
  have atSide : (2 * (if n < 0 then -(significand * 2 ^ power : Nat)
      else (significand * 2 ^ power : Nat) : Int) - n).natAbs =
      distance (significand * 2 ^ power * 2) n.natAbs := by
    unfold distance
    split <;> omega
  refine ⟨⟨normal, rounded.small⟩, ⟨power, magnitude⟩, ?nearest, ?even⟩
  case nearest =>
    intro other representable
    rw [atSide]
    exact Nat.le_trans (nearest _ representable) (distance_le_natAbs_sub n other)
  case even =>
    intro other representable different tie
    rw [atSide] at tie
    have closer := nearest _ representable
    have further := distance_le_natAbs_sub n other
    apply even _ representable
    · -- The same magnitude on the other side of zero is further away.
      intro same
      unfold distance at tie
      split at different <;> omega
    · exact Nat.le_antisymm (tie ▸ further) closer

theorem half?_of_large {n : Int} (large : 2 ^ 53 < n.natAbs) (finite : n.natAbs < halfLimit) :
    ∃ x whole significand, half? n = some x ∧ x.toInt? = some whole ∧
      NearestHalf n whole significand := by
  have rounded := roundUnits_rounded (n.natAbs * unitsPerOne) Nat.two_pos
  obtain ⟨power, same⟩ := exists_power_of_large (Nat.le_of_lt large)
  have found := half?_of_lt finite
  rw [same] at found rounded
  generalize (roundUnits (n.natAbs * unitsPerOne) 2).1 = significand at found rounded
  have normal : 2 ^ 52 ≤ significand := rounded.normal.resolve_left (by omega)
  have units := units_of_power significand power
  have nonzero : n ≠ 0 := by omega
  refine ⟨_, _, significand, found, toInt?_of_whole units, ?_⟩
  simp only [decide_eq_true_eq]
  exact nearestHalf_of_rounded rounded.of_scaled nonzero normal

end ChatDice.Binary64
