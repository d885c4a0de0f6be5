import ChatDice.Binary64

/-! Rounding of ratios to floating-point numbers, and where it leaves the finite range. -/

namespace ChatDice.Binary64

/-- The rounded ratio is a nearest whole number, and the even one where two are equally near. -/
structure Nearest (numerator denominator rounded : Nat) : Prop where
  notAbove : 2 * (rounded * denominator) ≤ 2 * numerator + denominator
  notBelow : 2 * numerator ≤ 2 * (rounded * denominator) + denominator
  evenAbove : 2 * (rounded * denominator) = 2 * numerator + denominator → rounded % 2 = 0
  evenBelow : 2 * numerator = 2 * (rounded * denominator) + denominator → rounded % 2 = 0

theorem roundHalfEven_nearest {numerator denominator : Nat} (positive : 0 < denominator) :
    Nearest numerator denominator (roundHalfEven numerator denominator) := by
  have division := Nat.div_add_mod numerator denominator
  have remainder := Nat.mod_lt numerator positive
  rw [Nat.mul_comm] at division
  unfold roundHalfEven
  simp only
  generalize numerator / denominator = quotient at *
  generalize numerator % denominator = rest at *
  have above : (quotient + 1) * denominator = quotient * denominator + denominator :=
    Nat.succ_mul ..
  split
  · exact ⟨by omega, by omega, by omega, by omega⟩
  · split
    · exact ⟨by omega, by omega, by omega, by omega⟩
    · -- A tie: the quotient is kept if it is even, and raised if it is odd.
      rcases Nat.mod_two_eq_zero_or_one quotient with even | odd
      · rw [even, Nat.add_zero]
        exact ⟨by omega, by omega, by omega, by omega⟩
      · rw [odd]
        exact ⟨by omega, by omega, by omega, by omega⟩

/-- An even number is reached from half a step below it on. -/
theorem Nearest.even_le_iff {numerator denominator rounded even : Nat} (positive : 0 < denominator)
    (nearest : Nearest numerator denominator rounded) (isEven : even % 2 = 0) :
    even ≤ rounded ↔ 2 * (even * denominator) ≤ 2 * numerator + denominator := by
  constructor
  · intro reached
    have scaled := Nat.mul_le_mul_right denominator reached
    have limit := nearest.notAbove
    omega
  · intro near
    apply Nat.le_of_not_lt
    intro missed
    have scaled : (rounded + 1) * denominator ≤ even * denominator :=
      Nat.mul_le_mul_right denominator missed
    rw [Nat.succ_mul] at scaled
    have limit := nearest.notBelow
    have roundedEven := nearest.evenBelow (by omega)
    have same : (rounded + 1) * denominator = even * denominator := by
      rw [Nat.succ_mul]
      omega
    have next := Nat.eq_of_mul_eq_mul_right positive same
    omega

theorem Nearest.le_of_lt {numerator denominator rounded bound : Nat}
    (nearest : Nearest numerator denominator rounded) (below : numerator < bound * denominator) :
    rounded ≤ bound := by
  apply Nat.le_of_not_lt
  intro passed
  have scaled : (bound + 1) * denominator ≤ rounded * denominator :=
    Nat.mul_le_mul_right denominator passed
  rw [Nat.succ_mul] at scaled
  have limit := nearest.notAbove
  omega

theorem excessBits_le_iff {units bits : Nat} : excessBits units ≤ bits ↔ units < 2 ^ (53 + bits) := by
  unfold excessBits
  by_cases none : units = 0
  · subst units
    exact iff_of_true (Nat.zero_le bits) (Nat.two_pow_pos _)
  · rw [← Nat.log2_lt none]
    omega

/-- Before it is normalized, a significand has 53 bits or is the first number beyond them. -/
theorem significand_le (numerator : Nat) {denominator : Nat} (positive : 0 < denominator) :
    roundHalfEven numerator (denominator * 2 ^ excessBits (numerator / denominator)) ≤ 2 ^ 53 := by
  have scale : 0 < denominator * 2 ^ excessBits (numerator / denominator) :=
    Nat.mul_pos positive (Nat.two_pow_pos _)
  apply (roundHalfEven_nearest scale).le_of_lt
  have units := excessBits_le_iff.mp (Nat.le_refl (excessBits (numerator / denominator)))
  calc
    numerator < (numerator / denominator + 1) * denominator := by
      rw [Nat.succ_mul, Nat.mul_comm]
      exact Nat.lt_mul_div_succ numerator positive
    _ ≤ 2 ^ (53 + excessBits (numerator / denominator)) * denominator :=
      Nat.mul_le_mul_right denominator units
    _ = _ := by rw [Nat.pow_add, Nat.mul_assoc, Nat.mul_comm denominator]

theorem roundUnits_significand_le (numerator : Nat) {denominator : Nat} (positive : 0 < denominator) :
    (roundUnits numerator denominator).1 ≤ 2 ^ 53 := by
  unfold roundUnits
  simp only
  split
  · exact Nat.pow_le_pow_right (by decide) (by decide)
  · exact significand_le numerator positive

/-- The exponent grows by one where rounding passes the last significand. -/
theorem roundUnits_exponent (numerator denominator : Nat) :
    (roundUnits numerator denominator).2 =
      excessBits (numerator / denominator) +
        if roundHalfEven numerator (denominator * 2 ^ excessBits (numerator / denominator)) = 2 ^ 53
        then 1 else 0 := by
  unfold roundUnits
  simp only
  split <;> rfl

theorem ofRatio?_eq_none_iff {negative : Bool} {numerator denominator : Nat} :
    ofRatio? negative numerator denominator = none ↔
      largestExponent < (roundUnits (numerator * unitsPerOne) denominator).2 := by
  unfold ofRatio?
  generalize roundUnits (numerator * unitsPerOne) denominator = rounded
  simp

theorem scaled_lt_iff {n bits scale : Nat} : n * 2 ^ scale < 2 ^ (bits + scale) ↔ n < 2 ^ bits := by
  rw [Nat.pow_add]
  exact Nat.mul_lt_mul_right (Nat.two_pow_pos _)

theorem half_scaled (n scale : Nat) : n * 2 ^ (scale + 1) / 2 = n * 2 ^ scale := by
  rw [Nat.pow_succ, ← Nat.mul_assoc, Nat.mul_div_cancel _ (by decide)]

/-- The significand of a half grows beyond its bits from half a step before the power of two on. -/
private theorem passes_iff (n scale last : Nat) :
    2 ^ 53 ≤ roundHalfEven (n * 2 ^ (scale + 1)) (2 * 2 ^ (last + scale + 1)) ↔
      2 ^ (54 + last) ≤ n + 2 ^ last := by
  have step : 2 * 2 ^ (last + scale + 1) = 2 ^ last * 2 ^ (scale + 2) := by
    rw [← Nat.pow_succ', ← Nat.pow_add]
    rfl
  have power : 2 * (2 ^ 53 * (2 * 2 ^ (last + scale + 1))) = 2 ^ (54 + last) * 2 ^ (scale + 2) := by
    rw [step, ← Nat.mul_assoc, ← Nat.mul_assoc, ← Nat.pow_succ', ← Nat.pow_add]
  have ratio : 2 * (n * 2 ^ (scale + 1)) = n * 2 ^ (scale + 2) := by
    rw [Nat.mul_left_comm, ← Nat.pow_succ']
  have positive : 0 < 2 * 2 ^ (last + scale + 1) := Nat.mul_pos (by decide) (Nat.two_pow_pos _)
  rw [(roundHalfEven_nearest positive).even_le_iff positive (by decide), power, ratio, step,
    ← Nat.add_mul]
  exact Nat.mul_le_mul_right_iff (Nat.two_pow_pos _)

private theorem exponent_passes_iff (n scale last : Nat) {units largest threshold : Nat}
    (unit : units = scale + 1) (top : largest = last + scale + 1) (limit : threshold = 54 + last) :
    largest < (roundUnits (n * 2 ^ units) 2).2 ↔ 2 ^ threshold - 2 ^ last ≤ n := by
  subst units largest threshold
  rw [Nat.sub_le_iff_le_add]
  have bounded := significand_le (n * 2 ^ (scale + 1)) Nat.two_pos
  rw [roundUnits_exponent]
  rw [half_scaled] at bounded ⊢
  have below : excessBits (n * 2 ^ scale) ≤ last + scale ↔ n < 2 ^ (53 + last) := by
    rw [excessBits_le_iff, ← Nat.add_assoc, scaled_lt_iff]
  have within : excessBits (n * 2 ^ scale) ≤ last + scale + 1 ↔ n < 2 ^ (54 + last) := by
    rw [excessBits_le_iff, show 53 + (last + scale + 1) = 54 + last + scale by omega, scaled_lt_iff]
  have double : 2 ^ (54 + last) = 2 ^ (53 + last) + 2 ^ (53 + last) := by
    rw [show 54 + last = 53 + last + 1 by omega, Nat.pow_succ, Nat.mul_two]
  have small : 2 ^ last ≤ 2 ^ (53 + last) := Nat.pow_le_pow_right (by decide) (by omega)
  generalize excessBits (n * 2 ^ scale) = exponent at *
  by_cases early : n < 2 ^ (53 + last)
  · have unpassed := below.mpr early
    constructor
    · intro passed
      split at passed <;> omega
    · intro reached
      omega
  · by_cases late : n < 2 ^ (54 + last)
    · -- On the last exponent, the significand alone decides.
      have same : exponent = last + scale + 1 :=
        Nat.le_antisymm (within.mpr late) (Nat.lt_of_not_le fun unpassed => early (below.mp unpassed))
      subst exponent
      rw [← passes_iff n scale last]
      constructor
      · intro passed
        split at passed
        · rename_i full
          exact Nat.le_of_eq full.symm
        · omega
      · intro full
        rw [if_pos (Nat.le_antisymm bounded full)]
        exact Nat.lt_succ_self _
    · constructor
      · intro _
        exact Nat.le_trans (Nat.le_of_not_lt late) (Nat.le_add_right _ _)
      · intro _
        exact Nat.lt_of_lt_of_le (Nat.lt_of_not_le (mt within.mp late)) (Nat.le_add_right _ _)

/-- Twice the midpoint between the largest finite number and the power of two above it. -/
def halfLimit : Nat := 2 ^ 1025 - 2 ^ 971

theorem half?_eq_none_iff {n : Int} : half? n = none ↔ halfLimit ≤ n.natAbs := by
  have unit : 1074 = 1073 + 1 := rfl
  have top : largestExponent = 971 + 1073 + 1 := rfl
  have limit : 1025 = 54 + 971 := rfl
  rw [half?, ofRatio?_eq_none_iff, unitsPerOne, halfLimit,
    exponent_passes_iff n.natAbs 1073 971 unit top limit]

theorem natAbs_toInt?_le {negative : Bool} {significand exponent : Nat} {n : Int}
    (whole : (finite negative significand exponent).toInt? = some n) :
    n.natAbs ≤ significand * 2 ^ exponent := by
  unfold toInt? at whole
  simp only at whole
  have shrinks := Nat.div_le_self (significand * 2 ^ exponent) unitsPerOne
  generalize significand * 2 ^ exponent / unitsPerOne = magnitude at *
  split at whole
  · have same := Option.some.inj whole
    split at same <;> omega
  · cases whole

/-- The whole number that a rounded half is, if it is one, stays far below the limit of numerals. -/
theorem natAbs_le_of_half? {n whole : Int} {x : Binary64} (rounded : half? n = some x)
    (isWhole : x.toInt? = some whole) : whole.natAbs ≤ 2 ^ (53 + largestExponent) := by
  rw [half?, ofRatio?] at rounded
  have significand := roundUnits_significand_le (n.natAbs * unitsPerOne) Nat.two_pos
  generalize roundUnits (n.natAbs * unitsPerOne) 2 = result at *
  split at rounded
  · rename_i exponent
    cases rounded
    calc
      whole.natAbs ≤ result.1 * 2 ^ result.2 := natAbs_toInt?_le isWhole
      _ ≤ 2 ^ 53 * 2 ^ largestExponent :=
        Nat.mul_le_mul significand (Nat.pow_le_pow_right (by decide) exponent)
      _ = 2 ^ (53 + largestExponent) := by rw [Nat.pow_add]
  · cases rounded

end ChatDice.Binary64
