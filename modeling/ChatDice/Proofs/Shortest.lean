import ChatDice.Binary64.Decimal
import ChatDice.Proofs.Halves
import ChatDice.Proofs.Numeral

/-!
The text of a floating-point number that ends in a half. A decimal without a fraction reads back as a
whole number, so that the first decimal to read back is the exact one, with a single digit behind the
point.
-/

namespace ChatDice.Binary64

theorem roundHalfEven_mul {factor : Nat} (positive : 0 < factor) (numerator denominator : Nat) :
    roundHalfEven (factor * numerator) (factor * denominator) = roundHalfEven numerator denominator := by
  have below (a b : Nat) : 2 * (factor * a) < factor * b ↔ 2 * a < b := by
    rw [Nat.mul_left_comm, Nat.mul_lt_mul_left positive]
  have above (a b : Nat) : factor * a < 2 * (factor * b) ↔ a < 2 * b := by
    rw [Nat.mul_left_comm, Nat.mul_lt_mul_left positive]
  unfold roundHalfEven
  simp only [Nat.mul_div_mul_left _ _ positive, Nat.mul_mod_mul_left, below, above]

theorem roundUnits_mul {factor : Nat} (positive : 0 < factor) (numerator denominator : Nat) :
    roundUnits (factor * numerator) (factor * denominator) = roundUnits numerator denominator := by
  unfold roundUnits
  simp only [Nat.mul_div_mul_left _ _ positive, Nat.mul_assoc, roundHalfEven_mul positive]

/-- Only the rounded significand and exponent matter. -/
private theorem ofRatio?_eq (negative : Bool) (numerator denominator : Nat) :
    ofRatio? negative numerator denominator =
      (fun rounded : Nat × Nat =>
        if rounded.2 ≤ largestExponent then some (finite negative rounded.1 rounded.2) else none)
        (roundUnits (numerator * unitsPerOne) denominator) := rfl

theorem ofRatio?_mul {factor : Nat} (positive : 0 < factor) (negative : Bool)
    (numerator denominator : Nat) :
    ofRatio? negative (factor * numerator) (factor * denominator) =
      ofRatio? negative numerator denominator := by
  have same : roundUnits (factor * numerator * unitsPerOne) (factor * denominator) =
      roundUnits (numerator * unitsPerOne) denominator := by
    rw [Nat.mul_assoc factor numerator unitsPerOne]
    exact roundUnits_mul positive _ _
  rw [ofRatio?_eq, ofRatio?_eq, same]

/-- The sign of a ratio is that of the number nearest to it, and decides nothing else. -/
theorem ofRatio?_eq_some_iff {negative sign : Bool}
    {numerator denominator significand exponent : Nat} :
    ofRatio? negative numerator denominator = some (finite sign significand exponent) ↔
      negative = sign ∧ roundUnits (numerator * unitsPerOne) denominator = (significand, exponent) ∧
        exponent ≤ largestExponent := by
  rw [ofRatio?_eq]
  generalize roundUnits (numerator * unitsPerOne) denominator = rounded
  obtain ⟨nearest, scale⟩ := rounded
  dsimp only
  constructor
  · intro found
    split at found
    · rename_i within
      cases found
      exact ⟨rfl, rfl, within⟩
    · cases found
  · rintro ⟨rfl, same, within⟩
    cases same
    exact if_pos within

/-- A whole number is rounded to a whole number. -/
theorem whole_of_ofRatio? {negative sign : Bool} {n significand exponent : Nat}
    (found : ofRatio? negative n 1 = some (finite sign significand exponent)) :
    significand * 2 ^ exponent % unitsPerOne = 0 := by
  rw [← ofRatio?_mul Nat.two_pos] at found
  have rounded := (ofRatio?_eq_some_iff.mp found).2.1
  rw [Nat.mul_one] at rounded
  by_cases small : 2 * n ≤ 2 ^ 53
  · have units := units_half_of_small small
    rw [rounded] at units
    rw [units, Nat.mul_right_comm, ← unitsPerOne_eq, Nat.mul_mod_right]
  · obtain ⟨power, same⟩ := exists_power_of_large (Nat.le_of_not_le small)
    rw [rounded] at same
    have units := units_of_power significand power
    rw [← same] at units
    rw [units, Nat.mul_mod_left]

theorem whole_of_ofRatio {negative sign : Bool} {n significand exponent : Nat}
    (rounds : ofRatio negative n 1 = finite sign significand exponent) :
    significand * 2 ^ exponent % unitsPerOne = 0 := by
  rw [ofRatio] at rounds
  cases found : ofRatio? negative n 1 with
  | none =>
    rw [found] at rounds
    cases rounds
  | some x =>
    rw [found, Option.getD_some] at rounds
    subst x
    exact whole_of_ofRatio? found

/-- A decimal without a fraction reads as a whole number. -/
theorem whole_of_toBinary {d : Decimal} {sign : Bool} {significand exponent : Nat}
    (whole : 0 ≤ d.exponent) (reads : d.toBinary = finite sign significand exponent) :
    significand * 2 ^ exponent % unitsPerOne = 0 := by
  unfold Decimal.toBinary ofDecimal at reads
  simp only [if_pos whole] at reads
  split at reads
  · cases reads
    rw [Nat.zero_mul, Nat.zero_mod]
  · split at reads
    · cases reads
    · exact whole_of_ofRatio reads

variable {n significand exponent : Nat}

private theorem length_five_mul (small : n ≤ 2 ^ 53) : (Numeral.ofNat (5 * n)).length ≤ 17 := by
  rw [Numeral.length_ofNat_le_iff (by decide)]
  omega

/-- A half has five tenths for each of its halves. -/
theorem toBinary_tenths (positive : 0 < n) (small : n ≤ 2 ^ 53)
    (found : ofRatio? false n 2 = some (finite false significand exponent)) :
    Decimal.toBinary ⟨5 * n, -1⟩ = finite false significand exponent := by
  have short := length_five_mul small
  have same : ofRatio? false (5 * n) (10 ^ (-(-1 : Int)).toNat) = ofRatio? false n 2 :=
    ofRatio?_mul (by decide) false n 2
  unfold Decimal.toBinary ofDecimal
  dsimp only
  rw [if_neg, if_neg, if_neg (by decide), ofRatio, same, found, Option.getD_some]
  · omega
  · simp only [Bool.or_eq_true, decide_eq_true_eq]
    omega

/-- The best decimal of some digits has them from the order of the number on. -/
theorem of_readingBack? {count : Nat} {d : Decimal}
    (best : readingBack? significand exponent count = some d) :
    d.toBinary = finite false significand exponent ∧
      d.exponent = decimalOrder (significand * 2 ^ exponent) - count + 1 := by
  unfold readingBack? at best
  dsimp only [units] at best
  generalize decimalOrder (significand * 2 ^ exponent) - count + 1 = grid at best ⊢
  generalize (if 0 ≤ grid then _ else _ : Nat × Nat) = ratio at best
  have reads := List.find?_some best
  have member := List.mem_of_find?_eq_some best
  refine ⟨of_decide_eq_true reads, ?_⟩
  split at member
  all_goals
    rcases List.mem_cons.mp member with rfl | second
    · rfl
    · rw [List.mem_singleton.mp second]

theorem readingBack?_eq_none {count : Nat} (fraction : significand * 2 ^ exponent % unitsPerOne ≠ 0)
    (coarse : count ≤ decimalOrder (significand * 2 ^ exponent) + 1) :
    readingBack? significand exponent count = none := by
  rw [← Option.not_isSome_iff_eq_none, Option.isSome_iff_exists]
  intro ⟨d, best⟩
  obtain ⟨reads, grid⟩ := of_readingBack? best
  exact fraction (whole_of_toBinary (by omega) reads)

/-- On the grid of the tenths, a half is a point. -/
theorem readingBack?_tenths {count : Nat} (positive : 0 < n) (small : n ≤ 2 ^ 53)
    (units : significand * 2 ^ exponent = n * unitsPerHalf)
    (found : ofRatio? false n 2 = some (finite false significand exponent))
    (fine : decimalOrder (n * unitsPerHalf) = (count : Int) - 2) :
    readingBack? significand exponent count = some ⟨5 * n, -1⟩ := by
  have grid : decimalOrder (n * unitsPerHalf) - count + 1 = -1 := by omega
  have tenths : n * unitsPerHalf * 10 = 5 * n * unitsPerOne := by
    rw [unitsPerOne_eq]
    generalize unitsPerHalf = half
    rw [Nat.mul_assoc, Nat.mul_comm half 10, Nat.mul_comm 5 n, Nat.mul_assoc, ← Nat.mul_assoc 5 2]
  have one := unitsPerOne_pos
  have reads := toBinary_tenths positive small found
  have fraction : ¬ (0 : Int) ≤ -1 := by decide
  unfold readingBack?
  dsimp only [Binary64.units]
  simp only [units, grid]
  -- The numbers of units are too large to be looked at.
  generalize unitsPerOne = whole at tenths one ⊢
  generalize unitsPerHalf = half at tenths ⊢
  rw [if_neg fraction]
  change List.find? _ (if decide (2 * (n * half * 10 % whole) < whole) || _ then
    [(⟨n * half * 10 / whole, -1⟩ : Decimal), _] else _) = _
  rw [tenths, Nat.mul_div_cancel _ one, Nat.mul_mod_left, decide_eq_true one, Bool.true_or, if_pos rfl]
  exact List.find?_cons_of_pos (decide_eq_true reads)

/-- The digits of a half before the point: none of one half alone, and those of its whole part of
any other. -/
theorem exists_decimalOrder (odd : n % 2 = 1) (small : n ≤ 2 ^ 53) :
    ∃ places : Nat, places ≤ 16 ∧ decimalOrder (n * unitsPerHalf) = (places : Int) - 1 := by
  by_cases single : n = 1
  · subst n
    exact ⟨0, by decide, by decide +kernel⟩
  · refine ⟨(Numeral.ofNat (n / 2)).length, ?_, ?_⟩
    · rw [Numeral.length_ofNat_le_iff (by decide)]
      omega
    · have whole : n * unitsPerHalf / unitsPerOne = n / 2 := by
        rw [unitsPerOne_eq, Nat.mul_div_mul_right _ _ unitsPerHalf_pos]
      have one : unitsPerOne ≤ n * unitsPerHalf := by
        rw [unitsPerOne_eq]
        exact Nat.mul_le_mul_right _ (by omega)
      rw [decimalOrder, if_pos one, whole]

/-- Digits that end in no zero are kept. -/
theorem trimmed_eq_self {d : Decimal} (last : d.digits % 10 ≠ 0) (fuel : Nat) : d.trimmed fuel = d := by
  cases fuel with
  | zero => rfl
  | succ fuel =>
    rw [Decimal.trimmed, decide_eq_false last, Bool.false_and]
    rfl

/-- The shortest decimal of a half is the exact one. -/
theorem shortest_tenths (odd : n % 2 = 1) (small : n ≤ 2 ^ 53)
    (units : significand * 2 ^ exponent = n * unitsPerHalf)
    (found : ofRatio? false n 2 = some (finite false significand exponent)) :
    shortest significand exponent = ⟨5 * n, -1⟩ := by
  obtain ⟨places, few, order⟩ := exists_decimalOrder odd small
  have fraction : significand * 2 ^ exponent % unitsPerOne ≠ 0 := by
    rw [units, rest_of_odd odd]
    exact Nat.ne_of_gt unitsPerHalf_pos
  have coarser : ∀ fewer ∈ List.range places, readingBack? significand exponent (fewer + 1) = none := by
    intro fewer member
    have below := List.mem_range.mp member
    apply readingBack?_eq_none fraction
    rw [units, order]
    omega
  have exact : readingBack? significand exponent (places + 1) = some ⟨5 * n, -1⟩ := by
    apply readingBack?_tenths (by omega) small units found
    rw [order]
    omega
  have counts : List.range 17 =
      List.range places ++ places :: (List.range (16 - places)).map (places + 1 + ·) := by
    have all : 17 = places + 1 + (16 - places) := by omega
    rw [all, List.range_add, List.range_succ, List.append_assoc, List.singleton_append]
  have best : (List.range 17).findSome? (fun count => readingBack? significand exponent (count + 1)) =
      some ⟨5 * n, -1⟩ :=
    List.findSome?_eq_some_iff.mpr ⟨_, places, _, counts, exact, coarser⟩
  have last : (⟨5 * n, -1⟩ : Decimal).digits % 10 ≠ 0 := by
    change 5 * n % 10 ≠ 0
    omega
  rw [shortest, best, Option.getD_some, trimmed_eq_self last]

/-- One place behind the point is that of the last digit. -/
theorem layout_of_tenths {digits : Nat} (large : 10 ≤ digits) (short : (Numeral.ofNat digits).length ≤ 17) :
    Decimal.layout ⟨digits, -1⟩ =
      Numeral.ofNat (digits / 10) ++ "." ++ [CodePoint.ofChar (digits % 10).digitChar] := by
  have tens : 0 < (Numeral.ofNat (digits / 10)).length :=
    List.length_pos_iff.mpr (Numeral.ofNat_ne_nil _)
  unfold Decimal.layout
  rw [Numeral.ofNat_of_ten_le large] at short ⊢
  generalize Numeral.ofNat (digits / 10) = front at tens short ⊢
  rw [List.length_append, List.length_singleton] at short
  have point : ((front ++ [CodePoint.ofChar (digits % 10).digitChar]).length : Int) + -1 = front.length := by
    rw [List.length_append, List.length_singleton]
    omega
  simp only [point, Int.toNat_natCast, List.take_left, List.drop_left]
  rw [if_neg, if_neg (by omega), if_neg]
  · rw [List.length_append, List.length_singleton]
    omega
  · simp only [Bool.or_eq_true, decide_eq_true_eq]
    omega

theorem layout_half (odd : n % 2 = 1) (small : n ≤ 2 ^ 53) :
    Decimal.layout ⟨5 * n, -1⟩ = Numeral.ofNat (n / 2) ++ ".5" := by
  by_cases single : n = 1
  · subst n
    decide +kernel
  · have tens : 5 * n / 10 = n / 2 := by omega
    have ones : 5 * n % 10 = 5 := by omega
    rw [layout_of_tenths (by omega) (length_five_mul small), tens, ones, List.append_assoc]
    rfl

/-- The exact half of an odd number in digits: the sign, the whole part and five tenths. -/
def halfText (n : Int) : Text :=
  let magnitude : Text := Numeral.ofNat (n.natAbs / 2) ++ ".5"
  if n < 0 then '-' :: magnitude else magnitude

/-- The half of an odd number of at most 53 bits is written exactly. -/
theorem text_half?_of_odd {n : Int} (odd : n % 2 = 1) (small : n.natAbs ≤ 2 ^ 53) :
    ∃ x, half? n = some x ∧ x.toInt? = none ∧ x.text = halfText n := by
  obtain ⟨significand, exponent, found, units⟩ := half?_of_small small
  have oddMagnitude : n.natAbs % 2 = 1 := by omega
  have unsigned : ofRatio? false n.natAbs 2 = some (finite false significand exponent) :=
    ofRatio?_eq_some_iff.mpr ⟨rfl, (ofRatio?_eq_some_iff.mp found).2⟩
  have nonzero : significand ≠ 0 := by
    intro zero
    rw [zero, Nat.zero_mul] at units
    have positive : 0 < n.natAbs * unitsPerHalf := Nat.mul_pos (by omega) unitsPerHalf_pos
    omega
  refine ⟨_, found, toInt?_of_odd units oddMagnitude, ?_⟩
  rw [text, layout, if_neg nonzero, shortest_tenths oddMagnitude small units unsigned,
    layout_half oddMagnitude small]
  simp only [halfText, decide_eq_true_eq]

end ChatDice.Binary64
