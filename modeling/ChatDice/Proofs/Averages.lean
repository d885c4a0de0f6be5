import ChatDice.Proofs.Reporting
import ChatDice.Proofs.Runs
import ChatDice.Proofs.Shortest
import Mathlib.Algebra.Order.Field.Rat
import Mathlib.Tactic.Linarith

/-!
What the average of a roll prints: an exact half while the sum of minimum and maximum has at most 53
bits, beyond that the nearest whole number of 53 significant bits. Read back as exact decimals, the
numbers of a report are in order exactly if such a number lies between minimum and maximum.
-/

namespace ChatDice

namespace Numeral

/-- The number that digits denote, or digits around a point. -/
def unsigned? (t : Text) : Option ℚ :=
  let whole := t.takeWhile CodePoint.isDigit
  if whole.isEmpty then none
  else match t.dropWhile CodePoint.isDigit with
    | [] => some (value whole)
    | point :: fraction =>
      if point = '.' && !fraction.isEmpty && fraction.all CodePoint.isDigit then
        some (value whole + value fraction / 10 ^ fraction.length)
      else none

/-- The number that a decimal denotes, a minus sign before it negating it. -/
def decimal? : Text → Option ℚ
  | [] => none
  | c :: rest => if c = '-' then (unsigned? rest).map (- ·) else unsigned? (c :: rest)

section

variable {whole fraction : Text} (digits : ∀ c ∈ whole, c.isDigit = true) (nonempty : whole ≠ [])
include digits nonempty

theorem unsigned?_digits : unsigned? whole = some (value whole : ℚ) := by
  have before : whole.takeWhile CodePoint.isDigit = whole := List.takeWhile_eq_self_iff.mpr digits
  have behind : whole.dropWhile CodePoint.isDigit = [] := List.dropWhile_eq_nil_iff.mpr digits
  simp [unsigned?, before, behind, nonempty]

theorem unsigned?_fraction (others : ∀ c ∈ fraction, c.isDigit = true) (present : fraction ≠ []) :
    unsigned? (whole ++ CodePoint.ofChar '.' :: fraction) =
      some (value whole + value fraction / 10 ^ fraction.length : ℚ) := by
  have stops : ∀ c ∈ (CodePoint.ofChar '.' :: fraction).head?, c.isDigit = false := by
    intro c first
    cases first
    rfl
  have before := Text.takeWhile_of_stops digits stops
  have behind := Text.dropWhile_of_stops digits stops
  have all : fraction.all CodePoint.isDigit = true := List.all_eq_true.mpr others
  simp [unsigned?, before, behind, nonempty, all, present]

end

/-- The sign of a number stands before the digits of its magnitude. -/
theorem decimal?_signed {n : Int} {t : Text} {scale : ℚ}
    (reads : unsigned? t = some (n.natAbs * scale)) :
    decimal? (if n < 0 then '-' :: t else t) = some (n * scale) := by
  cases t with
  | nil => cases reads
  | cons c rest =>
    have digit : c ≠ '-' := by
      rintro rfl
      cases reads
    split
    · rename_i negative
      have magnitude : ((n.natAbs : Int) : ℚ) = (-n : Int) := by
        rw [Int.ofNat_natAbs_of_nonpos (Int.le_of_lt negative)]
      rw [decimal?, if_pos rfl, reads, Option.map_some, ← Int.cast_natCast, magnitude, Int.cast_neg,
        neg_mul, neg_neg]
    · rename_i notNegative
      have magnitude : ((n.natAbs : Int) : ℚ) = n := by
        rw [Int.natAbs_of_nonneg (Int.not_lt.mp notNegative)]
      rw [decimal?, if_neg digit, reads, ← Int.cast_natCast, magnitude]

theorem decimal?_ofInt (n : Int) : decimal? (ofInt n) = some (n : ℚ) := by
  have reads := unsigned?_digits (isDigit_ofNat n.natAbs) (ofNat_ne_nil _)
  rw [value_ofNat, ← mul_one (n.natAbs : ℚ)] at reads
  rw [ofInt, decimal?_signed reads, mul_one]

theorem decimal?_halfText {n : Int} (odd : n % 2 = 1) :
    decimal? (Binary64.halfText n) = some (n / 2 : ℚ) := by
  have tenths : ∀ c ∈ Text.ofString "5", c.isDigit = true := by
    intro c member
    rw [List.mem_singleton.mp member]
    rfl
  have five : value (Text.ofString "5") = 5 := by decide
  have one : List.length (Text.ofString "5") = 1 := rfl
  have magnitude : ((n.natAbs / 2 : Nat) : ℚ) + (5 : Nat) / 10 ^ 1 = n.natAbs * (1 / 2) := by
    have twice : ((2 * (n.natAbs / 2) + 1 : Nat) : ℚ) = n.natAbs := by
      congr 1
      omega
    push_cast at twice ⊢
    linarith
  have reads := unsigned?_fraction (isDigit_ofNat (n.natAbs / 2)) (ofNat_ne_nil _) tenths
    (List.cons_ne_nil _ _)
  rw [value_ofNat, five, one, magnitude] at reads
  rw [div_eq_mul_one_div]
  exact decimal?_signed reads

end Numeral

/-- Positional notation: no exponent and no name of a special number, no zero alone behind the point
at the end, and no zero with a sign. -/
structure Text.Positional (t : Text) : Prop where
  characters : ∀ c ∈ t, c.isDigit = true ∨ c = '-' ∨ c = '.'
  fraction : ¬ Text.ofString ".0" <:+ t
  zero : t ≠ "-0"

theorem Numeral.ofInt_positional (n : Int) : (ofInt n).Positional := by
  have digits := mem_ofInt n
  refine ⟨fun c member => ?characters, fun suffix => ?fraction, fun negativeZero => ?zero⟩
  case characters =>
    rcases digits c member with digit | sign
    · exact .inl digit
    · exact .inr (.inl sign)
  case fraction =>
    have point : CodePoint.ofChar '.' ∈ ofInt n := suffix.subset (List.mem_cons_self ..)
    rcases digits _ point with digit | sign
    · cases digit
    · exact absurd sign (by decide)
  case zero =>
    unfold ofInt at negativeZero
    split at negativeZero
    · have magnitude : ofNat n.natAbs = ofNat 0 := (List.cons.inj negativeZero).2
      have same := ofNat_injective magnitude
      omega
    · exact ofNat_ne_minus_cons _ _ negativeZero

namespace Binary64

theorem halfText_positional (n : Int) : (halfText n).Positional := by
  have magnitude : ∀ c ∈ Numeral.ofNat (n.natAbs / 2) ++ Text.ofString ".5",
      c.isDigit = true ∨ c = '-' ∨ c = '.' := by
    intro c member
    rcases List.mem_append.mp member with digit | tenths
    · exact .inl (Numeral.isDigit_ofNat _ c digit)
    · rcases List.mem_cons.mp tenths with point | five
      · exact .inr (.inr point)
      · exact .inl (List.mem_singleton.mp five ▸ rfl)
  have tenths : Text.ofString ".5" <:+ halfText n := by
    have behind := List.suffix_append (Numeral.ofNat (n.natAbs / 2)) (Text.ofString ".5")
    unfold halfText
    split
    · exact behind.trans (List.suffix_cons _ _)
    · exact behind
  refine ⟨fun c member => ?characters, fun suffix => ?fraction, fun negativeZero => ?zero⟩
  case characters =>
    unfold halfText at member
    split at member
    · rcases List.mem_cons.mp member with sign | other
      · exact .inr (.inl sign)
      · exact magnitude c other
    · exact magnitude c member
  case fraction =>
    have within := List.suffix_of_suffix_length_le suffix tenths (Nat.le_refl 2)
    exact absurd (within.eq_of_length rfl) (by decide)
  case zero =>
    rw [negativeZero] at tenths
    exact absurd (tenths.eq_of_length rfl) (by decide)

/-- How half of a sum is written. -/
inductive PrintedHalf (sum : Int) : Text → Prop
  /-- A whole half within 53 bits. -/
  | whole (small : sum.natAbs ≤ 2 ^ 53) (even : sum % 2 = 0) :
      PrintedHalf sum (Numeral.ofInt (sum / 2))
  /-- Any other half within 53 bits. -/
  | half (small : sum.natAbs ≤ 2 ^ 53) (odd : sum % 2 = 1) : PrintedHalf sum (halfText sum)
  /-- Beyond 53 bits the nearest whole number. -/
  | rounded {whole : Int} {significand : Nat} (large : 2 ^ 53 < sum.natAbs)
      (nearest : NearestHalf sum whole significand) : PrintedHalf sum (Numeral.ofInt whole)

namespace PrintedHalf

variable {sum : Int} {t : Text}

theorem positional (printed : PrintedHalf sum t) : t.Positional := by
  cases printed with
  | whole => exact Numeral.ofInt_positional _
  | half => exact halfText_positional sum
  | rounded => exact Numeral.ofInt_positional _

/-- Within 53 bits the half is exact. -/
theorem decimal?_of_small (printed : PrintedHalf sum t) (small : sum.natAbs ≤ 2 ^ 53) :
    Numeral.decimal? t = some (sum / 2 : ℚ) := by
  cases printed with
  | whole _ even =>
    have twice : ((2 * (sum / 2) : Int) : ℚ) = sum := by
      congr 1
      omega
    push_cast at twice
    rw [Numeral.decimal?_ofInt]
    congr 1
    linarith
  | half _ odd => exact Numeral.decimal?_halfText odd
  | rounded large => exact absurd small (Nat.not_le.mpr large)

end PrintedHalf

variable {low high : Int}

/-- A nearest number keeps within bounds around the middle as soon as any of its kind does. -/
theorem NearestHalf.between_iff {whole : Int} {significand : Nat}
    (nearest : NearestHalf (low + high) whole significand) :
    low ≤ whole ∧ whole ≤ high ↔ ∃ n : Int, Representable n.natAbs ∧ low ≤ n ∧ n ≤ high := by
  constructor
  · intro between
    obtain ⟨exponent, value⟩ := nearest.value
    exact ⟨whole, ⟨significand, exponent, nearest.normal.2, value⟩, between⟩
  · rintro ⟨n, representable, above, below⟩
    have closer := nearest.nearest n representable
    omega

/-- The middle of bounds whose sum has at most 53 bits has a number of at most 53 bits below it. -/
theorem exists_representable (ordered : low ≤ high) (small : (low + high).natAbs ≤ 2 ^ 53) :
    ∃ n : Int, Representable n.natAbs ∧ low ≤ n ∧ n ≤ high :=
  ⟨(low + high) / 2, representable_of_le (by omega), by omega, by omega⟩

theorem PrintedHalf.between_iff {t : Text} (printed : PrintedHalf (low + high) t)
    (ordered : low ≤ high) :
    ∃ middle : ℚ, Numeral.decimal? t = some middle ∧
      (low ≤ middle ∧ middle ≤ high ↔ ∃ n : Int, Representable n.natAbs ∧ low ≤ n ∧ n ≤ high) := by
  by_cases small : (low + high).natAbs ≤ 2 ^ 53
  · refine ⟨_, printed.decimal?_of_small small, iff_of_true ?_ (exists_representable ordered small)⟩
    have bounds : (low : ℚ) ≤ high := Int.cast_le.mpr ordered
    push_cast
    constructor <;> linarith
  · cases printed with
    | whole within | half within => exact absurd within small
    | rounded _ nearest =>
      refine ⟨_, Numeral.decimal?_ofInt _, ?_⟩
      rw [Int.cast_le, Int.cast_le]
      exact nearest.between_iff

end Binary64

namespace Dice

theorem Report.averageText_printed {sum : Int} (finite : sum.natAbs < Binary64.halfLimit) :
    ∃ t, averageText (Binary64.half? sum) = .ok t ∧ Binary64.PrintedHalf sum t := by
  by_cases small : sum.natAbs ≤ 2 ^ 53
  · rcases Int.emod_two_eq_zero_or_one sum with even | odd
    · obtain ⟨x, found, isWhole⟩ := Binary64.half?_of_even small even
      exact ⟨_, averageText_of_whole found isWhole, .whole small even⟩
    · obtain ⟨x, found, notWhole, same⟩ := Binary64.text_half?_of_odd odd small
      refine ⟨_, averageText_of_fraction found notWhole, ?_⟩
      rw [same]
      exact .half small odd
  · have large := Nat.lt_of_not_le small
    obtain ⟨x, whole, significand, found, isWhole, nearest⟩ := Binary64.half?_of_large large finite
    exact ⟨_, averageText_of_whole found isWhole, .rounded large nearest⟩

/-- The average of a roll is too large for a number exactly from the midpoint beyond the largest
finite one on. Below it prints, within 53 bits exactly and else as the nearest whole number of 53
bits, always in positional notation. -/
theorem average_printed (roll : Roll) :
    let sum := roll.minimum + roll.maximum
    (roll.average? = none ↔ 2 ^ 1025 - 2 ^ 971 ≤ sum.natAbs) ∧
    (sum.natAbs < 2 ^ 1025 - 2 ^ 971 → ∃ t, Report.averageText roll.average? = .ok t ∧
      Binary64.PrintedHalf sum t ∧ t.Positional ∧
      (sum.natAbs ≤ 2 ^ 53 → Numeral.decimal? t = some (sum / 2 : ℚ))) := by
  intro sum
  refine ⟨Binary64.half?_eq_none_iff, fun finite => ?_⟩
  obtain ⟨t, written, printed⟩ := Report.averageText_printed finite
  exact ⟨t, written, printed, printed.positional, printed.decimal?_of_small⟩

/-- What the numbers of a report denote: those in its header, and the total. -/
inductive Report.Denotes (query : Text) (outcomes : List Int) :
    Text → (maximum minimum average total : ℚ) → Prop
  | intro {high low middle sum ending : Text} {maximum minimum average total : ℚ}
      (readsMaximum : Numeral.decimal? high = some maximum)
      (readsMinimum : Numeral.decimal? low = some minimum)
      (readsAverage : Numeral.decimal? middle = some average)
      (readsTotal : Numeral.decimal? sum = some total) :
      Denotes query outcomes
        (Text.ofString "You rolled **" ++ query ++ "** (max is " ++ high ++ ", min is " ++ low
          ++ ", avg is " ++ middle ++ "):\n- Results: **"
          ++ Text.join ", " (outcomes.map Numeral.ofInt) ++ "**\n- Total: **" ++ sum ++ "**\n" ++ ending)
        maximum minimum average total

theorem Report.finite_of_averageText {sum : Int} {t : Text}
    (written : averageText (Binary64.half? sum) = .ok t) : sum.natAbs < Binary64.halfLimit := by
  apply Nat.lt_of_not_le
  intro large
  rw [Binary64.half?_eq_none_iff.mpr large] at written
  cases written

/-- The numbers of a report are those of its roll, the average alone being rounded. -/
theorem Report.exists_denotes {query report : Text} {roll : Roll} {grouping : Grouping}
    {showGroups : Bool} (rendered : render query roll grouping showGroups = .ok report)
    (ordered : roll.minimum ≤ roll.maximum) :
    ∃ average : ℚ, Denotes query roll.outcomes report roll.maximum roll.minimum average roll.total ∧
      (roll.minimum ≤ average ∧ average ≤ roll.maximum ↔
        ∃ n : Int, Binary64.Representable n.natAbs ∧ roll.minimum ≤ n ∧ n ≤ roll.maximum) := by
  obtain ⟨middle, ending, written, -, rfl⟩ := exists_of_render rendered
  obtain ⟨t, same, printed⟩ := averageText_printed (finite_of_averageText written)
  obtain rfl : middle = t := Except.ok.inj (written.symm.trans same)
  obtain ⟨average, reads, between⟩ := printed.between_iff ordered
  refine ⟨average, .intro ?_ ?_ reads ?_, between⟩
  all_goals exact Numeral.decimal?_ofInt _

/-- The total of a report lies between its minimum and its maximum. The average does so exactly if
a whole number of at most 53 bits does, and within 53 bits there always is one. -/
theorem header_ordered_iff {σ : Type} {query report : Text} {spec : Specification}
    (parsed : parse query = .ok spec) {draw : Draw σ} (faces : draw.GivesFaces spec.sides) (state : σ)
    {showGroups : Bool} :
    let roll := (spec.roll draw state).1
    Report.render spec.query roll (Grouping.ofOutcomes roll.outcomes) showGroups = .ok report →
    ∃ average : ℚ,
      Report.Denotes query roll.outcomes report roll.maximum roll.minimum average roll.total ∧
      roll.minimum ≤ roll.total ∧ roll.total ≤ roll.maximum ∧
      (roll.minimum ≤ average ∧ average ≤ roll.maximum ↔
        ∃ n : Int, Binary64.Representable n.natAbs ∧ roll.minimum ≤ n ∧ n ≤ roll.maximum) ∧
      ((roll.minimum + roll.maximum).natAbs ≤ 2 ^ 53 →
        roll.minimum ≤ average ∧ average ≤ roll.maximum) := by
  intro roll rendered
  have inRange := inRange_of_parse parsed
  have shows : roll.Shows spec := spec.roll_shows faces state
  have ordered := shows.minimum_le_maximum inRange
  rw [query_of_parse parsed] at rendered
  obtain ⟨average, denotes, between⟩ := Report.exists_denotes rendered ordered
  refine ⟨average, denotes, shows.minimum_le_total, shows.total_le_maximum inRange, between, ?_⟩
  intro small
  exact between.mpr (Binary64.exists_representable ordered small)

/-- A range beyond 53 bits, of which only the upper end is a number of at most 53 bits. -/
theorem header_ordered_upper_end :
    parse "1d2+9007199254740992" = .ok ⟨"1d2+9007199254740992", 1, 2, 9007199254740992⟩ ∧
    (Draw.lowest : Draw Unit).GivesFaces 2 ∧
    ∃ report average,
      Report.render "1d2+9007199254740992" ⟨1, 2, 9007199254740992, [1], 9007199254740993⟩
        (Grouping.ofOutcomes [1]) false = .ok report ∧
      Report.Denotes "1d2+9007199254740992" [1] report (9007199254740994 : Int)
        (9007199254740993 : Int) average (9007199254740993 : Int) ∧
      (9007199254740993 : Int) ≤ average ∧ average ≤ (9007199254740994 : Int) := by
  have parsed : parse "1d2+9007199254740992" =
      .ok ⟨"1d2+9007199254740992", 1, 2, 9007199254740992⟩ := by decide +kernel
  have faces : (Draw.lowest : Draw Unit).GivesFaces 2 := Draw.lowest_inBounds.givesFaces (by decide)
  have rendered : Report.render "1d2+9007199254740992" ⟨1, 2, 9007199254740992, [1], 9007199254740993⟩
      (Grouping.ofOutcomes [1]) false =
      .ok (Text.ofString "You rolled **1d2+9007199254740992** (max is 9007199254740994, "
        ++ "min is 9007199254740993, avg is 9007199254740994):\n- Results: **1**\n"
        ++ "- Total: **9007199254740993**\n") := by decide +kernel
  have upperEnd : Binary64.Representable 9007199254740994 := ⟨4503599627370497, 1, by decide, by decide⟩
  obtain ⟨average, denotes, -, -, between, -⟩ := header_ordered_iff parsed faces () rendered
  exact ⟨parsed, faces, _, average, rendered, denotes,
    between.mpr ⟨9007199254740994, upperEnd, by decide, by decide⟩⟩

/-- No dice and a modifier beyond 53 bits: the average prints as a smaller number than the minimum. -/
theorem average_below_minimum :
    parse "0d6+9007199254740993" = .ok ⟨"0d6+9007199254740993", 0, 6, 9007199254740993⟩ ∧
    (Draw.lowest : Draw Unit).InBounds ∧
    Report.render "0d6+9007199254740993"
      (Specification.roll ⟨"0d6+9007199254740993", 0, 6, 9007199254740993⟩ (Draw.lowest : Draw Unit) ()).1
      (Grouping.ofOutcomes []) false =
      .ok (Text.ofString "You rolled **0d6+9007199254740993** (max is 9007199254740993, "
        ++ "min is 9007199254740993, avg is 9007199254740992):\n- Results: ****\n"
        ++ "- Total: **9007199254740993**\n") ∧
    Numeral.decimal? "9007199254740992" = some 9007199254740992 ∧
    Numeral.decimal? "9007199254740993" = some 9007199254740993 ∧
    ¬ (9007199254740993 : ℚ) ≤ 9007199254740992 := by
  have average := Numeral.decimal?_ofInt 9007199254740992
  have minimum := Numeral.decimal?_ofInt 9007199254740993
  refine ⟨by decide +kernel, Draw.lowest_inBounds, by decide +kernel, ?_, ?_, by norm_num⟩
  · exact_mod_cast average
  · exact_mod_cast minimum

end Dice

end ChatDice
