import ChatDice.Json.Reader
import ChatDice.Json.Writer
import ChatDice.Proofs.Numeral
import ChatDice.Proofs.Runs

/-!
Numbers and words as they are written. The reader takes each of them back from the start of a text,
as long as nothing follows that could go on with it: a whole number as it was, and a floating-point
number as some floating-point number.
-/

namespace ChatDice

namespace Json

/-- Nothing that could go on with a value: the text ends, or a mark of an array or an object follows. -/
def Ends (rest : Text) : Prop :=
  ∀ c ∈ rest.head?, c = CodePoint.ofChar ',' ∨ c = CodePoint.ofChar ']' ∨ c = CodePoint.ofChar '}'

/-- The digits of a whole number as they are written: zero alone starts with a zero. -/
structure IsWhole (whole : Text) : Prop where
  digits : ∀ c ∈ whole, c.isDigit = true
  nonempty : whole ≠ []
  leading : whole.head? = some (CodePoint.ofChar '0') → whole = [CodePoint.ofChar '0']

theorem isWhole_ofNat (n : Nat) : IsWhole (Numeral.ofNat n) := by
  refine ⟨Numeral.isDigit_ofNat n, Numeral.ofNat_ne_nil n, fun leading => ?_⟩
  rcases Nat.eq_zero_or_pos n with rfl | positive
  · rfl
  · exact absurd leading (Numeral.head?_ofNat positive)

/-- A fraction as it is written, if there is one. -/
inductive IsFraction : Option Text → Text → Prop
  | none : IsFraction none []
  | some {digits : Text} (all : ∀ c ∈ digits, c.isDigit = true) (nonempty : digits ≠ []) :
      IsFraction (some digits) (CodePoint.ofChar '.' :: digits)

/-- A power of ten as it is written, if there is one. -/
inductive IsPower : Option Int → Text → Prop
  | none : IsPower none []
  | negative {digits : Text} (all : ∀ c ∈ digits, c.isDigit = true) (nonempty : digits ≠ []) :
      IsPower (some (-(Numeral.value digits : Int)))
        (CodePoint.ofChar 'e' :: CodePoint.ofChar '-' :: digits)
  | positive {digits : Text} (all : ∀ c ∈ digits, c.isDigit = true) (nonempty : digits ≠ []) :
      IsPower (some (Numeral.value digits)) (CodePoint.ofChar 'e' :: CodePoint.ofChar '+' :: digits)

theorem Ends.not_digit {rest : Text} (ends : Ends rest) : ∀ c ∈ rest.head?, c.isDigit = false := by
  intro c member
  rcases ends c member with rfl | rfl | rfl <;> decide

theorem powerDigits_append {digits rest : Text} (all : ∀ c ∈ digits, c.isDigit = true)
    (nonempty : digits ≠ []) (ends : ∀ c ∈ rest.head?, c.isDigit = false) (negative : Bool) :
    powerDigits negative (digits ++ rest) =
      some (if negative then -(Numeral.value digits : Int) else Numeral.value digits, rest) := by
  simp only [powerDigits, Text.takeWhile_of_stops all ends, Text.dropWhile_of_stops all ends]
  rw [if_neg (by simpa using nonempty)]

theorem powerPart_append {power : Option Int} {t rest : Text} (spelled : IsPower power t)
    (ends : Ends rest) : powerPart (t ++ rest) = (power, rest) := by
  cases spelled with
  | none =>
    cases rest with
    | nil => rfl
    | cons c rest => rcases ends c rfl with rfl | rfl | rfl <;> rfl
  | @negative digits all nonempty =>
    have found := powerDigits_append all nonempty ends.not_digit true
    rw [List.cons_append, List.cons_append]
    simp [powerPart, found]
  | @positive digits all nonempty =>
    have found := powerDigits_append all nonempty ends.not_digit false
    have other : CodePoint.ofChar '+' ≠ CodePoint.ofChar '-' := by decide
    rw [List.cons_append, List.cons_append]
    simp [powerPart, found, other]

theorem fractionPart_append {fraction : Option Text} {t rest : Text} (spelled : IsFraction fraction t)
    (ends : ∀ c ∈ rest.head?, c.isDigit = false ∧ c ≠ CodePoint.ofChar '.') :
    fractionPart (t ++ rest) = (fraction, rest) := by
  cases spelled with
  | none =>
    rw [List.nil_append]
    unfold fractionPart
    split
    · rename_i point digit rest
      have other := (ends point rfl).2
      rw [if_neg (by simp [other])]
    · rfl
  | @some digits all nonempty =>
    cases digits with
    | nil => exact absurd rfl nonempty
    | cons digit digits =>
      obtain ⟨isDigit, others⟩ := List.forall_mem_cons.mp all
      have further := fun c member => (ends c member).1
      rw [List.cons_append, List.cons_append, fractionPart, if_pos (by simp [isDigit]),
        Text.takeWhile_of_stops others further, Text.dropWhile_of_stops others further]

theorem numeral?_append {whole fraction power rest : Text} {digits : Option Text} {size : Option Int}
    (isWhole : IsWhole whole) (isFraction : IsFraction digits fraction)
    (isPower : IsPower size power) (ends : Ends rest) :
    numeral? (whole ++ (fraction ++ (power ++ rest))) = some ⟨whole, digits, size, rest⟩ := by
  have afterFraction : ∀ c ∈ (power ++ rest).head?, c.isDigit = false ∧ c ≠ CodePoint.ofChar '.' := by
    intro c first
    cases isPower with
    | none => rcases ends c first with rfl | rfl | rfl <;> decide
    | negative | positive =>
      cases first
      decide
  have afterWhole : ∀ c ∈ (fraction ++ (power ++ rest)).head?, c.isDigit = false := by
    intro c first
    cases isFraction with
    | none => exact (afterFraction c first).1
    | some =>
      cases first
      decide
  cases whole with
  | nil => exact absurd rfl isWhole.nonempty
  | cons first others =>
    have digits := Text.takeWhile_of_stops isWhole.digits afterWhole
    have taken : (if first = CodePoint.ofChar '0' then [first]
        else (first :: (others ++ (fraction ++ (power ++ rest)))).takeWhile CodePoint.isDigit) =
        first :: others := by
      split
      · rename_i zero
        rw [isWhole.leading (congrArg some zero), zero]
      · exact digits
    have left : (first :: (others ++ (fraction ++ (power ++ rest)))).drop (first :: others).length =
        fraction ++ (power ++ rest) := List.drop_left
    simp only [List.cons_append, numeral?, taken, left, fractionPart_append isFraction afterFraction,
      powerPart_append isPower ends]
    rfl

/-- No word has a digit among its first two code points. -/
theorem find?_words {t : Text} {c : CodePoint} (digit : c.isDigit = true) (early : c ∈ t.take 2) :
    words.find? (fun word => word.1.isPrefixOf t) = none := by
  have wordsOnly : ∀ word ∈ words, 2 ≤ word.1.length ∧ word.1.any CodePoint.isDigit = false := by
    decide
  rw [List.find?_eq_none]
  intro word member starts
  obtain ⟨long, noDigit⟩ := wordsOnly word member
  obtain ⟨rest, rfl⟩ := List.isPrefixOf_iff_prefix.mp starts
  rw [List.take_append_of_le_length long] at early
  exact List.any_eq_false.mp noDigit c (List.mem_of_mem_take early) digit

/-- The sign of a numeral as it is written. -/
def signText (negative : Bool) : Text := if negative then [CodePoint.ofChar '-'] else []

theorem plain_append {whole fraction power rest : Text} {digits : Option Text} {size : Option Int}
    (negative : Bool) (isWhole : IsWhole whole) (isFraction : IsFraction digits fraction)
    (isPower : IsPower size power) (ends : Ends rest) :
    plain (signText negative ++ (whole ++ (fraction ++ (power ++ rest)))) =
      (number negative ⟨whole, digits, size, rest⟩).map fun value => (value, rest) := by
  have found := numeral?_append isWhole isFraction isPower ends
  cases whole with
  | nil => exact absurd rfl isWhole.nonempty
  | cons first others =>
    have digit := isWhole.digits first (List.mem_cons_self ..)
    have unsigned : first ≠ CodePoint.ofChar '-' := by
      rintro rfl
      cases digit
    rw [List.cons_append] at found ⊢
    cases negative with
    | false =>
      simp only [signText, Bool.false_eq_true, if_false, List.nil_append, plain]
      rw [find?_words digit (by simp)]
      simp only [unsigned, if_false, found]
    | true =>
      simp only [signText, if_true, List.cons_append, List.nil_append, plain]
      rw [find?_words digit (by simp)]
      simp only [found]

theorem number_whole {n : Nat} (small : n < 10 ^ Numeral.digitLimit) (negative : Bool) (rest : Text) :
    number negative ⟨Numeral.ofNat n, none, none, rest⟩ = .ok (.int (if negative then -n else n)) := by
  have short := (Numeral.length_ofNat_le_iff (by decide)).mpr small
  simp only [number, Numeral.read, if_neg (Nat.not_lt.mpr short), Numeral.value_ofNat]

/-- A whole number of permitted length is read as it was written. -/
theorem plain_ofInt {n : Int} (small : n.natAbs < 10 ^ Numeral.digitLimit) {rest : Text}
    (ends : Ends rest) : plain (Numeral.ofInt n ++ rest) = .ok (.int n, rest) := by
  have written : Numeral.ofInt n ++ rest =
      signText (n < 0) ++ (Numeral.ofNat n.natAbs ++ ([] ++ ([] ++ rest))) := by
    unfold Numeral.ofInt signText
    by_cases negative : n < 0 <;> simp [negative]
  rw [written, plain_append _ (isWhole_ofNat _) .none .none ends, number_whole small]
  by_cases negative : n < 0
  · simp only [negative, decide_true, if_true, Except.map]
    rw [show -(n.natAbs : Int) = n by omega]
  · simp only [negative, decide_false, Except.map]
    rw [show (if false = true then -(n.natAbs : Int) else n.natAbs) = n by simp; omega]

theorem plain_word {word : Text × Json} (member : word ∈ words) (rest : Text) :
    plain (word.1 ++ rest) = .ok (word.2, rest) := by
  simp only [words, List.mem_cons, List.not_mem_nil, or_false] at member
  rcases member with rfl | rfl | rfl | rfl | rfl | rfl <;> rfl

end Json

namespace Binary64

open Json

namespace Decimal

/-- The text of a numeral with a fraction or a power of ten. -/
def IsNumeral (t : Text) : Prop :=
  ∃ whole fraction power digits size, t = whole ++ (fraction ++ power) ∧ IsWhole whole ∧
    IsFraction digits fraction ∧ IsPower size power ∧ (digits = none → size ≠ none)

theorem isWhole_zero : IsWhole [CodePoint.ofChar '0'] := isWhole_ofNat 0

/-- Far from one: one digit before the point, the others after it, and a power of ten. -/
theorem isNumeral_scientific {digits : Text} (whole : IsWhole digits) (power : Int) :
    IsNumeral (digits.take 1 ++ (if (digits.drop 1).isEmpty then ("" : Text) else ".") ++
      digits.drop 1 ++ (if power < 0 then ("e-" : Text) else "e+") ++ Numeral.padded 2 power.natAbs) := by
  obtain ⟨first, others, rfl⟩ := List.exists_cons_of_ne_nil whole.nonempty
  obtain ⟨isDigit, further⟩ := List.forall_mem_cons.mp whole.digits
  have leading : IsWhole [first] :=
    ⟨by simpa using isDigit, by simp, fun zero => by rw [Option.some.inj zero]⟩
  have padded := Numeral.isDigit_padded 2 power.natAbs
  have nonempty := Numeral.padded_ne_nil 2 power.natAbs
  have spelledPower : ∃ size, IsPower (some size)
      ((if power < 0 then Text.ofString "e-" else "e+") ++ Numeral.padded 2 power.natAbs) := by
    split
    · exact ⟨_, .negative padded nonempty⟩
    · exact ⟨_, .positive padded nonempty⟩
  obtain ⟨size, isPower⟩ := spelledPower
  have spelledFraction : ∃ fraction, IsFraction fraction
      ((if others.isEmpty then Text.ofString "" else ".") ++ others) := by
    cases others with
    | nil => exact ⟨none, .none⟩
    | cons second rest => exact ⟨some (second :: rest), .some further (by simp)⟩
  obtain ⟨fraction, isFraction⟩ := spelledFraction
  exact ⟨[first], _, _, fraction, some size, by simp, leading, isFraction, isPower, by simp⟩

theorem isNumeral_fraction {whole : Text} (isWhole : IsWhole whole) (digits : Text)
    (all : ∀ c ∈ digits, c.isDigit = true) (nonempty : digits ≠ []) :
    IsNumeral (whole ++ CodePoint.ofChar '.' :: digits) :=
  ⟨whole, _, [], some digits, none, by simp, isWhole, .some all nonempty, .none, by simp⟩

/-- Zeros can follow the digits of a whole number other than zero. -/
theorem isWhole_append {digits zeros : Text} (whole : IsWhole digits)
    (all : ∀ c ∈ zeros, c.isDigit = true) (nonzero : digits = [CodePoint.ofChar '0'] → zeros = []) :
    IsWhole (digits ++ zeros) := by
  refine ⟨?_, by simp [whole.nonempty], fun leading => ?_⟩
  · intro c member
    rcases List.mem_append.mp member with digit | zero
    · exact whole.digits c digit
    · exact all c zero
  · have alone : digits = [CodePoint.ofChar '0'] := by
      obtain ⟨first, others, same⟩ := List.exists_cons_of_ne_nil whole.nonempty
      apply whole.leading
      rw [same] at leading ⊢
      exact leading
    rw [nonzero alone, alone, List.append_nil]

theorem isWhole_take {digits : Text} (whole : IsWhole digits) {count : Nat} (positive : 0 < count)
    (short : count < digits.length) : IsWhole (digits.take count) := by
  refine ⟨fun c member => whole.digits c (List.mem_of_mem_take member), ?_, fun leading => ?_⟩
  · simp [whole.nonempty]
    omega
  · rw [List.head?_take, if_neg (by omega)] at leading
    rw [whole.leading leading] at short
    simp at short
    omega

/-- A decimal is written as a numeral with a fraction or a power of ten. -/
theorem isNumeral_layout {d : Decimal} (nonzero : d.digits = 0 → d.exponent = 0) :
    IsNumeral d.layout := by
  have whole := isWhole_ofNat d.digits
  have zeros (count : Nat) : ∀ c ∈ List.replicate count (CodePoint.ofChar '0'), c.isDigit = true := by
    intro c member
    rw [List.eq_of_mem_replicate member]
    decide
  unfold layout
  simp only
  split
  · exact isNumeral_scientific whole _
  split
  · -- Below one: zeros after the point.
    rw [List.append_assoc]
    refine isNumeral_fraction isWhole_zero (List.replicate _ _ ++ Numeral.ofNat d.digits) ?_
      (by simp [whole.nonempty])
    intro c member
    rcases List.mem_append.mp member with zero | digit
    · exact zeros _ c zero
    · exact whole.digits c digit
  split
  · -- A whole number: zeros before the point.
    refine isNumeral_fraction (isWhole_append whole (zeros _) fun zero => ?_) _ isWhole_zero.digits
      isWhole_zero.nonempty
    have none : d.digits = 0 := by
      rw [← Numeral.value_ofNat d.digits, zero]
      decide
    simp [nonzero none]
  · rename_i inside above below
    rw [List.append_assoc]
    refine isNumeral_fraction (isWhole_take whole (by omega) (by omega)) (List.drop _ _) ?_ ?_
    · intro c member
      exact whole.digits c (List.mem_of_mem_drop member)
    · rw [ne_eq, List.drop_eq_nil_iff]
      omega

theorem digits_trimmed {d : Decimal} (nonzero : d.digits ≠ 0) (fuel : Nat) :
    (d.trimmed fuel).digits ≠ 0 := by
  induction fuel generalizing d with
  | zero => exact nonzero
  | succ fuel ih =>
    rw [trimmed]
    split
    · rename_i ends
      simp only [Bool.and_eq_true, decide_eq_true_eq] at ends
      apply ih
      simp only
      omega
    · exact nonzero

end Decimal

theorem toBinary_of_readingBack? {significand exponent count : Nat} {d : Decimal}
    (found : readingBack? significand exponent count = some d) :
    d.toBinary = finite false significand exponent := by
  unfold readingBack? at found
  -- The candidates are not looked at, only what is asked of each of them.
  generalize finite false significand exponent = target at found ⊢
  simp only at found
  have same := List.find?_some found
  simpa using same

theorem digits_of_readingBack? {significand exponent count : Nat} {d : Decimal}
    (found : readingBack? significand exponent count = some d) (positive : significand ≠ 0) :
    d.digits ≠ 0 := by
  intro none
  have same := toBinary_of_readingBack? found
  simp only [Decimal.toBinary, ofDecimal, none, decide_true, Bool.true_or, if_true] at same
  cases same
  exact positive rfl

theorem exponent_shortest {significand exponent : Nat} (positive : significand ≠ 0)
    (none : (shortest significand exponent).digits = 0) :
    (shortest significand exponent).exponent = 0 := by
  rw [shortest] at none ⊢
  cases found : (List.range 17).findSome? fun n => readingBack? significand exponent (n + 1) with
  | none => rfl
  | some d =>
    obtain ⟨n, -, read⟩ := List.exists_of_findSome?_eq_some found
    rw [found] at none
    exact absurd none (Decimal.digits_trimmed (digits_of_readingBack? read positive) 20)

theorem isNumeral_magnitude (significand exponent : Nat) :
    Decimal.IsNumeral (if significand = 0 then ("0.0" : Text)
      else (shortest significand exponent).layout) := by
  split
  · exact Decimal.isNumeral_fraction Decimal.isWhole_zero _ Decimal.isWhole_zero.digits
      Decimal.isWhole_zero.nonempty
  · rename_i positive
    exact Decimal.isNumeral_layout (exponent_shortest positive)

/-- The text of a floating-point number is read as such a number. -/
theorem exists_plain_jsonText (x : Binary64) : ∃ y, ∀ rest, Ends rest →
    plain (x.jsonText ++ rest) = .ok (.float y, rest) := by
  cases x with
  | nan => exact ⟨.nan, fun rest _ => rfl⟩
  | infinite negative => exact ⟨.infinite negative, fun rest _ => by cases negative <;> rfl⟩
  | finite negative significand exponent =>
    obtain ⟨whole, fraction, power, digits, size, same, isWhole, isFraction, isPower, float⟩ :=
      isNumeral_magnitude significand exponent
    have written (rest : Text) : (finite negative significand exponent).jsonText ++ rest =
        signText negative ++ (whole ++ (fraction ++ (power ++ rest))) := by
      rw [jsonText, layout]
      simp only [same]
      cases negative <;> simp [signText]
    refine ⟨ofDecimal negative (Numeral.value (whole ++ digits.getD []))
      (size.getD 0 - (digits.getD []).length), fun rest ends => ?_⟩
    rw [written, plain_append negative isWhole isFraction isPower ends]
    cases digits with
    | some digits => rfl
    | none =>
      cases size with
      | some size => rfl
      | none => exact absurd rfl (float rfl)

end Binary64
end ChatDice
