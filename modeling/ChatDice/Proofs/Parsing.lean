import ChatDice.Proofs.Matches
import ChatDice.Proofs.Numeral

/-! What parsing gives, by the texts of the fields alone, and the bounds on what it gives. -/

namespace ChatDice.Dice

/-- Digits throughout, and no more of them than a numeral may have. -/
def IsNumber (field : Text) : Prop :=
  (∀ c ∈ field, c.isDigit = true) ∧ field.length ≤ Numeral.digitLimit

instance (field : Text) : Decidable (IsNumber field) := inferInstanceAs (Decidable (_ ∧ _))

theorem required_of_isNumber {field : Text} (failure : Failure) (nonempty : field ≠ [])
    (isNumber : IsNumber field) : required field failure = .ok (Numeral.value field) := by
  have digits : field.all CodePoint.isDigit = true := List.all_eq_true.mpr isNumber.1
  have short : ¬ Numeral.digitLimit < field.length := Nat.not_lt.mpr isNumber.2
  simp [required, number?, nonempty, digits, Numeral.read, short, Except.toOption]

theorem required_of_not_isNumber {field : Text} (failure : Failure) (bad : ¬ IsNumber field) :
    required field failure = .error failure := by
  by_cases digits : field.all CodePoint.isDigit = true
  · have long : Numeral.digitLimit < field.length :=
      Nat.lt_of_not_le fun short => bad ⟨List.all_eq_true.mp digits, short⟩
    have nonempty : field ≠ [] := by
      intro empty
      subst empty
      cases long
    simp [required, number?, nonempty, digits, Numeral.read, long, Except.toOption]
  · simp [required, number?, digits]

namespace Term

/-- The number of dice. A missing amount is one. -/
def amountValue (term : Term) : Nat :=
  if term.amount = [] then 1 else Numeral.value term.amount

/-- The letters and digits of the modifier, without its operator. -/
def modifierRun (term : Term) : Text :=
  match term.modifier with
  | some (_, run) => run
  | none => []

/-- The number that the modifier denotes. Only a minus makes it negative. -/
def modifierValue (term : Term) : Int :=
  match term.modifier with
  | some (operator, run) =>
    if operator = CodePoint.ofChar '-' then -(Numeral.value run : Int) else Numeral.value run
  | none => 0

end Term

theorem amountOf_eq (term : Term) :
    amountOf term.amount =
      if term.amount = [] ∨ IsNumber term.amount then .ok term.amountValue else .error .amount := by
  by_cases empty : term.amount = []
  · simp [amountOf, Term.amountValue, empty]
  · by_cases isNumber : IsNumber term.amount
    · simp [amountOf, Term.amountValue, empty, isNumber, required_of_isNumber]
    · simp [amountOf, empty, isNumber, required_of_not_isNumber]

theorem modifierOf_eq {term : Term}
    (nonempty : ∀ operator run, term.modifier = some (operator, run) → run ≠ []) :
    modifierOf term.modifier =
      if IsNumber term.modifierRun then .ok term.modifierValue else .error .modifier := by
  cases found : term.modifier with
  | none => simp [modifierOf, Term.modifierRun, Term.modifierValue, found, IsNumber]
  | some part =>
    obtain ⟨operator, run⟩ := part
    by_cases isNumber : IsNumber run
    · simp [modifierOf, Term.modifierRun, Term.modifierValue, found, isNumber,
        required_of_isNumber .modifier (nonempty operator run found), Except.map]
    · simp [modifierOf, Term.modifierRun, found, isNumber, required_of_not_isNumber, Except.map]

/-- What parsing gives for a term: the number in each field, or the first field without one. -/
def Term.specification (query : Text) (term : Term) : Except Failure Specification :=
  if ¬ IsNumber term.sides ∨ Numeral.value term.sides = 0 then .error .sides
  else if term.amount ≠ [] ∧ ¬ IsNumber term.amount then .error .amount
  else if ¬ IsNumber term.modifierRun then .error .modifier
  else .ok
    { query, amount := term.amountValue, sides := Numeral.value term.sides
      modifier := term.modifierValue }

private theorem parse_of_find? {query : Text} {term : Term} (found : Term.find? query = some term)
    (sidesNonempty : term.sides ≠ [])
    (modifierNonempty : ∀ operator run, term.modifier = some (operator, run) → run ≠ []) :
    parse query = term.specification query := by
  rw [parse, found, Term.specification]
  simp only [amountOf_eq, modifierOf_eq modifierNonempty]
  -- The first field without a number ends the parsing, so the cases are split in the order of checks.
  by_cases sides : IsNumber term.sides
  · rw [required_of_isNumber .sides sidesNonempty sides]
    by_cases zero : Numeral.value term.sides = 0
    · simp [bind, Except.bind, throw, throwThe, MonadExceptOf.throw, zero]
    · by_cases amount : term.amount = [] ∨ IsNumber term.amount
      · have amountPasses : ¬ (term.amount ≠ [] ∧ ¬ IsNumber term.amount) := by
          rintro ⟨nonempty, bad⟩
          exact amount.elim nonempty bad
        rw [if_pos amount, if_neg (not_or.mpr ⟨not_not.mpr sides, zero⟩), if_neg amountPasses]
        by_cases isNumber : IsNumber term.modifierRun
        · rw [if_pos isNumber, if_neg (not_not.mpr isNumber)]
          simp [bind, Except.bind, pure, Except.pure, zero]
        · rw [if_neg isNumber, if_pos isNumber]
          simp [bind, Except.bind, zero]
      · have amountFails : term.amount ≠ [] ∧ ¬ IsNumber term.amount := not_or.mp amount
        simp [bind, Except.bind, sides, zero, amountFails]
  · rw [required_of_not_isNumber .sides sides]
    simp [bind, Except.bind, sides]

theorem parse_of_isFirstTerm {query : Text} {p : Nat} (first : IsFirstTerm query p) :
    parse query = (Term.around query p).specification query := by
  have matched := Term.around_matches first
  refine parse_of_find? ?_ ?_ fun operator run taken => (matched.modifier operator run taken).2.1
  · rw [Term.find?_eq, firstTerm?_eq_some_iff.mpr first, Option.map_some]
  · intro empty
    have digit := matched.sidesDigit
    rw [empty] at digit
    cases digit

theorem parse_of_no_term {query : Text} (missing : ∀ p, ¬ StartsTerm query p) :
    parse query = .error .format := by
  have none : firstTerm? query = none := by
    cases found : firstTerm? query with
    | none => rfl
    | some p => exact absurd (firstTerm?_eq_some found).1 (missing p)
  rw [parse, Term.find?_eq, none]
  rfl

private theorem specification_ne_format (query : Text) (term : Term) :
    term.specification query ≠ .error .format := by
  unfold Term.specification
  split
  · simp
  · split
    · simp
    · split <;> simp

private theorem exists_isFirstTerm {query : Text} {p : Nat} (starts : StartsTerm query p) :
    ∃ first, IsFirstTerm query first := by
  cases found : firstTerm? query with
  | none => exact absurd starts (firstTerm?_eq_none found p)
  | some first => exact ⟨first, firstTerm?_eq_some found⟩

/-- The bounds that parsing puts on what it reads. -/
structure Specification.InRange (spec : Specification) : Prop where
  amountNonneg : 0 ≤ spec.amount
  amount : spec.amount.natAbs < 10 ^ Numeral.digitLimit
  sidesPositive : 1 ≤ spec.sides
  sides : spec.sides.natAbs < 10 ^ Numeral.digitLimit
  modifier : spec.modifier.natAbs < 10 ^ Numeral.digitLimit

theorem IsNumber.value_lt {field : Text} (isNumber : IsNumber field) :
    Numeral.value field < 10 ^ Numeral.digitLimit :=
  Nat.lt_of_lt_of_le (Numeral.value_lt field) (Nat.pow_le_pow_right (by decide) isNumber.2)

private theorem amountValue_lt {term : Term} (passes : term.amount ≠ [] → IsNumber term.amount) :
    term.amountValue < 10 ^ Numeral.digitLimit := by
  unfold Term.amountValue
  split
  · exact Nat.one_lt_pow (by decide) (by decide)
  · rename_i nonempty
    exact (passes nonempty).value_lt

private theorem natAbs_modifierValue_lt {term : Term} (isNumber : IsNumber term.modifierRun) :
    term.modifierValue.natAbs < 10 ^ Numeral.digitLimit := by
  have bound := isNumber.value_lt
  unfold Term.modifierRun at bound
  unfold Term.modifierValue
  split
  · rename_i operator run taken
    rw [taken] at bound
    split
    · rw [Int.natAbs_neg, Int.natAbs_natCast]
      exact bound
    · exact bound
  · exact Nat.pow_pos (by decide)

/-- Each field of a term that gives a specification is a number. -/
theorem Term.specification_eq_ok_iff {query : Text} {term : Term} {spec : Specification} :
    term.specification query = .ok spec ↔
      (IsNumber term.sides ∧ Numeral.value term.sides ≠ 0) ∧
      (term.amount ≠ [] → IsNumber term.amount) ∧ IsNumber term.modifierRun ∧
      spec = ⟨query, term.amountValue, Numeral.value term.sides, term.modifierValue⟩ := by
  unfold Term.specification
  split
  · rename_i sides
    apply iff_of_false (by simp)
    rintro ⟨⟨isNumber, nonzero⟩, -⟩
    exact sides.elim (fun bad => bad isNumber) nonzero
  · rename_i sides
    obtain ⟨isNumber, nonzero⟩ := not_or.mp sides
    split
    · rename_i amount
      apply iff_of_false (by simp)
      rintro ⟨-, passes, -⟩
      exact amount.2 (passes amount.1)
    · rename_i amount
      split
      · rename_i modifier
        apply iff_of_false (by simp)
        rintro ⟨-, -, passes, -⟩
        exact modifier passes
      · rename_i modifier
        rw [Except.ok.injEq, eq_comm]
        have passes : (IsNumber term.sides ∧ Numeral.value term.sides ≠ 0) ∧
            (term.amount ≠ [] → IsNumber term.amount) ∧ IsNumber term.modifierRun :=
          ⟨⟨not_not.mp isNumber, nonzero⟩, fun nonempty => not_not.mp fun bad => amount ⟨nonempty, bad⟩,
            not_not.mp modifier⟩
        exact ⟨fun same => ⟨passes.1, passes.2.1, passes.2.2, same⟩, fun all => all.2.2.2⟩

/-- What is parsed is the specification of the first term. -/
theorem exists_of_parse {query : Text} {spec : Specification} (parsed : parse query = .ok spec) :
    ∃ p, IsFirstTerm query p ∧ (Term.around query p).specification query = .ok spec := by
  cases found : firstTerm? query with
  | none =>
    rw [parse_of_no_term (firstTerm?_eq_none found)] at parsed
    cases parsed
  | some p =>
    have first := firstTerm?_eq_some found
    rw [parse_of_isFirstTerm first] at parsed
    exact ⟨p, first, parsed⟩

theorem inRange_of_parse {query : Text} {spec : Specification} (parsed : parse query = .ok spec) :
    spec.InRange := by
  obtain ⟨p, -, given⟩ := exists_of_parse parsed
  obtain ⟨⟨sides, nonzero⟩, amount, modifier, rfl⟩ := Term.specification_eq_ok_iff.mp given
  have sidesPositive : 1 ≤ (Numeral.value (Term.around query p).sides : Int) := by omega
  exact ⟨Int.natCast_nonneg _, amountValue_lt amount, sidesPositive, sides.value_lt,
    natAbs_modifierValue_lt modifier⟩

/-- What is parsed keeps the text that it came from. -/
theorem query_of_parse {query : Text} {spec : Specification} (parsed : parse query = .ok spec) :
    spec.query = query := by
  obtain ⟨p, -, given⟩ := exists_of_parse parsed
  obtain ⟨-, -, -, rfl⟩ := Term.specification_eq_ok_iff.mp given
  rfl

/-- Parsing fails in the format exactly if no `d` stands before a digit. Otherwise the fields
around the first such `d` are what a search for the pattern of a term captures, they are preferred
to all else that the pattern matches, and sides, amount and modifier are checked in this order. -/
theorem parse_outcome (query : Text) :
    (parse query = .error .format ↔ ∀ p, ¬ StartsTerm query p) ∧
    ∀ p, IsFirstTerm query p →
      let term := Term.around query p
      let start := Term.start query p
      (∃ rest, Term.pattern.search query = some (start, ⟨term.written, term.captures, rest⟩)) ∧
      term.Matches query start ∧
      (∀ place way, way ∈ Term.pattern.ways (query.drop place) →
        ∃ other, Term.Matches query place other ∧ way.taken = other.written ∧
          way.groups = other.captures ∧ Term.Preferred start term place other) ∧
      parse query =
        if ¬ IsNumber term.sides ∨ Numeral.value term.sides = 0 then .error .sides
        else if term.amount ≠ [] ∧ ¬ IsNumber term.amount then .error .amount
        else if ¬ IsNumber term.modifierRun then .error .modifier
        else .ok
          { query, amount := term.amountValue, sides := Numeral.value term.sides
            modifier := term.modifierValue } := by
  constructor
  · constructor
    · intro failed p starts
      obtain ⟨first, isFirst⟩ := exists_isFirstTerm starts
      rw [parse_of_isFirstTerm isFirst] at failed
      exact specification_ne_format query _ failed
    · exact parse_of_no_term
  · intro p first
    refine ⟨?search, Term.around_matches first, ?preferred, parse_of_isFirstTerm first⟩
    case search =>
      have found := search_pattern query
      rw [firstTerm?_eq_some_iff.mpr first, Option.map_some] at found
      exact ⟨_, found⟩
    case preferred =>
      intro place way member
      obtain ⟨other, matched, written, captures⟩ := matches_of_mem_ways member
      exact ⟨other, matched, written, captures, Term.around_preferred first matched⟩

example : Term.find? "dd1d6d6" = some ⟨"d", "1d6d6", none⟩ := by decide +kernel

end ChatDice.Dice
