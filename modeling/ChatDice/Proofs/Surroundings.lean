import ChatDice.Proofs.Parsing

/-!
Terms between other text. Whatever stands before and after it, a term is read alike, as long as
neither neighbour is a letter or a digit of ASCII; and next to a term that is read there never is
one. Nothing else is asked of the neighbours: an underscore or a letter of another script is passed
over like a blank.
-/

namespace ChatDice.Dice

namespace Term

/-- Digits alone in every field. -/
structure Numeric (term : Term) : Prop where
  amount : ∀ c ∈ term.amount, c.isDigit = true
  sides : ∀ c ∈ term.sides, c.isDigit = true
  sidesNonempty : term.sides ≠ []
  modifier : ∀ operator run, term.modifier = some (operator, run) →
    operator ∈ operators ∧ run ≠ [] ∧ ∀ c ∈ run, c.isDigit = true

/-- Text around a term that holds no earlier term and goes on with none of its fields. -/
structure Between (term : Term) (front back : Text) : Prop where
  noTerm : ∀ p, ¬ StartsTerm front p
  apartBefore : ∀ c ∈ front.getLast?, c.isAlphanumeric = false
  apartAfter : ∀ c ∈ back.head?, c.isAlphanumeric = false
  noModifier : term.modifier = none → ∀ operator c rest, back = operator :: c :: rest →
    operator ∈ operators → c.isAlphanumeric = false

/-- The code points right before and right after the term around a `d`. -/
def neighbours (query : Text) (p : Nat) : Text :=
  (query.take (start query p)).getLast?.toList ++
    (query.drop (start query p + (around query p).written.length)).head?.toList

variable {term : Term} {front back : Text}

theorem isAlphanumeric_of_digits {run : Text} (digits : ∀ c ∈ run, c.isDigit = true) :
    ∀ c ∈ run, c.isAlphanumeric = true :=
  fun c member => isAlphanumeric_of_isDigit c (digits c member)

theorem not_isAlphanumeric_of_mem_operators {c : CodePoint} (isOp : c ∈ operators) :
    c.isAlphanumeric = false := by
  have all : operators.all fun c => !c.isAlphanumeric := by decide
  simpa using List.all_eq_true.mp all c isOp

theorem modifierAt_append (numeric : term.Numeric) (between : term.Between front back) :
    modifierAt (term.modifierText ++ back) = term.modifier := by
  cases found : term.modifier with
  | none =>
    rw [modifierText, found, List.nil_append]
    cases back with
    | nil => rfl
    | cons operator rest =>
      cases rest with
      | nil => simp [modifierAt]
      | cons c rest =>
        have stops := between.noModifier found operator c rest rfl
        rw [mem_operators_iff] at stops
        by_cases isOp : isOperator operator = true
        · simp [modifierAt, stops isOp]
        · simp [modifierAt, isOp]
  | some part =>
    obtain ⟨operator, run⟩ := part
    obtain ⟨isOp, nonempty, digits⟩ := numeric.modifier operator run found
    have whole := Text.takeWhile_of_stops (isAlphanumeric_of_digits digits) between.apartAfter
    rw [modifierText, found, List.cons_append, modifierAt]
    simp [whole, mem_operators_iff.mp isOp, nonempty]

/-- Neither a modifier nor the text after the term goes on with the sides. -/
theorem stops_sides (numeric : term.Numeric) (between : term.Between front back) :
    ∀ c ∈ (term.modifierText ++ back).head?, c.isAlphanumeric = false := by
  cases found : term.modifier with
  | none =>
    rw [modifierText, found, List.nil_append]
    exact between.apartAfter
  | some part =>
    obtain ⟨operator, run⟩ := part
    rw [modifierText, found, List.cons_append]
    intro c first
    cases first
    exact not_isAlphanumeric_of_mem_operators (numeric.modifier operator run found).1

theorem around_between (numeric : term.Numeric) (between : term.Between front back) :
    around (front ++ (term.written ++ back)) (front.length + term.amount.length) = term := by
  have place : (front ++ term.amount).length = front.length + term.amount.length :=
    List.length_append
  have split : front ++ (term.written ++ back) = (front ++ term.amount) ++
      CodePoint.ofChar 'd' :: (term.sides ++ (term.modifierText ++ back)) := by
    simp [written]
  have inside := isAlphanumeric_of_digits numeric.amount
  have sides := isAlphanumeric_of_digits numeric.sides
  have stops := stops_sides numeric between
  rw [around_eq, split, ← place, List.take_left, ← List.drop_drop, List.drop_left,
    List.drop_succ_cons, List.drop_zero, Text.rtakeWhile_of_stops inside between.apartBefore, after,
    Text.takeWhile_of_stops sides stops, Text.dropWhile_of_stops sides stops,
    modifierAt_append numeric between]

/-- Neither the text before a term nor its amount holds an earlier term. -/
theorem isFirstTerm_between (numeric : term.Numeric) (between : term.Between front back) :
    IsFirstTerm (front ++ (term.written ++ back)) (front.length + term.amount.length) := by
  have split : front ++ (term.written ++ back) = (front ++ term.amount) ++
      CodePoint.ofChar 'd' :: (term.sides ++ (term.modifierText ++ back)) := by
    simp [written]
  rw [split, ← List.length_append]
  constructor
  · apply startsTerm_of_drop List.drop_left
    obtain ⟨c, run, sides⟩ := List.exists_cons_of_ne_nil numeric.sidesNonempty
    rw [sides]
    exact numeric.sides c (sides ▸ List.mem_cons_self ..)
  · rintro j early ⟨letter, c, next, digit⟩
    rw [List.getElem?_append_left early] at letter
    by_cases inAmount : front.length ≤ j
    · -- Inside of the amount there are digits, and a `d` is none.
      rw [List.getElem?_append_right inAmount] at letter
      have isDigit := numeric.amount _ (List.mem_of_getElem? letter)
      cases isDigit
    · have inFront : j < front.length := Nat.lt_of_not_le inAmount
      rw [List.getElem?_append_left inFront] at letter
      by_cases last : j + 1 = front.length
      · have atEnd : front.getLast? = some (CodePoint.ofChar 'd') := by
          rw [List.getLast?_eq_getElem?, ← last]
          exact letter
        have apart := between.apartBefore _ atEnd
        cases apart
      · have further : j + 1 < front.length := by omega
        rw [List.append_assoc, List.getElem?_append_left further] at next
        exact between.noTerm j ⟨letter, c, next, digit⟩

theorem parse_between (numeric : term.Numeric) (between : term.Between front back) :
    parse (front ++ (term.written ++ back)) =
      term.specification (front ++ (term.written ++ back)) := by
  rw [parse_of_isFirstTerm (isFirstTerm_between numeric between), around_between numeric between]

/-- What stands behind the sides is the modifier and text that does not go on with the term. -/
private theorem exists_back {t : Text} (stops : ∀ c ∈ t.head?, c.isAlphanumeric = false)
    (modifier : term.modifier = modifierAt t) :
    ∃ back, t = term.modifierText ++ back ∧ (∀ c ∈ back.head?, c.isAlphanumeric = false) ∧
      (term.modifier = none → ∀ operator c rest, back = operator :: c :: rest →
        operator ∈ operators → c.isAlphanumeric = false) := by
  cases found : term.modifier with
  | none =>
    refine ⟨t, by rw [modifierText, found, List.nil_append], stops, ?_⟩
    rintro - operator c rest rfl isOp
    apply Bool.eq_false_iff.mpr
    intro inside
    rw [found, modifierAt] at modifier
    simp [mem_operators_iff.mp isOp, inside] at modifier
  | some part =>
    obtain ⟨operator, run⟩ := part
    cases t with
    | nil => rw [found] at modifier; cases modifier
    | cons c rest =>
      rw [found, modifierAt] at modifier
      split at modifier
      · cases modifier
        refine ⟨rest.dropWhile CodePoint.isAlphanumeric, ?_,
          Text.stops_dropWhile CodePoint.isAlphanumeric rest, by simp⟩
        rw [modifierText, found, List.cons_append, List.takeWhile_append_dropWhile]
      · cases modifier

/-- The first term of a query stands between texts that go on with none of its fields. -/
theorem exists_between {query : Text} {p : Nat} (first : IsFirstTerm query p) :
    ∃ front back, query = front ++ ((around query p).written ++ back) ∧
      front.length = start query p ∧ (around query p).Between front back := by
  obtain ⟨⟨letter, digit⟩, noEarlier⟩ := first
  obtain ⟨inside, isD⟩ := List.getElem?_eq_some_iff.mp letter
  obtain ⟨back, behind, apartAfter, noModifier⟩ :=
    exists_back (Text.stops_dropWhile CodePoint.isAlphanumeric (query.drop (p + 1)))
      (congrArg Term.modifier (around_eq query p))
  let front := (query.take p).rdropWhile CodePoint.isAlphanumeric
  have amount : front ++ (around query p).amount = query.take p :=
    List.rdropWhile_append_rtakeWhile
  have sides : (around query p).sides ++ (query.drop (p + 1)).dropWhile CodePoint.isAlphanumeric =
      query.drop (p + 1) := List.takeWhile_append_dropWhile
  have whole : query = front ++ ((around query p).written ++ back) :=
    calc
      query = query.take p ++ query.drop p := (List.take_append_drop p query).symm
      _ = query.take p ++ CodePoint.ofChar 'd' :: query.drop (p + 1) := by
        rw [List.drop_eq_getElem_cons inside, isD]
      _ = (front ++ (around query p).amount) ++ CodePoint.ofChar 'd' ::
          ((around query p).sides ++ ((around query p).modifierText ++ back)) := by
        rw [amount, ← behind, sides]
      _ = front ++ ((around query p).written ++ back) := by simp [written]
  have length : front.length = start query p := by
    have both := congrArg List.length amount
    rw [List.length_append, List.length_take_of_le (Nat.le_of_lt inside)] at both
    rw [start]
    omega
  refine ⟨front, back, whole, length, ?noTerm, Text.stops_rdropWhile _ _, apartAfter, noModifier⟩
  rintro j ⟨early, c, next, isDigit⟩
  have inFront := (List.getElem?_eq_some_iff.mp early).1
  have inQuery {i : Nat} {c : CodePoint} (found : front[i]? = some c) : query[i]? = some c := by
    rw [whole, List.getElem?_append_left (List.getElem?_eq_some_iff.mp found).1]
    exact found
  have before : j < p := Nat.lt_of_lt_of_le (length ▸ inFront) (Nat.sub_le p _)
  exact noEarlier j before ⟨inQuery early, c, inQuery next, isDigit⟩

theorem numeric_of_specification {query : Text} {p : Nat} {spec : Specification}
    (first : IsFirstTerm query p) (given : (around query p).specification query = .ok spec) :
    (around query p).Numeric := by
  obtain ⟨⟨sides, -⟩, amount, modifier, -⟩ := specification_eq_ok_iff.mp given
  have matched := around_matches first
  refine ⟨?amount, sides.1, ?nonempty, ?modifier⟩
  case amount =>
    intro c member
    exact (amount (List.ne_nil_of_mem member)).1 c member
  case nonempty =>
    intro empty
    have digit := matched.sidesDigit
    rw [empty] at digit
    cases digit
  case modifier =>
    intro operator run taken
    obtain ⟨isOp, nonempty, -⟩ := matched.modifier operator run taken
    rw [modifierRun, taken] at modifier
    exact ⟨isOp, nonempty, modifier.1⟩

theorem specification_congr {query other : Text} {spec : Specification}
    (given : term.specification query = .ok spec) :
    term.specification other = .ok { spec with query := other } := by
  obtain ⟨sides, amount, modifier, rfl⟩ := specification_eq_ok_iff.mp given
  exact specification_eq_ok_iff.mpr ⟨sides, amount, modifier, rfl⟩

theorem neighbours_between (numeric : term.Numeric) (between : term.Between front back) :
    neighbours (front ++ (term.written ++ back)) (front.length + term.amount.length) =
      front.getLast?.toList ++ back.head?.toList := by
  rw [neighbours, start, around_between numeric between, Nat.add_sub_cancel, List.take_left,
    ← List.drop_drop, List.drop_left, List.drop_left]

/-- A code point that is no letter and no digit of ASCII may touch a term. -/
theorem Numeric.touched {query : Text} {spec : Specification} (numeric : term.Numeric)
    (given : term.specification query = .ok spec) {c d : CodePoint}
    (apartBefore : c.isAlphanumeric = false) (apartAfter : d.isAlphanumeric = false) :
    let other := c :: (term.written ++ [d])
    let place := 1 + term.amount.length
    parse other = .ok { spec with query := other } ∧ IsFirstTerm other place ∧
      around other place = term ∧ neighbours other place = [c, d] := by
  intro other place
  have between : term.Between [c] [d] := by
    refine ⟨?_, by simpa using apartBefore, by simpa using apartAfter, by simp⟩
    rintro j ⟨-, digit, next, -⟩
    have noNext : [c][j + 1]? = none := by simp
    rw [noNext] at next
    cases next
  have shape : [c] ++ (term.written ++ [d]) = other := List.singleton_append
  have length : [c].length + term.amount.length = place := rfl
  have reparsed := parse_between numeric between
  have first := isFirstTerm_between numeric between
  have same := around_between numeric between
  have touching := neighbours_between numeric between
  rw [shape] at reparsed first same touching
  rw [length] at first same touching
  exact ⟨reparsed.trans (specification_congr given), first, same, touching⟩

end Term

/-- Next to the term of a query that parses there is no letter and no digit of ASCII; but any other
two code points can stand there, and nothing tells that they were passed over. -/
theorem neighbours_of_parse {query : Text} {spec : Specification} (parsed : parse query = .ok spec) :
    ∃ p, IsFirstTerm query p ∧
      let term := Term.around query p
      (query.drop (Term.start query p)).take term.written.length = term.written ∧
      (∀ c ∈ Term.neighbours query p, c.isAlphanumeric = false) ∧
      ∀ c d, c.isAlphanumeric = false → d.isAlphanumeric = false →
        let other := c :: (term.written ++ [d])
        let place := 1 + term.amount.length
        parse other = .ok { spec with query := other } ∧ IsFirstTerm other place ∧
          Term.around other place = term ∧ Term.neighbours other place = [c, d] := by
  obtain ⟨p, first, given⟩ := exists_of_parse parsed
  have numeric := Term.numeric_of_specification first given
  obtain ⟨front, back, whole, length, between⟩ := Term.exists_between first
  have place : front.length + (Term.around query p).amount.length = p := by
    have within := Term.length_amount_around_le query p
    rw [length, Term.start]
    omega
  refine ⟨p, first, ?written, ?neighbours, fun c d => numeric.touched given⟩
  case written =>
    have behind : query.drop front.length = (Term.around query p).written ++ back :=
      (congrArg (List.drop front.length) whole).trans List.drop_left
    rw [← length, behind, List.take_left]
  case neighbours =>
    have touching := Term.neighbours_between numeric between
    rw [← whole, place] at touching
    rw [touching]
    intro c member
    rcases List.mem_append.mp member with last | next
    · exact between.apartBefore c (Option.mem_toList.mp last)
    · exact between.apartAfter c (Option.mem_toList.mp next)

/-- The modifier of a notation is followed by an underscore and another digit. -/
theorem neighbours_of_parse_underscore :
    parse "2d6-1_5" = .ok ⟨"2d6-1_5", 2, 6, -1⟩ ∧
    ∃ p, IsFirstTerm "2d6-1_5" p ∧
      ∀ c ∈ Term.neighbours "2d6-1_5" p, c.isAlphanumeric = false := by
  have parsed : parse "2d6-1_5" = .ok ⟨"2d6-1_5", 2, 6, -1⟩ := by decide +kernel
  obtain ⟨p, first, -, apart, -⟩ := neighbours_of_parse parsed
  exact ⟨parsed, p, first, apart⟩

/-- Ten dice whose number is written with a separator are read as no dice at all, and a letter of
another script touches a term that parses. -/
theorem not_reported_underscore :
    (parse "1_0d6" = .ok ⟨"1_0d6", 0, 6, 0⟩ ∧ IsFirstTerm "1_0d6" 3 ∧
      CodePoint.ofChar '_' ∈ Term.neighbours "1_0d6" 3) ∧
    parse "2d6é" = .ok ⟨"2d6é", 2, 6, 0⟩ ∧ IsFirstTerm "2d6é" 1 ∧
      CodePoint.ofChar 'é' ∈ Term.neighbours "2d6é" 1 := by
  refine ⟨⟨by decide +kernel, firstTerm?_eq_some (by decide), by decide⟩, by decide +kernel,
    firstTerm?_eq_some (by decide), by decide⟩

/-- A number of permitted length, and the least width to which its numeral is filled up with zeros. -/
structure Figure where
  number : Nat
  width : Nat
  number_lt : number < 10 ^ Numeral.digitLimit
  width_le : width ≤ Numeral.digitLimit

namespace Figure

def text (figure : Figure) : Text := Numeral.padded figure.width figure.number

theorem text_ne_nil (figure : Figure) : figure.text ≠ [] := Numeral.padded_ne_nil _ _

theorem isNumber_text (figure : Figure) : IsNumber figure.text := by
  refine ⟨Numeral.isDigit_padded _ _, ?_⟩
  rw [text, Numeral.length_padded]
  exact max_le figure.width_le ((Numeral.length_ofNat_le_iff (by decide)).mpr figure.number_lt)

theorem value_text (figure : Figure) : Numeral.value figure.text = figure.number :=
  Numeral.value_padded _ _

end Figure

/-- What a notation is written from. -/
structure Writing where
  amount : Option Figure
  sides : Figure
  modifier : Option (CodePoint × Figure)
  sidesPositive : 1 ≤ sides.number
  operator : ∀ part ∈ modifier, part.1 ∈ operators

namespace Writing

def text (writing : Writing) : Text :=
  writing.amount.elim [] Figure.text ++ CodePoint.ofChar 'd' :: (writing.sides.text ++
    writing.modifier.elim [] fun part => part.1 :: part.2.text)

/-- What a notation asks for. A missing amount is one, a missing modifier zero, and only a minus
makes the modifier negative. -/
def specification (writing : Writing) (query : Text) : Specification :=
  { query
    amount := writing.amount.elim 1 fun figure => (figure.number : Int)
    sides := writing.sides.number
    modifier := writing.modifier.elim 0 fun part =>
      if part.1 = CodePoint.ofChar '-' then -(part.2.number : Int) else part.2.number }

def term (writing : Writing) : Term :=
  { amount := writing.amount.elim [] Figure.text
    sides := writing.sides.text
    modifier := writing.modifier.map fun part => (part.1, part.2.text) }

variable (writing : Writing)

theorem written_term : writing.term.written = writing.text := by
  rw [Term.written, Term.modifierText, term, text]
  cases writing.modifier <;> rfl

theorem numeric_term : writing.term.Numeric := by
  refine ⟨?amount, writing.sides.isNumber_text.1, writing.sides.text_ne_nil, ?modifier⟩
  case amount =>
    rw [term]
    cases writing.amount with
    | none => simp
    | some figure => exact figure.isNumber_text.1
  case modifier =>
    intro operator run taken
    obtain ⟨⟨sign, figure⟩, found, same⟩ := Option.map_eq_some_iff.mp taken
    cases same
    exact ⟨writing.operator _ found, figure.text_ne_nil, figure.isNumber_text.1⟩

theorem specification_term (query : Text) :
    writing.term.specification query = .ok (writing.specification query) := by
  apply Term.specification_eq_ok_iff.mpr
  have positive := writing.sidesPositive
  refine ⟨⟨writing.sides.isNumber_text, ?sides⟩, ?amount, ?modifier, ?numbers⟩
  case sides =>
    rw [term, Figure.value_text]
    omega
  case amount =>
    rw [term]
    cases writing.amount with
    | none => simp
    | some figure => exact fun _ => figure.isNumber_text
  case modifier =>
    rw [Term.modifierRun, term]
    cases writing.modifier with
    | none => simp [IsNumber]
    | some part => exact part.2.isNumber_text
  case numbers =>
    have amount : (writing.term.amountValue : Int) =
        writing.amount.elim 1 fun figure => (figure.number : Int) := by
      rw [Term.amountValue, term]
      cases writing.amount with
      | none => rfl
      | some figure => simp [figure.text_ne_nil, figure.value_text]
    have modifier : writing.term.modifierValue = writing.modifier.elim 0 fun part =>
        if part.1 = CodePoint.ofChar '-' then -(part.2.number : Int) else part.2.number := by
      rw [Term.modifierValue, term]
      cases writing.modifier with
      | none => rfl
      | some part => simp [part.2.value_text]
    rw [specification, amount, modifier, term, Figure.value_text]

end Writing

/-- A notation is read as it was written in any text that does not go on with it and does not hold
an earlier term. -/
theorem parse_written (writing : Writing) {front back : Text}
    (between : writing.term.Between front back) :
    let query := front ++ (writing.text ++ back)
    parse query = .ok (writing.specification query) := by
  intro query
  have parsed := Term.parse_between writing.numeric_term between
  rw [writing.written_term] at parsed
  rw [parsed, writing.specification_term]

/-- A notation filled up with zeros, behind a `d` that starts no term and before a second term. -/
theorem parse_written_zeros :
    (∀ p, ¬ StartsTerm "add d_" p) ∧
    parse "add d_002d6-01_7 1d4" = .ok ⟨"add d_002d6-01_7 1d4", 2, 6, -1⟩ := by
  let writing : Writing :=
    { amount := some ⟨2, 3, by decide +kernel, by decide⟩
      sides := ⟨6, 0, by decide +kernel, by decide⟩
      modifier := some (CodePoint.ofChar '-', ⟨1, 2, by decide +kernel, by decide⟩)
      sidesPositive := by decide
      operator := by
        intro part member
        cases member
        decide }
  have noTerm : ∀ p, ¬ StartsTerm "add d_" p := firstTerm?_eq_none (by decide)
  have last : (Text.ofString "add d_").getLast? = some (CodePoint.ofChar '_') := by decide
  have next : (Text.ofString "_7 1d4").head? = some (CodePoint.ofChar '_') := by decide
  have apart : ∀ c ∈ some (CodePoint.ofChar '_'), c.isAlphanumeric = false := by
    intro c same
    cases same
    decide
  have between : writing.term.Between "add d_" "_7 1d4" :=
    ⟨noTerm, last ▸ apart, next ▸ apart, by simp [writing, Writing.term]⟩
  have parsed := parse_written writing between
  have query : Text.ofString "add d_" ++ (writing.text ++ "_7 1d4") = "add d_002d6-01_7 1d4" := by
    decide +kernel
  rw [query] at parsed
  exact ⟨noTerm, parsed⟩

end ChatDice.Dice
