import ChatDice.Proofs.Grammar

/-!
What counts as a term in a query, and which of several is preferred. The fields around the first
`d` before a digit make a term, and it is preferred to every other one.
-/

namespace ChatDice.Dice

/-- A term with well-formed fields that is written at a place of a query. -/
structure Term.Matches (query : Text) (start : Nat) (term : Term) : Prop where
  amount : ∀ c ∈ term.amount, c.isAlphanumeric = true
  sidesDigit : startsWithDigit term.sides = true
  sides : ∀ c ∈ term.sides, c.isAlphanumeric = true
  modifier : ∀ operator run, term.modifier = some (operator, run) →
    operator ∈ operators ∧ run ≠ [] ∧ ∀ c ∈ run, c.isAlphanumeric = true
  written : term.written <+: query.drop start

/-- An earlier start is preferred, then a shorter amount, then longer sides, then a modifier and
the longer one. -/
def Term.Preferred (start : Nat) (term : Term) (otherStart : Nat) (other : Term) : Prop :=
  start < otherStart ∨ start = otherStart ∧
    (term.amount.length < other.amount.length ∨ term.amount.length = other.amount.length ∧
      (other.sides.length < term.sides.length ∨ other.sides.length = term.sides.length ∧
        other.modifierText.length ≤ term.modifierText.length))

private theorem sides_of_mem {t : Text} {way : Pattern.Way} (member : way ∈ Term.sidesPattern.ways t) :
    startsWithDigit way.taken = true ∧ (∀ c ∈ way.taken, c.isAlphanumeric = true) ∧
      way.groups = [(Text.ofString "sides", way.taken)] := by
  obtain ⟨inner, innerMember, taken, groups⟩ := Pattern.mem_ways_group member
  obtain ⟨before, beforeMember, after, afterMember, same⟩ := Pattern.mem_ways_andThen innerMember
  obtain ⟨digit, isDigit, takenDigit, noGroups⟩ := Pattern.mem_ways_one beforeMember
  obtain ⟨inside, noFurther⟩ := Pattern.mem_ways_greedily afterMember
  subst inner
  rw [taken, groups]
  simp only [Pattern.Way.followedBy, takenDigit, noGroups, noFurther, List.singleton_append,
    List.nil_append, and_true]
  exact ⟨isDigit, List.forall_mem_cons.mpr ⟨isAlphanumeric_of_isDigit digit isDigit, inside⟩⟩

private theorem modifier_of_mem {t : Text} {way : Pattern.Way}
    (member : way ∈ Term.modifierPattern.ways t) (amount sides : Text) :
    ∃ modifier, (∀ operator run, modifier = some (operator, run) →
        operator ∈ operators ∧ run ≠ [] ∧ ∀ c ∈ run, c.isAlphanumeric = true) ∧
      way.taken = Term.modifierText { amount, sides, modifier } ∧
      way.groups = (Term.captures { amount, sides, modifier }).drop 2 := by
  rcases List.mem_append.mp member with taken | skipped
  · obtain ⟨inner, innerMember, taken, groups⟩ := Pattern.mem_ways_group taken
    obtain ⟨before, beforeMember, after, afterMember, same⟩ := Pattern.mem_ways_andThen innerMember
    obtain ⟨operator, isOp, takenOp, noGroups⟩ := Pattern.mem_ways_one beforeMember
    obtain ⟨start, startMember, rest, restMember, run⟩ := Pattern.mem_ways_andThen afterMember
    obtain ⟨c, accepted, takenFirst, noStart⟩ := Pattern.mem_ways_one startMember
    obtain ⟨inside, noRest⟩ := Pattern.mem_ways_greedily restMember
    subst inner after
    refine ⟨some (operator, c :: rest.taken), ?_, ?_, ?_⟩
    · intro other run found
      cases found
      exact ⟨of_decide_eq_true isOp, List.cons_ne_nil _ _,
        List.forall_mem_cons.mpr ⟨accepted, inside⟩⟩
    · rw [taken]
      simp [Pattern.Way.followedBy, takenOp, takenFirst, Term.modifierText]
    · rw [groups]
      simp [Pattern.Way.followedBy, takenOp, takenFirst, noGroups, noStart, noRest,
        Term.modifierText, Term.captures]
  · rw [List.mem_singleton] at skipped
    subst way
    exact ⟨none, by simp, rfl, rfl⟩

/-- Whatever the pattern of a term matches at a place of a query is a term there. -/
theorem matches_of_mem_ways {query : Text} {start : Nat} {way : Pattern.Way}
    (member : way ∈ Term.pattern.ways (query.drop start)) :
    ∃ term, Term.Matches query start term ∧ way.taken = term.written ∧ way.groups = term.captures := by
  obtain ⟨rest, whole⟩ : ∃ rest, way.taken ++ rest = query.drop start :=
    ⟨way.rest, Pattern.taken_append_rest member⟩
  obtain ⟨before, beforeMember, after, afterMember, same⟩ := Pattern.mem_ways_andThen member
  obtain ⟨inner, innerMember, amount, amountGroups⟩ := Pattern.mem_ways_group beforeMember
  obtain ⟨inside, noGroups⟩ := Pattern.mem_ways_lazily innerMember
  obtain ⟨letter, letterMember, fields, fieldsMember, both⟩ := Pattern.mem_ways_andThen afterMember
  obtain ⟨d, isD, takenD, noLetter⟩ := Pattern.mem_ways_one letterMember
  obtain ⟨sides, sidesMember, modifier, modifierMember, fieldsSame⟩ :=
    Pattern.mem_ways_andThen fieldsMember
  obtain ⟨digit, sidesInside, sidesGroups⟩ := sides_of_mem sidesMember
  obtain ⟨part, wellFormed, modifierTaken, modifierGroups⟩ :=
    modifier_of_mem modifierMember inner.taken sides.taken
  subst way after fields
  have taken : (before.followedBy (letter.followedBy (sides.followedBy modifier))).taken =
      Term.written { amount := inner.taken, sides := sides.taken, modifier := part } := by
    simp [Pattern.Way.followedBy, amount, takenD, of_decide_eq_true isD, modifierTaken, Term.written]
  have groups : (before.followedBy (letter.followedBy (sides.followedBy modifier))).groups =
      Term.captures { amount := inner.taken, sides := sides.taken, modifier := part } := by
    simp [Pattern.Way.followedBy, amountGroups, noGroups, noLetter, sidesGroups, modifierGroups,
      Term.captures]
  rw [taken] at whole
  exact ⟨_, ⟨inside, digit, sidesInside, wellFormed, ⟨rest, whole⟩⟩, taken, groups⟩

private theorem takeWhile_of_append {accepts : CodePoint → Bool} {run rest t : Text}
    (inside : ∀ c ∈ run, accepts c = true) (whole : t = run ++ rest) :
    t.takeWhile accepts = run ++ rest.takeWhile accepts := by
  subst t
  exact List.takeWhile_append_of_pos inside

/-- A run of letters and digits that ends right before the `d` belongs to the amount. -/
private theorem start_le {query : Text} {p place : Nat} (before : place ≤ p)
    (reaches : p ≤ query.length)
    (inside : ∀ c ∈ (query.take p).drop place, c.isAlphanumeric = true) :
    Term.start query p ≤ place := by
  have split : (query.take p).reverse =
      ((query.take p).drop place).reverse ++ ((query.take p).take place).reverse := by
    rw [← List.reverse_append, List.take_append_drop]
  have run := takeWhile_of_append (fun c member => inside c (List.mem_reverse.mp member)) split
  have length := congrArg List.length run
  rw [List.length_append, List.length_reverse, List.length_drop,
    List.length_take_of_le reaches] at length
  have amount : (Term.around query p).amount.length =
      ((query.take p).reverse.takeWhile CodePoint.isAlphanumeric).length := List.length_reverse
  rw [Term.start]
  omega

/-- What follows the amount of a match: its `d`, its sides, its modifier and any other text. -/
private theorem drop_of_matches {query : Text} {start : Nat} {term : Term}
    (matched : term.Matches query start) :
    ∃ rest, query.drop start =
      term.amount ++ CodePoint.ofChar 'd' :: (term.sides ++ (term.modifierText ++ rest)) := by
  obtain ⟨rest, whole⟩ := matched.written
  refine ⟨rest, ?_⟩
  rw [← whole, Term.written]
  simp

theorem drop_add_of_drop {query before rest : Text} {start : Nat}
    (whole : query.drop start = before ++ rest) : query.drop (start + before.length) = rest := by
  rw [← List.drop_drop, whole, List.drop_left]

theorem startsTerm_of_drop {query rest : Text} {p : Nat}
    (whole : query.drop p = CodePoint.ofChar 'd' :: rest) (digit : startsWithDigit rest = true) :
    StartsTerm query p := by
  have letter : query[p]? = some (CodePoint.ofChar 'd') := by
    rw [← List.head?_drop, whole, List.head?_cons]
  cases rest with
  | nil => cases digit
  | cons c rest =>
    have next : query[p + 1]? = some c := by
      rw [← List.getElem?_drop, whole]
      rfl
    exact ⟨letter, c, next, digit⟩

private theorem startsTerm_of_matches {query : Text} {start : Nat} {term : Term}
    (matched : term.Matches query start) : StartsTerm query (start + term.amount.length) := by
  obtain ⟨rest, whole⟩ := drop_of_matches matched
  refine startsTerm_of_drop (drop_add_of_drop whole) ?_
  have digit := matched.sidesDigit
  cases sides : term.sides with
  | nil => rw [sides] at digit; cases digit
  | cons c run =>
    rw [sides] at digit
    exact digit

private theorem start_le_of_matches {query : Text} {p start : Nat} {term : Term}
    (first : IsFirstTerm query p) (matched : term.Matches query start) :
    Term.start query p ≤ start := by
  have notLater : p ≤ start + term.amount.length :=
    Nat.le_of_not_lt fun below => first.2 _ below (startsTerm_of_matches matched)
  by_cases before : start ≤ p
  · obtain ⟨rest, whole⟩ := drop_of_matches matched
    refine start_le before (Nat.le_of_lt first.1.lt_length) ?_
    intro c member
    rw [List.drop_take, whole, List.take_append_of_le_length (by omega)] at member
    exact matched.amount c (List.mem_of_mem_take member)
  · exact Nat.le_trans (Nat.sub_le p _) (Nat.le_of_not_le before)

/-- A modifier is taken whenever possible, and its run as long as possible. -/
private theorem modifierText_le {term other : Term} {t rest : Text}
    (taken : term.modifier = modifierAt t) (whole : t = other.modifierText ++ rest)
    (modifier : ∀ operator run, other.modifier = some (operator, run) →
      operator ∈ operators ∧ run ≠ [] ∧ ∀ c ∈ run, c.isAlphanumeric = true) :
    other.modifierText.length ≤ term.modifierText.length := by
  cases found : other.modifier with
  | none => simp [Term.modifierText, found]
  | some part =>
    obtain ⟨operator, run⟩ := part
    obtain ⟨isOp, nonempty, inside⟩ := modifier operator run found
    have longest := takeWhile_of_append inside (rfl : run ++ rest = run ++ rest)
    subst t
    simp [Term.modifierText, found, taken, modifierAt, mem_operators_iff.mp isOp, longest, nonempty]

/-- What a search for the pattern of a term finds is one. -/
theorem Term.around_matches {query : Text} {p : Nat} (first : IsFirstTerm query p) :
    (Term.around query p).Matches query (Term.start query p) := by
  have found : Term.pattern.search query = some
      (Term.start query p, Term.way (query.drop (Term.start query p)) (Term.around query p)) := by
    rw [search_pattern, firstTerm?_eq_some_iff.mpr first, Option.map_some]
  have whole := Pattern.taken_append_rest (Pattern.mem_ways_of_search found)
  obtain ⟨-, digit, next, isDigit⟩ := first.1
  refine ⟨?amount, ?sidesDigit, ?sides, ?modifier, ⟨_, whole⟩⟩
  case amount =>
    intro c member
    exact List.mem_rtakeWhile_imp member
  case sidesDigit =>
    rw [← List.head?_drop] at next
    obtain ⟨rest, afterD⟩ := List.head?_eq_some_iff.mp next
    have sides : (Term.around query p).sides =
        digit :: rest.takeWhile CodePoint.isAlphanumeric := by
      rw [Term.around, afterD]
      exact List.takeWhile_cons_of_pos (isAlphanumeric_of_isDigit digit isDigit)
    rw [sides]
    exact isDigit
  case sides =>
    intro c member
    exact List.mem_takeWhile_imp member
  case modifier =>
    intro operator run taken
    rw [Term.around, modifierFrom] at taken
    simp only at taken
    split at taken
    · split at taken
      · rename_i wellFormed
        cases taken
        exact ⟨wellFormed.1, wellFormed.2, fun c member => List.mem_takeWhile_imp member⟩
      · cases taken
    · cases taken

theorem Term.around_preferred {query : Text} {p start : Nat} {other : Term}
    (first : IsFirstTerm query p) (matched : other.Matches query start) :
    Term.Preferred (Term.start query p) (Term.around query p) start other := by
  have within := Term.length_amount_around_le query p
  have notLater : p ≤ start + other.amount.length :=
    Nat.le_of_not_lt fun below => first.2 _ below (startsTerm_of_matches matched)
  rcases Nat.lt_or_eq_of_le (start_le_of_matches first matched) with earlier | sameStart
  · exact .inl earlier
  refine .inr ⟨sameStart, ?_⟩
  rw [Term.start] at sameStart
  by_cases later : p < start + other.amount.length
  · exact .inl (by omega)
  refine .inr ⟨by omega, ?_⟩
  -- Both terms have their `d` at the same place.
  obtain ⟨rest, whole⟩ := drop_of_matches matched
  have place : start + other.amount.length = p := by omega
  have fromD := drop_add_of_drop whole
  rw [place] at fromD
  have afterD : query.drop (p + 1) = other.sides ++ (other.modifierText ++ rest) := by
    rw [← List.drop_drop, fromD]
    rfl
  have sides : (Term.around query p).sides =
      other.sides ++ (other.modifierText ++ rest).takeWhile CodePoint.isAlphanumeric :=
    takeWhile_of_append matched.sides afterD
  have longer := congrArg List.length sides
  rw [List.length_append] at longer
  rcases Nat.eq_zero_or_pos
    ((other.modifierText ++ rest).takeWhile CodePoint.isAlphanumeric).length with none | some
  · refine .inr ⟨by omega, ?_⟩
    rw [List.eq_nil_of_length_eq_zero none, List.append_nil] at sides
    have beyond : query.drop (p + 1 + (Term.around query p).sides.length) =
        other.modifierText ++ rest := by
      rw [sides, ← List.drop_drop, afterD, List.drop_left]
    exact modifierText_le (modifierFrom_eq query _) beyond matched.modifier
  · exact .inl (by omega)

end ChatDice.Dice
