import ChatDice.Proofs.Notation

/-!
The pattern of a term. Searching for it, with an amount as short as possible and all else as long
as possible, finds exactly the fields around the first `d` before a digit.
-/

namespace ChatDice.Dice

open Pattern

namespace Term

/-- Sides as the pattern has them: a digit, and all the letters and digits after it. -/
def sidesPattern : Pattern :=
  .group "sides" (.andThen (.one CodePoint.isDigit) (.greedily CodePoint.isAlphanumeric))

def modifierPattern : Pattern :=
  .optional (.group "modifier" (.andThen (.one fun c => c ∈ operators)
    (.andThen (.one CodePoint.isAlphanumeric) (.greedily CodePoint.isAlphanumeric))))

/-- What follows the amount. -/
def restPattern : Pattern :=
  .andThen (.one fun c => c = CodePoint.ofChar 'd') (.andThen sidesPattern modifierPattern)

def pattern : Pattern :=
  .andThen (.group "amount" (.lazily CodePoint.isAlphanumeric)) restPattern

/-- The modifier as it is written, with its operator. -/
def modifierText (term : Term) : Text :=
  match term.modifier with
  | some (operator, run) => operator :: run
  | none => []

/-- The whole term as it is written. -/
def written (term : Term) : Text :=
  term.amount ++ CodePoint.ofChar 'd' :: (term.sides ++ term.modifierText)

/-- The named parts of a term; an absent modifier captures nothing. -/
def captures (term : Term) : List (Text × Text) :=
  ("amount", term.amount) :: ("sides", term.sides) ::
    if term.modifier = none then [] else [("modifier", term.modifierText)]

/-- The way to match that a term at the start of a text stands for. -/
def way (t : Text) (term : Term) : Way := ⟨term.written, term.captures, t.drop term.written.length⟩

end Term

theorem isAlphanumeric_of_isDigit (c : CodePoint) (digit : c.isDigit = true) :
    c.isAlphanumeric = true := by
  simp [CodePoint.isAlphanumeric, digit]

private theorem head?_sidesPattern (t : Text) :
    (Term.sidesPattern.ways t).head? =
      if startsWithDigit t then
        some ⟨t.takeWhile CodePoint.isAlphanumeric,
          [("sides", t.takeWhile CodePoint.isAlphanumeric)], t.dropWhile CodePoint.isAlphanumeric⟩
      else none := by
  rw [Term.sidesPattern, head?_group, head?_one_greedily isAlphanumeric_of_isDigit]
  cases t with
  | nil => rfl
  | cons c rest =>
    by_cases digit : c.isDigit = true <;> simp [startsWithDigit, digit]

private theorem head?_modifierPattern (amount sides t : Text) :
    let term : Term := { amount, sides, modifier := modifierAt t }
    (Term.modifierPattern.ways t).head? =
      some ⟨term.modifierText, term.captures.drop 2, t.drop term.modifierText.length⟩ := by
  rw [Term.modifierPattern, head?_optional, head?_group]
  cases t with
  | nil => rfl
  | cons operator rest =>
    have run := head?_one_greedily (fun c (inside : c.isAlphanumeric = true) => inside) rest
    by_cases isOp : operator ∈ operators
    · have first : ((one fun c => decide (c ∈ operators)).ways (operator :: rest)).head? =
          some ⟨[operator], [], rest⟩ := by simp [ways, isOp]
      cases rest with
      | nil =>
        rw [head?_andThen]
        simp [ways, isOp, modifierAt, Term.modifierText, Term.captures]
      | cons c rest =>
        by_cases inside : c.isAlphanumeric = true
        · rw [if_pos (by simpa using inside)] at run
          rw [head?_andThen_of_head? first run]
          simp [Way.followedBy, modifierAt, Term.modifierText, Term.captures, inside,
            ← mem_operators_iff, isOp, Text.drop_length_takeWhile]
        · rw [if_neg (by simpa using inside)] at run
          rw [head?_andThen]
          simp [ways, isOp, inside, modifierAt, Term.modifierText, Term.captures]
    · have first : ((one fun c => decide (c ∈ operators)).ways (operator :: rest)).head? = none := by
        simp [ways, isOp]
      rw [head?_andThen_of_none first]
      simp [modifierAt, ← mem_operators_iff, isOp, Term.modifierText, Term.captures]

/-- The term whose amount has been read, if the text goes on as a term must. -/
private def termAt? (amount : Text) : Text → Option Term
  | [] => none
  | c :: rest =>
    if c = CodePoint.ofChar 'd' && startsWithDigit rest then some (Term.after amount rest) else none

private theorem head?_restPattern (amount t : Text) :
    (Term.restPattern.ways t).head? = (termAt? amount t).map fun term =>
      ⟨CodePoint.ofChar 'd' :: (term.sides ++ term.modifierText), term.captures.drop 1,
        t.drop (term.sides.length + term.modifierText.length + 1)⟩ := by
  cases t with
  | nil => rfl
  | cons c rest =>
    by_cases isD : c = CodePoint.ofChar 'd'
    · have first : ((one fun c => decide (c = CodePoint.ofChar 'd')).ways (c :: rest)).head? =
          some ⟨[c], [], rest⟩ := by simp [ways, isD]
      have sides := head?_sidesPattern rest
      by_cases digit : startsWithDigit rest = true
      · rw [if_pos digit] at sides
        have modifier := head?_modifierPattern amount (rest.takeWhile CodePoint.isAlphanumeric)
          (rest.dropWhile CodePoint.isAlphanumeric)
        have both := head?_andThen_of_head? sides modifier
        rw [Term.restPattern, head?_andThen_of_head? first both]
        simp [termAt?, isD, digit, Way.followedBy, Term.after, Term.captures, ← List.drop_drop,
          Text.drop_length_takeWhile, Term.modifierText]
      · rw [if_neg digit] at sides
        rw [Term.restPattern, head?_andThen]
        simp [termAt?, ways, isD, digit, List.head?_eq_none_iff.mp sides]
    · have first : ((one fun c => decide (c = CodePoint.ofChar 'd')).ways (c :: rest)).head? = none := by
        simp [ways, isD]
      rw [Term.restPattern, head?_andThen_of_none first]
      simp [termAt?, isD]

/-- Amounts are tried from the shortest on, until the text goes on as a term must. -/
private theorem findSome?_runs (before t : Text) :
    ((runs CodePoint.isAlphanumeric t).findSome? fun run => termAt? (before ++ run.1) run.2) =
      (firstTerm? t).bind fun p =>
        if (t.take p).all CodePoint.isAlphanumeric then
          some (Term.after (before ++ t.take p) (t.drop (p + 1)))
        else none := by
  induction t generalizing before with
  | nil => rfl
  | cons c rest ih =>
    rw [runs, List.findSome?_cons, termAt?, firstTerm?]
    by_cases here : (c = CodePoint.ofChar 'd' && startsWithDigit rest) = true
    · rw [if_pos here, if_pos here, Option.bind_some]
      simp only [List.take_zero, List.all_nil, if_true, List.drop_succ_cons, List.drop_zero]
    · rw [if_neg here, if_neg here, Option.bind_map]
      by_cases inside : c.isAlphanumeric = true
      · have later := ih (before ++ [c])
        simp only [List.append_assoc, List.singleton_append] at later
        rw [if_pos inside, List.findSome?_map]
        simpa only [Function.comp_def, List.take_succ_cons, List.drop_succ_cons, List.all_cons,
          inside, Bool.true_and] using later
      · rw [if_neg inside, List.findSome?_nil]
        cases firstTerm? rest with
        | none => rw [Option.bind_none]
        | some p =>
          have stops : ¬ ((c :: rest).take (p + 1)).all CodePoint.isAlphanumeric = true := by
            rw [List.take_succ_cons, List.all_cons, Bool.and_eq_true]
            exact fun both => inside both.1
          rw [Option.bind_some, Function.comp_apply, if_neg stops]

private theorem amount_of_termAt? {amount t : Text} {term : Term}
    (found : termAt? amount t = some term) : term.amount = amount := by
  cases t with
  | nil => cases found
  | cons c rest =>
    rw [termAt?] at found
    split at found
    · cases found
      rfl
    · cases found

private theorem head?_restPattern_followedBy (amount t : Text) :
    (Term.restPattern.ways t).head?.map (Way.followedBy ⟨amount, [("amount", amount)], t⟩) =
      (termAt? amount t).map (Term.way (amount ++ t)) := by
  rw [head?_restPattern amount, Option.map_map]
  cases found : termAt? amount t with
  | none => rfl
  | some term =>
    have same := amount_of_termAt? found
    subst amount
    simp [Way.followedBy, Term.way, Term.written, Term.captures, List.drop_append, Nat.add_assoc]

private theorem findSome?_congr {α β : Type} {f g : α → Option β} {l : List α}
    (agree : ∀ a ∈ l, f a = g a) : l.findSome? f = l.findSome? g := by
  induction l with
  | nil => rfl
  | cons a rest ih =>
    rw [List.findSome?_cons, List.findSome?_cons, agree a (List.mem_cons_self ..),
      ih fun b member => agree b (List.mem_cons_of_mem a member)]

/-- The first way to match at the start of a text, if the run there reaches the first term. -/
private theorem head?_pattern (t : Text) :
    (Term.pattern.ways t).head? = (firstTerm? t).bind fun p =>
      if (t.take p).all CodePoint.isAlphanumeric then some (Term.way t (Term.around t p)) else none := by
  have candidates : (Term.pattern.ways t).head? =
      ((runs CodePoint.isAlphanumeric t).findSome? fun run =>
        (termAt? run.1 run.2).map (Term.way t)) := by
    rw [Term.pattern, head?_andThen]
    simp only [ways, List.findSome?_map]
    apply findSome?_congr
    intro run member
    have whole := append_of_mem_runs member
    subst t
    exact head?_restPattern_followedBy run.1 run.2
  have shortest := findSome?_runs [] t
  simp only [List.nil_append] at shortest
  rw [candidates, ← Function.comp_def, ← List.map_findSome?, shortest, Option.map_bind]
  congr
  funext p
  rw [Function.comp_apply]
  split
  · rename_i inside
    have whole := List.rtakeWhile_eq_self_iff.mpr (List.all_eq_true.mp inside)
    rw [Term.around_eq, whole, Option.map_some]
  · rfl

private theorem rtakeWhile_cons_of_not_all {accepts : CodePoint → Bool} {c : CodePoint} {t : Text}
    (broken : ¬ (c :: t).all accepts = true) :
    (c :: t).rtakeWhile accepts = t.rtakeWhile accepts := by
  rw [List.rtakeWhile, List.rtakeWhile, List.reverse_cons, List.takeWhile_append]
  split
  · rename_i full
    have whole := (List.takeWhile_prefix accepts).eq_of_length full
    have inside : t.all accepts = true := by
      rw [← List.all_reverse, List.all_eq_true]
      exact List.takeWhile_eq_self_iff.mp whole
    have outside : accepts c = false := by simpa [inside] using broken
    simp [whole, outside]
  · rfl

private theorem searchFrom_pattern (start : Nat) (t : Text) :
    Term.pattern.searchFrom start t = (firstTerm? t).map fun p =>
      (start + Term.start t p, Term.way (t.drop (Term.start t p)) (Term.around t p)) := by
  induction t generalizing start with
  | nil => rfl
  | cons c rest ih =>
    rw [searchFrom, head?_pattern]
    cases found : firstTerm? (c :: rest) with
    | none =>
      have missing : firstTerm? rest = none := by
        rw [firstTerm?] at found
        split at found
        · cases found
        · exact Option.map_eq_none_iff.mp found
      rw [Option.bind_none, ih, missing]
      rfl
    | some p =>
      rw [Option.bind_some, Option.map_some]
      by_cases inside : ((c :: rest).take p).all CodePoint.isAlphanumeric = true
      · have amount : (Term.around (c :: rest) p).amount = (c :: rest).take p :=
          List.rtakeWhile_eq_self_iff.mpr (List.all_eq_true.mp inside)
        have reaches := (firstTerm?_eq_some found).1.lt_length
        have here : Term.start (c :: rest) p = 0 := by
          rw [Term.start, amount, List.length_take_of_le (Nat.le_of_lt reaches), Nat.sub_self]
        rw [if_pos inside, here]
        rfl
      · -- The run before the `d` starts further on, and so does the match.
        cases p with
        | zero => exact absurd rfl inside
        | succ p =>
          have later : firstTerm? rest = some p := by
            rw [firstTerm?] at found
            split at found
            · cases found
            · simpa using found
          have same : Term.around (c :: rest) (p + 1) = Term.around rest p := by
            rw [Term.around_eq, Term.around_eq, List.take_succ_cons,
              rtakeWhile_cons_of_not_all inside, List.drop_succ_cons]
          have next : Term.start (c :: rest) (p + 1) = Term.start rest p + 1 := by
            rw [Term.start, same, Nat.succ_sub (Term.length_amount_around_le rest p)]
            rfl
          rw [if_neg inside, ih, later, same, next, List.drop_succ_cons,
            show start + (Term.start rest p + 1) = start + 1 + Term.start rest p by omega]
          rfl

/-- A search for the pattern of a term finds the term around the first `d` before a digit. -/
theorem search_pattern (query : Text) :
    Term.pattern.search query = (firstTerm? query).map fun p =>
      (Term.start query p, Term.way (query.drop (Term.start query p)) (Term.around query p)) := by
  have found := searchFrom_pattern 0 query
  simp only [Nat.zero_add] at found
  exact found

end ChatDice.Dice
