import ChatDice.Dice.Notation
import ChatDice.Proofs.Pattern
import ChatDice.Proofs.Runs

/-!
The grammar of dice notation. A term starts at the first `d` before a digit, and its fields are the
runs of letters and digits around it. They are what a search for the pattern of a term captures,
and their texts alone decide what parsing gives.
-/

namespace ChatDice.Dice

/-- A `d` with a digit right after it. -/
def StartsTerm (query : Text) (p : Nat) : Prop :=
  query[p]? = some (CodePoint.ofChar 'd') ∧ ∃ c, query[p + 1]? = some c ∧ c.isDigit = true

def IsFirstTerm (query : Text) (p : Nat) : Prop :=
  StartsTerm query p ∧ ∀ j < p, ¬ StartsTerm query j

def operators : Text := "+-*/"

/-- An operator at a position with the longest run of letters and digits after it, unless that is
empty. -/
def modifierFrom (query : Text) (position : Nat) : Option (CodePoint × Text) :=
  let run := (query.drop (position + 1)).takeWhile CodePoint.isAlphanumeric
  match query[position]? with
  | some operator => if operator ∈ operators ∧ run ≠ [] then some (operator, run) else none
  | none => none

/-- The fields around a `d`: the longest runs of letters and digits that end right before it and
start right after it, and the modifier that stands directly after them. -/
def Term.around (query : Text) (p : Nat) : Term :=
  let sides := (query.drop (p + 1)).takeWhile CodePoint.isAlphanumeric
  { amount := (query.take p).rtakeWhile CodePoint.isAlphanumeric
    sides
    modifier := modifierFrom query (p + 1 + sides.length) }

/-- The place where the term around a `d` starts. -/
def Term.start (query : Text) (p : Nat) : Nat := p - (Term.around query p).amount.length

theorem mem_operators_iff {c : CodePoint} : c ∈ operators ↔ isOperator c = true := by
  simp [operators, Text.ofString, isOperator, or_comm, or_assoc, or_left_comm]

theorem modifierFrom_eq (query : Text) (position : Nat) :
    modifierFrom query position = modifierAt (query.drop position) := by
  unfold modifierFrom
  rw [← List.head?_drop, ← List.tail_drop]
  cases query.drop position with
  | nil => rfl
  | cons operator rest =>
    simp [modifierAt, mem_operators_iff]

theorem Term.around_eq (query : Text) (p : Nat) :
    Term.around query p =
      Term.after ((query.take p).rtakeWhile CodePoint.isAlphanumeric) (query.drop (p + 1)) := by
  have beyond := Text.drop_length_takeWhile CodePoint.isAlphanumeric (query.drop (p + 1))
  rw [List.drop_drop] at beyond
  simp only [around, Term.after, modifierFrom_eq, beyond]

theorem Term.length_amount_around_le (query : Text) (p : Nat) :
    (Term.around query p).amount.length ≤ p := by
  have suffix := List.rtakeWhile_suffix CodePoint.isAlphanumeric (query.take p)
  exact Nat.le_trans suffix.length_le (List.length_take_le p query)

theorem StartsTerm.lt_length {query : Text} {p : Nat} (starts : StartsTerm query p) :
    p < query.length := by
  obtain ⟨letter, -⟩ := starts
  exact (List.getElem?_eq_some_iff.mp letter).1

/-- The place of the first term. -/
def firstTerm? : Text → Option Nat
  | [] => none
  | c :: rest =>
    if c = CodePoint.ofChar 'd' && startsWithDigit rest then some 0
    else (firstTerm? rest).map (· + 1)

private theorem startsTerm_zero {c : CodePoint} {rest : Text} :
    StartsTerm (c :: rest) 0 ↔ c = CodePoint.ofChar 'd' ∧ startsWithDigit rest = true := by
  cases rest <;> simp [StartsTerm, startsWithDigit]

private theorem startsTerm_succ {c : CodePoint} {rest : Text} {p : Nat} :
    StartsTerm (c :: rest) (p + 1) ↔ StartsTerm rest p := by
  simp [StartsTerm]

theorem firstTerm?_eq_some {query : Text} {p : Nat} (found : firstTerm? query = some p) :
    IsFirstTerm query p := by
  induction query generalizing p with
  | nil => cases found
  | cons c rest ih =>
    rw [firstTerm?] at found
    split at found
    · rename_i here
      cases found
      refine ⟨startsTerm_zero.mpr (by simpa using here), ?_⟩
      intro j below
      exact absurd below (Nat.not_lt_zero j)
    · rename_i notHere
      obtain ⟨later, laterFound, same⟩ := Option.map_eq_some_iff.mp found
      subst p
      obtain ⟨starts, first⟩ := ih laterFound
      refine ⟨startsTerm_succ.mpr starts, ?_⟩
      intro j below
      cases j with
      | zero => simpa [startsTerm_zero] using notHere
      | succ j => exact mt startsTerm_succ.mp (first j (Nat.lt_of_succ_lt_succ below))

theorem firstTerm?_eq_none {query : Text} (missing : firstTerm? query = none) (p : Nat) :
    ¬ StartsTerm query p := by
  induction query generalizing p with
  | nil => simp [StartsTerm]
  | cons c rest ih =>
    rw [firstTerm?] at missing
    split at missing
    · cases missing
    · rename_i notHere
      cases p with
      | zero => simpa [startsTerm_zero] using notHere
      | succ p => exact mt startsTerm_succ.mp (ih (by simpa using missing) p)

theorem firstTerm?_eq_some_iff {query : Text} {p : Nat} :
    firstTerm? query = some p ↔ IsFirstTerm query p := by
  constructor
  · exact firstTerm?_eq_some
  · rintro ⟨starts, first⟩
    cases found : firstTerm? query with
    | none => exact absurd starts (firstTerm?_eq_none found p)
    | some other =>
      obtain ⟨otherStarts, otherFirst⟩ := firstTerm?_eq_some found
      rcases Nat.lt_trichotomy p other with below | same | above
      · exact absurd starts (otherFirst p below)
      · rw [same]
      · exact absurd otherStarts (first other above)

/-- The search holds in its run the letters and digits right before the place it has reached. -/
private theorem search_eq (before t : Text) :
    Term.search (before.rtakeWhile CodePoint.isAlphanumeric).reverse t =
      (firstTerm? t).map fun p => Term.around (before ++ t) (before.length + p) := by
  induction t generalizing before with
  | nil => rfl
  | cons c rest ih =>
    have step := ih (before ++ [c])
    rw [Term.search, firstTerm?]
    split
    · rename_i here
      have letter : c = CodePoint.ofChar 'd' := by
        simp at here
        exact here.1
      subst c
      simp [Term.around_eq]
    · simp only [List.append_assoc, List.singleton_append, List.length_append,
        List.length_singleton, Nat.add_right_comm] at step
      split
      · rename_i inside
        rw [List.rtakeWhile_concat_pos _ _ _ inside] at step
        simpa [Function.comp_def, Nat.add_assoc] using step
      · rename_i outside
        rw [List.rtakeWhile_concat_neg _ _ _ outside] at step
        simpa [Function.comp_def, Nat.add_assoc] using step

theorem Term.find?_eq (query : Text) :
    Term.find? query = (firstTerm? query).map (Term.around query) := by
  simpa [Term.find?] using search_eq [] query

end ChatDice.Dice
