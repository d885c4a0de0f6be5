import ChatDice.Text
import Mathlib.Data.List.DropRight

/-!
Runs of code points of one class. A run is taken as a whole from a text where a code point of
another class, or nothing, stands next to it.
-/

namespace ChatDice.Text

variable {accepts : CodePoint → Bool} {run rest before : Text}

theorem takeWhile_of_stops (inside : ∀ c ∈ run, accepts c = true)
    (stops : ∀ c ∈ rest.head?, accepts c = false) : (run ++ rest).takeWhile accepts = run := by
  rw [List.takeWhile_append_of_pos inside]
  cases rest with
  | nil => simp
  | cons c rest => simp [stops c rfl]

theorem dropWhile_of_stops (inside : ∀ c ∈ run, accepts c = true)
    (stops : ∀ c ∈ rest.head?, accepts c = false) : (run ++ rest).dropWhile accepts = rest := by
  rw [List.dropWhile_append_of_pos inside]
  cases rest with
  | nil => simp
  | cons c rest => simp [stops c rfl]

theorem rtakeWhile_of_stops (inside : ∀ c ∈ run, accepts c = true)
    (stops : ∀ c ∈ before.getLast?, accepts c = false) :
    (before ++ run).rtakeWhile accepts = run := by
  rw [List.rtakeWhile, List.reverse_append, takeWhile_of_stops, List.reverse_reverse]
  · intro c member
    exact inside c (List.mem_reverse.mp member)
  · rw [List.head?_reverse]
    exact stops

theorem stops_dropWhile (accepts : CodePoint → Bool) (t : Text) :
    ∀ c ∈ (t.dropWhile accepts).head?, accepts c = false := by
  induction t with
  | nil => simp
  | cons c rest ih =>
    by_cases inside : accepts c = true
    · rw [List.dropWhile_cons_of_pos inside]
      exact ih
    · rw [List.dropWhile_cons_of_neg inside]
      intro other first
      cases first
      exact Bool.eq_false_iff.mpr inside

theorem stops_rdropWhile (accepts : CodePoint → Bool) (t : Text) :
    ∀ c ∈ (t.rdropWhile accepts).getLast?, accepts c = false := by
  rw [List.rdropWhile, List.getLast?_reverse]
  exact stops_dropWhile accepts t.reverse

theorem drop_length_takeWhile (accepts : CodePoint → Bool) (t : Text) :
    t.drop (t.takeWhile accepts).length = t.dropWhile accepts := by
  calc
    t.drop (t.takeWhile accepts).length
        = (t.takeWhile accepts ++ t.dropWhile accepts).drop (t.takeWhile accepts).length := by
      rw [List.takeWhile_append_dropWhile]
    _ = t.dropWhile accepts := List.drop_left

end ChatDice.Text
