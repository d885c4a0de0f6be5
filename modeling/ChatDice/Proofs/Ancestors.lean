import ChatDice.Logging.Hierarchy
import Mathlib.Data.List.Induction
import Mathlib.Data.List.Nodup

/-!
The dotted beginnings of a logger's name. They are the names of all loggers that can stand above it, and
those of one of them are the ones that come after it. A name with two dots in a row has beginnings that are
passed over; any other has none.
-/

namespace ChatDice.Logging

/-- The beginnings of a name that a dot follows, the longest first. -/
def ancestors (name : Text) : List Text :=
  ((List.range name.length).reverse.filter fun n =>
    decide (0 < n) && name[n]? == some (CodePoint.ofChar '.')).map name.take

/-- A logger's name, and the names of all loggers that can stand above it up to the root. -/
def line (name : Text) : List Text := (name :: ancestors name).filter (· ≠ rootName) ++ [rootName]

/-- No two dots of a name stand side by side. -/
def Regular (name : Text) : Prop := ¬ [CodePoint.ofChar '.', CodePoint.ofChar '.'] <:+: name

@[simp]
theorem ancestors_nil : ancestors [] = [] := rfl

theorem ancestors_concat (name : Text) (c : CodePoint) :
    ancestors (name ++ [c]) =
      if name ≠ [] ∧ c = CodePoint.ofChar '.' then name :: ancestors name else ancestors name := by
  have kept : ((List.range name.length).reverse.filter fun n =>
      decide (0 < n) && (name ++ [c])[n]? == some (CodePoint.ofChar '.')).map (name ++ [c]).take =
      ancestors name := by
    have below {n : Nat} (member : n ∈ (List.range name.length).reverse) : n < name.length := by
      simpa using member
    unfold ancestors
    rw [List.filter_congr fun n member => by rw [List.getElem?_append_left (below member)]]
    refine List.map_congr_left fun n member => ?_
    exact List.take_append_of_le_length (Nat.le_of_lt (below (List.mem_filter.mp member).1))
  rw [ancestors, List.length_append, List.length_singleton, List.range_succ, List.reverse_append,
    List.reverse_singleton, List.singleton_append, List.filter_cons]
  by_cases inside : name ≠ [] ∧ c = CodePoint.ofChar '.'
  · have here : (decide (0 < name.length) &&
        (name ++ [c])[name.length]? == some (CodePoint.ofChar '.')) = true := by
      simp [List.length_pos_iff.mpr inside.1, inside.2]
    rw [if_pos here, List.map_cons, kept, if_pos inside, List.take_left]
  · have here : ¬ (decide (0 < name.length) &&
        (name ++ [c])[name.length]? == some (CodePoint.ofChar '.')) = true := by
      simpa [List.length_pos_iff] using inside
    rw [if_neg here, kept, if_neg inside]

theorem mem_ancestors {name above : Text} (member : above ∈ ancestors name) :
    above ≠ [] ∧ above <+: name ∧ above.length < name.length := by
  obtain ⟨n, chosen, rfl⟩ := List.mem_map.mp member
  obtain ⟨below, dotted⟩ := List.mem_filter.mp chosen
  have short : n < name.length := by simpa using below
  have positive : 0 < n := by simpa using (Bool.and_eq_true_iff.mp dotted).1
  have length : (name.take n).length = n := List.length_take_of_le (Nat.le_of_lt short)
  refine ⟨List.length_pos_iff.mp (by rwa [length]), List.take_prefix n name, by rwa [length]⟩

/-- What follows a name in the ancestors of another is its own ancestors. -/
theorem ancestors_of_split {name above : Text} {before after : List Text}
    (split : ancestors name = before ++ above :: after) : ancestors above = after := by
  induction name using List.reverseRecOn generalizing before with
  | nil => simp at split
  | append_singleton name c ih =>
    rw [ancestors_concat] at split
    by_cases inside : name ≠ [] ∧ c = CodePoint.ofChar '.'
    · rw [if_pos inside] at split
      cases before with
      | nil =>
        obtain ⟨rfl, rest⟩ := List.cons.inj split
        exact rest
      | cons first before => exact ih (List.cons.inj split).2
    · rw [if_neg inside] at split
      exact ih split

theorem mem_ancestors_trans {name middle above : Text} (first : middle ∈ ancestors name)
    (second : above ∈ ancestors middle) : above ∈ ancestors name := by
  obtain ⟨before, after, split⟩ := List.append_of_mem first
  rw [ancestors_of_split split] at second
  rw [split]
  exact List.mem_append_right _ (List.mem_cons_of_mem _ second)

theorem nodup_cons_ancestors (name : Text) : (name :: ancestors name).Nodup := by
  have absent (name : Text) : name ∉ ancestors name := fun member =>
    Nat.lt_irrefl _ (mem_ancestors member).2.2
  induction name using List.reverseRecOn with
  | nil => simp
  | append_singleton name c ih =>
    refine List.nodup_cons.mpr ⟨absent _, ?_⟩
    rw [ancestors_concat]
    split
    · exact ih
    · exact (List.nodup_cons.mp ih).2

theorem mem_line_iff {name above : Text} :
    above ∈ line name ↔ above = rootName ∨ above ∈ name :: ancestors name := by
  by_cases top : above = rootName
  · simp [line, top]
  · simp [line, top]

theorem self_mem_line (name : Text) : name ∈ line name := mem_line_iff.mpr (.inr List.mem_cons_self)

theorem nodup_line (name : Text) : (line name).Nodup := by
  refine List.nodup_append.mpr ⟨(nodup_cons_ancestors name).filter _, by simp, ?_⟩
  rintro above member _ last rfl
  rw [List.mem_singleton.mp last] at member
  simp at member

theorem Regular.of_mem_ancestors {name above : Text} (regular : Regular name)
    (member : above ∈ ancestors name) :
    Regular above :=
  fun doubled => regular (doubled.trans (mem_ancestors member).2.1.isInfix)

/-- Every name on the line to a name without two dots in a row is such a name. -/
theorem Regular.of_mem_cons_ancestors {name above : Text} (regular : Regular name)
    (member : above ∈ name :: ancestors name) : Regular above := by
  rcases List.mem_cons.mp member with rfl | higher
  · exact regular
  · exact regular.of_mem_ancestors higher

theorem beginnings_append (name more : Text) {bound : Nat} (inside : bound ≤ name.length) :
    beginnings (name ++ more) bound = beginnings name bound := by
  fun_induction beginnings name bound with
  | case1 => rfl
  | case2 => rfl
  | case3 bound here ih =>
    have same : (name ++ more)[bound + 1]? = name[bound + 1]? := List.getElem?_append_left (by omega)
    rw [beginnings, same, if_pos here, ih (by omega), List.take_append_of_le_length (by omega)]
  | case4 bound here ih =>
    have same : (name ++ more)[bound + 1]? = name[bound + 1]? := List.getElem?_append_left (by omega)
    rw [beginnings, same, if_neg here, ih (by omega)]

theorem beginnings_succ {name : Text} {bound : Nat} (undotted : name[bound]? ≠ some (CodePoint.ofChar '.')) :
    beginnings name (bound + 1) = beginnings name bound := by
  cases bound with
  | zero => rfl
  | succ bound => rw [beginnings, if_neg undotted]

/-- Without two dots in a row no beginning is passed over. -/
theorem namesAbove_eq_ancestors {name : Text} (regular : Regular name) : namesAbove name = ancestors name := by
  induction name using List.reverseRecOn with
  | nil => rfl
  | append_singleton name c ih =>
    have shorter : Regular name := fun doubled => regular (doubled.trans (List.prefix_append name [c]).isInfix)
    have above := ih shorter
    unfold namesAbove at above ⊢
    rw [ancestors_concat, List.length_append, List.length_singleton, ← above]
    rcases List.eq_nil_or_concat name with rfl | ⟨initial, last, rfl⟩
    · rfl
    rw [List.concat_eq_append] at regular ⊢
    rw [List.length_append, List.length_singleton]
    have reached : (initial ++ [last] ++ [c])[initial.length + 1]? = some c := by simp
    rw [beginnings, reached]
    by_cases dotted : c = CodePoint.ofChar '.'
    · have undotted : (initial ++ [last])[initial.length]? ≠ some (CodePoint.ofChar '.') := by
        intro doubled
        have last : last = CodePoint.ofChar '.' := by simpa using doubled
        exact regular ⟨initial, [], by simp [last, dotted]⟩
      have whole : (initial ++ [last] ++ [c]).take (initial.length + 1) = initial ++ [last] :=
        List.take_left' (by simp)
      rw [if_pos (congrArg some dotted), if_pos ⟨by simp, dotted⟩, whole, beginnings_append _ _ (by simp),
        beginnings_succ undotted]
    · rw [if_neg fun same => dotted (Option.some.inj same), if_neg fun both => dotted both.2,
        beginnings_append _ _ (by simp)]

end ChatDice.Logging
