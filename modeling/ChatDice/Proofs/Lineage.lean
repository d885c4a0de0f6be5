import ChatDice.Proofs.Ancestors
import ChatDice.Proofs.Loggers
import Mathlib.Data.List.Perm.Subperm

/-!
Which loggers stand above a logger. While the hierarchy grows, a logger is always directly below the
nearest one in use among its dotted beginnings, so that the way up leads through all of them that are in
use. This needs names without two dots in a row, and a logger whose name the root's begins with has to
come into use before those below it.
-/

namespace ChatDice.Logging

namespace Hierarchy

/-- The loggers that wait for a name in a table. -/
def waiting (awaited : List (Text × List Text)) (name : Text) : List Text :=
  ((awaited.find? fun entry => entry.1 = name).map (·.2)).getD []

theorem mem_waiting_await (child : Text) (awaited : List (Text × List Text)) (name other above : Text) :
    other ∈ waiting (await child awaited name) above ↔
      other ∈ waiting awaited above ∨ other = child ∧ above = name := by
  unfold waiting
  induction awaited with
  | nil =>
    by_cases here : name = above
    · simp [await, here]
    · simp [await, here, Ne.symm here]
  | cons entry awaited ih =>
    obtain ⟨first, children⟩ := entry
    by_cases known : first = name
    · by_cases here : first = above
      · simp [await, known, ← here]
      · have elsewhere : ¬ above = name := fun same => here (known.trans same.symm)
        simp [await, known, elsewhere, known ▸ here]
    · by_cases here : first = above
      · have elsewhere : ¬ above = name := fun same => known (here.trans same)
        simp [await, here, elsewhere]
      · simpa [await, known, here] using ih

theorem mem_waiting_awaitAll (child : Text) (names : List Text) (awaited : List (Text × List Text))
    (other above : Text) :
    other ∈ waiting (names.foldl (await child) awaited) above ↔
      other ∈ waiting awaited above ∨ other = child ∧ above ∈ names := by
  induction names generalizing awaited with
  | nil => simp
  | cons name names ih =>
    rw [List.foldl_cons, ih, mem_waiting_await, List.mem_cons, and_or_left, or_assoc]

theorem waiting_filter (awaited : List (Text × List Text)) (name above : Text) :
    waiting (awaited.filter fun entry => entry.1 != name) above =
      if above = name then [] else waiting awaited above := by
  unfold waiting
  rw [List.find?_filter]
  by_cases here : above = name
  · have none : (awaited.find? fun entry => decide ((entry.1 != name) = true ∧ decide (entry.1 = above) = true)) =
        none := by
      rw [List.find?_eq_none]
      intro entry _ both
      simp_all
    rw [if_pos here, none]
    rfl
  · rw [if_neg here]
    congr 3
    funext entry
    by_cases same : entry.1 = above <;> simp [same, here]

variable (hierarchy : Hierarchy)

theorem awaited_adoptAll (name : Text) (children : List Text) :
    (children.foldl (adopt name) hierarchy).awaited = hierarchy.awaited := by
  induction children generalizing hierarchy with
  | nil => rfl
  | cons child children ih => exact ih _

/-- Who waits for a name once another is taken into use. -/
theorem mem_waitingFor_use {name : Text} (unused : hierarchy.isInUse name = false) (other above : Text) :
    other ∈ (hierarchy.use name).waitingFor above ↔
      above ≠ name ∧ other ∈ hierarchy.waitingFor above ∨
        other = name ∧ above ∈ (namesAbove name).takeWhile (!hierarchy.isInUse ·) := by
  have table : (hierarchy.use name).waitingFor above = waiting (((namesAbove name).takeWhile
      (!hierarchy.isInUse ·)).foldl (await name) (hierarchy.awaited.filter fun entry => entry.1 != name))
      above := by
    rw [use, if_neg (by simp [unused])]
    simp only [waitingFor, waiting, awaited_adoptAll]
  rw [table, mem_waiting_awaitAll, waiting_filter]
  refine or_congr ?_ Iff.rfl
  by_cases here : above = name
  · simp [here]
  · simp [here, waitingFor, waiting]

/-- The first of some names that is in use, or else the root. -/
def nearest (names : List Text) : Text := (names.find? hierarchy.isInUse).getD rootName

theorem nearest_of_split {between beyond : List Text} {above : Text}
    (unused : ∀ name ∈ between, hierarchy.isInUse name = false) (used : hierarchy.isInUse above = true) :
    hierarchy.nearest (between ++ above :: beyond) = above := by
  have none : between.find? hierarchy.isInUse = none :=
    List.find?_eq_none.mpr fun name member => by simp [unused name member]
  simp [nearest, List.find?_append, none, used]

/-- Names are used up to the first one in use, or none is in use. -/
theorem nearest_outcome (names : List Text) :
    (∃ between above beyond, names = between ++ above :: beyond ∧
      (∀ name ∈ between, hierarchy.isInUse name = false) ∧ hierarchy.isInUse above = true ∧
      hierarchy.nearest names = above) ∨
    (∀ name ∈ names, hierarchy.isInUse name = false) ∧ hierarchy.nearest names = rootName := by
  cases found : names.find? hierarchy.isInUse with
  | none =>
    have unused := List.find?_eq_none.mp found
    exact .inr ⟨fun name member => by simpa using unused name member, by rw [nearest, found, Option.getD_none]⟩
  | some above =>
    obtain ⟨used, between, beyond, rfl, unused⟩ := List.find?_eq_some_iff_append.mp found
    refine .inl ⟨between, above, beyond, rfl, fun name member => ?_, used,
      by rw [nearest, found, Option.getD_some]⟩
    simpa using unused name member

theorem isInUse_use_eq_false {name other : Text} :
    (hierarchy.use name).isInUse other = false ↔ other ≠ name ∧ hierarchy.isInUse other = false := by
  rw [isInUse_use, Bool.or_eq_false_iff, decide_eq_false_iff_not]

theorem nearest_use_of_notMem {name : Text} {names : List Text} (absent : name ∉ names) :
    (hierarchy.use name).nearest names = hierarchy.nearest names := by
  rcases hierarchy.nearest_outcome names with ⟨between, above, beyond, rfl, unused, used, same⟩ | ⟨unused, same⟩
  · rw [same]
    refine nearest_of_split _ (fun other member => ?_) (by simp [isInUse_use, used])
    refine (isInUse_use_eq_false _).mpr ⟨?_, unused other member⟩
    rintro rfl
    exact absent (List.mem_append_left _ member)
  · rw [same, nearest, List.find?_eq_none.mpr, Option.getD_none]
    intro other member
    rw [Bool.not_eq_true]
    refine (isInUse_use_eq_false _).mpr ⟨?_, unused other member⟩
    rintro rfl
    exact absent member

/-- On the line to a name every logger in use stands below the nearest one, and waits for every name
that could come in between; nobody waits for a name that is not above. -/
structure Settled (hierarchy : Hierarchy) (name : Text) : Prop where
  root : hierarchy.isInUse rootName = true
  parent : ∀ child ∈ name :: ancestors name, ∀ logger, hierarchy.find? child = some logger →
    logger.parent = hierarchy.nearest (ancestors child)
  waits : ∀ child ∈ name :: ancestors name, hierarchy.isInUse child = true →
    ∀ between above beyond, ancestors child = between ++ above :: beyond →
      (∀ other ∈ between, hierarchy.isInUse other = false) → hierarchy.isInUse above = false →
      child ∈ hierarchy.waitingFor above
  awaited : ∀ above child, child ∈ hierarchy.waitingFor above → above ∈ namesAbove child

theorem settled_initial (name : Text) : initial.Settled name where
  root := rfl
  parent child _ logger found := by
    have here : child = rootName ∧ logger = freshRoot := by
      by_cases same : rootName = child
      · simpa [find?, initial, same, eq_comm] using found
      · simp [find?, initial, same] at found
    rw [here.1, here.2]
    rfl
  waits child _ used between above beyond split := by
    have here : child = rootName := by
      by_cases same : rootName = child
      · exact same.symm
      · simp [isInUse, find?, initial, same] at used
    have none : ancestors rootName = [] := rfl
    rw [here, none] at split
    exact absurd split (by simp)
  awaited := nofun

variable {hierarchy} {name other : Text}

theorem Settled.modify (settled : hierarchy.Settled name) (other : Text) {change : Logger → Logger}
    (still : ∀ logger, (change logger).parent = logger.parent) :
    (hierarchy.modify other change).Settled name where
  root := by rw [isInUse_modify, settled.root]
  parent child member logger found := by
    rw [find?_modify] at found
    obtain ⟨old, there, rfl⟩ := Option.map_eq_some_iff.mp found
    have same : (hierarchy.modify other change).nearest (ancestors child) =
        hierarchy.nearest (ancestors child) := by
      unfold nearest
      congr 2
      exact funext fun name => isInUse_modify hierarchy other name change
    rw [same, ← settled.parent child member old there]
    split
    · exact still old
    · rfl
  waits child member used between above beyond split unused free := by
    simp only [isInUse_modify] at used unused free
    exact settled.waits child member used between above beyond split unused free
  awaited := settled.awaited

/-- What stands nearest above a name that is not in use does not begin with this name. -/
theorem startsWith_nearest_eq_false {child : Text} {between beyond : List Text}
    (split : ancestors child = between ++ other :: beyond)
    (idle : ∀ name ∈ between, hierarchy.isInUse name = false) (unused : hierarchy.isInUse other = false)
    (apart : Text.startsWith rootName other = false) :
    (hierarchy.nearest (ancestors child)).startsWith other = false := by
  rcases hierarchy.nearest_outcome (ancestors child) with
    ⟨near, first, rest, same, -, used, nearest⟩ | ⟨-, nearest⟩
  · have present : first ∈ between ++ other :: beyond :=
      split ▸ same ▸ List.mem_append_right _ List.mem_cons_self
    have higher : first ∈ ancestors other := by
      rw [ancestors_of_split split]
      rcases List.mem_append.mp present with here | here
      · exact absurd (idle first here) (by simp [used])
      · refine (List.mem_cons.mp here).resolve_left ?_
        rintro rfl
        rw [used] at unused
        cases unused
    rw [nearest, Text.startsWith, Bool.eq_false_iff]
    intro begins
    have longer := (List.isPrefixOf_iff_prefix.mp begins).length_le
    exact absurd (mem_ancestors higher).2.2 (Nat.not_lt.mpr longer)
  · rw [nearest, apart]

/-- The new logger takes a child over if and only if nothing in use stands between them. -/
theorem Settled.parent_use (settled : hierarchy.Settled name) (regular : Regular name)
    (unused : hierarchy.isInUse other = false)
    (timely : Text.startsWith rootName other = true → ∀ child ∈ name :: ancestors name,
      other ∈ ancestors child → hierarchy.isInUse child = false)
    {child : Text} (member : child ∈ name :: ancestors name) {logger : Logger}
    (found : (hierarchy.use other).find? child = some logger) :
    logger.parent = (hierarchy.use other).nearest (ancestors child) := by
  have above := namesAbove_eq_ancestors (regular.of_mem_cons_ancestors member)
  rw [find?_use hierarchy unused] at found
  by_cases new : child = other
  · subst new
    rw [if_pos rfl] at found
    cases found
    rw [nearest_use_of_notMem _ (List.nodup_cons.mp (nodup_cons_ancestors child)).1, ← above]
    rfl
  rw [if_neg new, find?_adoptAll] at found
  obtain ⟨old, there, rfl⟩ := Option.map_eq_some_iff.mp found
  have parent := settled.parent child member old there
  by_cases covers : other ∈ ancestors child
  · obtain ⟨between, beyond, split⟩ := List.append_of_mem covers
    have distinct := (List.nodup_cons.mp (nodup_cons_ancestors child)).2
    rw [split] at distinct parent ⊢
    have others : ∀ name ∈ between, name ≠ other := fun name here =>
      (List.nodup_append.mp distinct).2.2 name here other List.mem_cons_self
    rcases hierarchy.nearest_outcome between with ⟨near, first, rest, rfl, idle, used, -⟩ | ⟨idle, -⟩
    · -- A logger in between is in use, so the child stays below it.
      rw [List.append_assoc, List.cons_append] at split parent ⊢
      have below : other ∈ ancestors first := by
        rw [ancestors_of_split split]
        exact List.mem_append_right _ List.mem_cons_self
      have begins : old.parent.startsWith other = true := by
        rw [parent, nearest_of_split _ idle used]
        exact List.isPrefixOf_iff_prefix.mpr (mem_ancestors below).2.1
      rw [if_neg (by simp [begins]), parent, nearest_of_split _ idle used, nearest_of_split]
      · exact fun name here => (isInUse_use_eq_false _).mpr
          ⟨others name (List.mem_append_left _ here), idle name here⟩
      · simp [isInUse_use, used]
    · -- Nothing in between is in use, so the child waits and comes below the new logger.
      have inUse : hierarchy.isInUse child = true := by simp [isInUse, there]
      have waits := settled.waits child member inUse between other beyond split idle unused
      have apart : Text.startsWith rootName other = false := by
        rw [Bool.eq_false_iff]
        intro begins
        rw [timely begins child member covers] at inUse
        cases inUse
      have differs : old.parent.startsWith other = false := by
        rw [parent, ← split]
        exact startsWith_nearest_eq_false split idle unused apart
      rw [if_pos ⟨waits, differs⟩]
      refine (nearest_of_split _ (fun name here => ?_) (by simp [isInUse_use])).symm
      exact (isInUse_use_eq_false _).mpr ⟨others name here, idle name here⟩
  · have free : ¬ (child ∈ hierarchy.waitingFor other ∧ old.parent.startsWith other = false) := fun both =>
      covers (above ▸ settled.awaited other child both.1)
    rw [if_neg free, nearest_use_of_notMem _ covers, parent]

theorem Settled.use (settled : hierarchy.Settled name) (regular : Regular name)
    (timely : hierarchy.isInUse other = false → Text.startsWith rootName other = true →
      ∀ child ∈ name :: ancestors name, other ∈ ancestors child → hierarchy.isInUse child = false) :
    (hierarchy.use other).Settled name := by
  by_cases used : hierarchy.isInUse other = true
  · rw [use_of_isInUse hierarchy used]
    exact settled
  rw [Bool.not_eq_true] at used
  refine ⟨by simp [isInUse_use, settled.root], fun child member logger found =>
    settled.parent_use regular used (timely used) member found, ?_, ?_⟩
  · intro child member inUse between above beyond split unused unusedAbove
    obtain ⟨different, free⟩ := (isInUse_use_eq_false _).mp unusedAbove
    have idle (between' : Text) (here : between' ∈ between) : hierarchy.isInUse between' = false :=
      ((isInUse_use_eq_false _).mp (unused between' here)).2
    rw [mem_waitingFor_use hierarchy used]
    by_cases new : child = other
    · subst new
      refine .inr ⟨rfl, ?_⟩
      rw [namesAbove_eq_ancestors (regular.of_mem_cons_ancestors member), split,
        List.takeWhile_append_of_pos fun between' here => by simp [idle between' here],
        List.takeWhile_cons_of_pos (by simp [free])]
      exact List.mem_append_right _ List.mem_cons_self
    · have before : hierarchy.isInUse child = true := by simpa [isInUse_use, new] using inUse
      exact .inl ⟨different, settled.waits child member before between above beyond split idle free⟩
  · intro above child waits
    rcases (mem_waitingFor_use hierarchy used child above).mp waits with ⟨-, waits⟩ | ⟨rfl, between⟩
    · exact settled.awaited above child waits
    · exact (List.takeWhile_sublist _).subset between

theorem isInUse_nearest (root : hierarchy.isInUse rootName = true) (names : List Text) :
    hierarchy.isInUse (hierarchy.nearest names) = true := by
  rcases hierarchy.nearest_outcome names with ⟨-, above, -, -, -, used, same⟩ | ⟨-, same⟩
  · rw [same, used]
  · rw [same, root]

theorem nearest_mem_line {child : Text} (member : child ∈ line name) :
    hierarchy.nearest (ancestors child) ∈ line name := by
  rcases hierarchy.nearest_outcome (ancestors child) with ⟨between, above, beyond, split, -, -, same⟩ | ⟨-, same⟩
  · have higher : above ∈ ancestors child := split ▸ List.mem_append_right _ List.mem_cons_self
    rw [same, mem_line_iff]
    rcases mem_line_iff.mp member with rfl | below
    · cases higher
    · refine .inr (List.mem_cons_of_mem _ ?_)
      rcases List.mem_cons.mp below with rfl | below
      · exact higher
      · exact mem_ancestors_trans below higher
  · rw [same, mem_line_iff]
    exact .inl rfl

/-- The next logger in use on a line is the nearest one. -/
theorem filter_line {child : Text} (below : child ≠ rootName)
    (used : hierarchy.isInUse child = true) :
    (line child).filter hierarchy.isInUse =
      child :: (line (hierarchy.nearest (ancestors child))).filter hierarchy.isInUse := by
  have skipped {names : List Text} (idle : ∀ name ∈ names, hierarchy.isInUse name = false) :
      (names.filter (· ≠ rootName)).filter hierarchy.isInUse = [] := by
    rw [List.filter_eq_nil_iff]
    exact fun name here => by simp [idle name (List.mem_filter.mp here).1]
  rw [line, List.filter_cons_of_pos (by simpa using below), List.cons_append, List.filter_cons_of_pos used]
  congr 1
  rcases hierarchy.nearest_outcome (ancestors child) with
    ⟨between, above, beyond, split, idle, -, same⟩ | ⟨idle, same⟩
  · rw [same, line, ancestors_of_split split, split]
    simp only [List.filter_append, skipped idle, List.nil_append]
  · rw [same, List.filter_append, skipped idle]
    rfl

/-- The way up leads through all loggers in use on the line. -/
theorem Settled.upwards (settled : hierarchy.Settled name) (fuel : Nat) {child : Text}
    (member : child ∈ line name) (used : hierarchy.isInUse child = true)
    (enough : ((line child).filter hierarchy.isInUse).length ≤ fuel) :
    hierarchy.upwards fuel child = ((line child).filter hierarchy.isInUse).map hierarchy.logger := by
  induction fuel generalizing child with
  | zero =>
    have present : rootName ∈ (line child).filter hierarchy.isInUse :=
      List.mem_filter.mpr ⟨mem_line_iff.mpr (.inl rfl), settled.root⟩
    exact absurd (List.length_pos_of_mem present) (Nat.not_lt.mpr enough)
  | succ fuel ih =>
    rw [Hierarchy.upwards]
    by_cases top : child = rootName
    · subst top
      have alone : line rootName = [rootName] := rfl
      simp [alone, settled.root]
    · obtain ⟨logger, found⟩ := Option.isSome_iff_exists.mp used
      have below := (mem_line_iff.mp member).resolve_left top
      have parent : (hierarchy.logger child).parent = hierarchy.nearest (ancestors child) := by
        rw [Hierarchy.logger, found, Option.getD_some]
        exact settled.parent child below logger found
      have rest := filter_line top used
      rw [rest, List.length_cons] at enough
      rw [if_neg top, rest, List.map_cons, parent]
      refine congrArg _ (ih (nearest_mem_line member) (isInUse_nearest settled.root _) ?_)
      exact Nat.le_of_succ_le_succ enough

theorem length_filter_line_le (name : Text) :
    ((line name).filter hierarchy.isInUse).length ≤ hierarchy.loggers.length := by
  have named : (line name).filter hierarchy.isInUse ⊆ hierarchy.loggers.map Prod.fst := by
    intro other member
    obtain ⟨logger, found⟩ := Option.isSome_iff_exists.mp (List.mem_filter.mp member).2
    obtain ⟨entry, there, -⟩ := Option.map_eq_some_iff.mp found
    have same : entry.1 = other := by simpa using List.find?_some there
    exact List.mem_map.mpr ⟨entry, List.mem_of_find?_eq_some there, same⟩
  have once : ((line name).filter hierarchy.isInUse).Nodup := (nodup_line name).filter _
  simpa using (List.subperm_of_subset once named).length_le

theorem Settled.lineage (settled : hierarchy.Settled name) (used : hierarchy.isInUse name = true) :
    hierarchy.lineage name = ((line name).filter hierarchy.isInUse).map hierarchy.logger :=
  settled.upwards _ (self_mem_line name) used (Nat.le_succ_of_le (length_filter_line_le name))

/-- A record goes to the handlers of all loggers on the line. -/
theorem Settled.handlersFor (settled : hierarchy.Settled name) (used : hierarchy.isInUse name = true) :
    hierarchy.handlersFor name = (line name).flatMap fun above => (hierarchy.logger above).handlers := by
  rw [Hierarchy.handlersFor, settled.lineage used, List.flatMap_map]
  induction line name with
  | nil => rfl
  | cons above names ih =>
    by_cases inUse : hierarchy.isInUse above = true
    · rw [List.filter_cons_of_pos inUse, List.flatMap_cons, List.flatMap_cons, ih]
    · rw [Bool.not_eq_true] at inUse
      rw [List.filter_cons_of_neg (by simp [inUse]), List.flatMap_cons, ih, Hierarchy.logger,
        find?_eq_none hierarchy inUse]
      rfl

/-- The level of the nearest logger on the line that has one decides. -/
theorem Settled.effectiveLevel (settled : hierarchy.Settled name) (used : hierarchy.isInUse name = true) :
    hierarchy.effectiveLevel name =
      (((line name).map fun above => (hierarchy.logger above).threshold.level).find? (· != 0)).getD 0 := by
  rw [Hierarchy.effectiveLevel, settled.lineage used, List.map_map]
  congr 1
  induction line name with
  | nil => rfl
  | cons above names ih =>
    by_cases inUse : hierarchy.isInUse above = true
    · rw [List.filter_cons_of_pos inUse, List.map_cons, List.map_cons, List.find?_cons, List.find?_cons, ih]
      rfl
    · rw [Bool.not_eq_true] at inUse
      have level : (hierarchy.logger above).threshold.level = 0 := by
        rw [Hierarchy.logger, find?_eq_none hierarchy inUse]
        rfl
      rw [List.filter_cons_of_neg (by simp [inUse]), List.map_cons, List.find?_cons_of_neg (by simp [level]), ih]

end Hierarchy

end ChatDice.Logging
