import ChatDice.Logging.Setup

/-!
Looking loggers up. Taking a logger into use may put others below it, but it leaves the level and the
handlers of every logger as they are; changing a logger leaves those of all others.
-/

namespace ChatDice.Logging

/-- What a logger is set to, wherever it stands. -/
def Logger.setting (logger : Logger) : Threshold × List Handler := (logger.threshold, logger.handlers)

namespace Hierarchy

variable (hierarchy : Hierarchy)

theorem find?_modify (name other : Text) (change : Logger → Logger) :
    (hierarchy.modify name change).find? other =
      (hierarchy.find? other).map fun logger => if other = name then change logger else logger := by
  simp only [find?, modify, List.find?_map, Option.map_map]
  have kept : ((fun entry => decide (entry.1 = other)) ∘ fun entry : Text × Logger =>
      (entry.1, if entry.1 = name then change entry.2 else entry.2)) =
      fun entry => decide (entry.1 = other) := rfl
  rw [kept]
  cases found : hierarchy.loggers.find? fun entry => decide (entry.1 = other) with
  | none => rfl
  | some entry =>
    have same : entry.1 = other := by simpa using List.find?_some found
    simp [same]

theorem find?_adopt (name child other : Text) :
    (adopt name hierarchy child).find? other = (hierarchy.find? other).map fun logger =>
      if other = child then if logger.parent.startsWith name then logger else { logger with parent := name }
      else logger :=
  find?_modify hierarchy child other _

@[simp]
theorem isInUse_modify (name other : Text) (change : Logger → Logger) :
    (hierarchy.modify name change).isInUse other = hierarchy.isInUse other := by
  simp [isInUse, find?_modify]

@[simp]
theorem isInUse_adoptAll (name other : Text) (children : List Text) :
    (children.foldl (adopt name) hierarchy).isInUse other = hierarchy.isInUse other := by
  induction children generalizing hierarchy with
  | nil => rfl
  | cons child children ih => rw [List.foldl_cons, ih, adopt, isInUse_modify]

/-- The children that wait are taken over; nothing else about a logger changes. -/
theorem find?_adoptAll (name other : Text) (children : List Text) :
    (children.foldl (adopt name) hierarchy).find? other = (hierarchy.find? other).map fun logger =>
      if other ∈ children ∧ logger.parent.startsWith name = false then { logger with parent := name }
      else logger := by
  induction children generalizing hierarchy with
  | nil => simp
  | cons child children ih =>
    rw [List.foldl_cons, ih, find?_adopt, Option.map_map]
    refine congrArg (Option.map · _) (funext fun logger => ?_)
    have taken : Text.startsWith name name = true := by simp [Text.startsWith]
    by_cases first : other = child
    · by_cases above : logger.parent.startsWith name = true
      · simp [first, above]
      · simp [first, above, taken]
    · simp [first]

theorem use_of_isInUse {name : Text} (used : hierarchy.isInUse name = true) :
    hierarchy.use name = hierarchy := by
  simp [use, used]

theorem find?_eq_none {name : Text} (unused : hierarchy.isInUse name = false) :
    hierarchy.find? name = none := by
  simpa [isInUse] using unused

/-- A look-up once a name is taken into use. -/
theorem find?_use {name : Text} (unused : hierarchy.isInUse name = false) (other : Text) :
    (hierarchy.use name).find? other =
      if other = name then some (freshLogger (hierarchy.parentOf name))
      else ((hierarchy.waitingFor name).foldl (adopt name) hierarchy).find? other := by
  have missing : ((hierarchy.waitingFor name).foldl (adopt name) hierarchy).find? name = none := by
    simpa [isInUse] using (isInUse_adoptAll hierarchy name name (hierarchy.waitingFor name)).trans unused
  rw [use, if_neg (by simp [unused])]
  simp only [find?, List.find?_append, List.find?_cons, List.find?_nil] at missing ⊢
  by_cases same : other = name
  · subst same
    rw [if_pos rfl, Option.map_eq_none_iff.mp missing]
    simp
  · have different : ¬ name = other := fun h => same h.symm
    simp [same, different]

theorem isInUse_use (name other : Text) :
    (hierarchy.use name).isInUse other = (decide (other = name) || hierarchy.isInUse other) := by
  by_cases used : hierarchy.isInUse name = true
  · rw [use_of_isInUse hierarchy used]
    by_cases same : other = name
    · subst same; simp [used]
    · simp [same]
  · rw [Bool.not_eq_true] at used
    rw [isInUse, find?_use hierarchy used]
    by_cases same : other = name
    · simp [same]
    · rw [if_neg same, ← isInUse, isInUse_adoptAll]
      simp [same]

/-- The logger that is taken into use is what it would have been. -/
theorem logger_use_self (name : Text) : (hierarchy.use name).logger name = hierarchy.logger name := by
  by_cases used : hierarchy.isInUse name = true
  · rw [use_of_isInUse hierarchy used]
  · rw [Bool.not_eq_true] at used
    rw [logger, find?_use hierarchy used, if_pos rfl, logger, find?_eq_none hierarchy used]
    rfl

@[simp]
theorem setting_logger_use (name other : Text) :
    ((hierarchy.use name).logger other).setting = (hierarchy.logger other).setting := by
  by_cases used : hierarchy.isInUse name = true
  · rw [use_of_isInUse hierarchy used]
  rw [Bool.not_eq_true] at used
  by_cases same : other = name
  · rw [same, logger_use_self]
  rw [logger, find?_use hierarchy used, if_neg same, find?_adoptAll, logger]
  cases hierarchy.find? other with
  | none => rfl
  | some found =>
    simp only [Option.map_some, Option.getD_some]
    split <;> rfl

theorem logger_modify_self {name : Text} (used : hierarchy.isInUse name = true) (change : Logger → Logger) :
    (hierarchy.modify name change).logger name = change (hierarchy.logger name) := by
  obtain ⟨found, same⟩ := Option.isSome_iff_exists.mp used
  simp [logger, find?_modify, same]

theorem setting_logger_modify {name other : Text} (different : other ≠ name) (change : Logger → Logger) :
    ((hierarchy.modify name change).logger other).setting = (hierarchy.logger other).setting := by
  rw [logger, find?_modify, logger]
  cases hierarchy.find? other with
  | none => rfl
  | some found => simp [different]

end Hierarchy

namespace Journal

variable (journal : Journal)

@[simp]
theorem setting_logger_use (name other : Text) :
    ((journal.use name).logger other).setting = (journal.logger other).setting :=
  Hierarchy.setting_logger_use _ _ _

/-- A changed logger is what the change makes of it, in use before or not. -/
theorem logger_modifyLogger (name : Text) (change : Logger → Logger) :
    (journal.modifyLogger name change).logger name = change (journal.logger name) := by
  have used : (journal.use name).hierarchy.isInUse (canonicalName name) = true := by
    simp [use, Hierarchy.isInUse_use]
  exact (Hierarchy.logger_modify_self _ used change).trans
    (congrArg change (Hierarchy.logger_use_self _ _))

theorem setting_logger_modifyLogger {name other : Text} (different : canonicalName other ≠ canonicalName name)
    (change : Logger → Logger) :
    ((journal.modifyLogger name change).logger other).setting = (journal.logger other).setting := by
  refine (Hierarchy.setting_logger_modify _ different change).trans ?_
  exact setting_logger_use journal name other

end Journal

end ChatDice.Logging
