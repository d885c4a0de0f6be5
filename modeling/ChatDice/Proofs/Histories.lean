import ChatDice.Proofs.Configuring
import ChatDice.Proofs.Emitting
import ChatDice.Proofs.Lineage
import Mathlib.Data.List.Infix

/-!
Runs of setups and records. After any run the handlers of a logger are those of its setups in their order,
its level is the one that it was given last, and the line to a name is settled; no file ever loses anything.
-/

namespace ChatDice.Logging

namespace Setup

/-- The handler of a setup whose template is accepted. -/
def handler? [Storage.WorkingDirectory] (setup : Setup) : Option Handler :=
  match template? setup.template with
  | .ok template => some ⟨setup.destination.target, template⟩
  | .error _ => none

/-- The level that a setup sets. -/
def setLevel (setup : Setup) : Level :=
  match threshold? setup.level with
  | .ok threshold => threshold.level
  | .error _ => 0

end Setup

/-- What can happen to a journal. -/
inductive Event
  | configure (setup : Setup)
  | log (time : Moment) (record : Record)

/-- The logger that an event takes into use. -/
def Event.logger : Event → Text
  | .configure setup => canonicalName setup.logger
  | .log _ record => canonicalName record.logger

def Event.setup? : Event → Option Setup
  | .configure setup => some setup
  | .log _ _ => none

/-- The setups among some events. -/
def setups (events : List Event) : List Setup := events.filterMap Event.setup?

/-- The setups of one logger. -/
def setupsOn (events : List Event) (name : Text) : List Setup :=
  (setups events).filter fun setup => canonicalName setup.logger = name

/-- The level that a logger was given last. -/
def levelOf (events : List Event) (name : Text) : Level :=
  ((setupsOn events name).getLast?.map Setup.setLevel).getD (if name = rootName then Level.warning else 0)

/-- The first level on the line of a logger that is not zero. -/
def levelFor (events : List Event) (name : Text) : Level :=
  (((line name).map (levelOf events)).find? (· != 0)).getD 0

/-- The names that the root's begins with, other than its own. -/
def rootBeginnings : List Text := ["r", "ro", "roo"]

/-- Of the loggers on the line to a name, one that is called like a beginning of the root's name comes into
use before those below it, if at all. -/
def Timely (events : List Event) (name : Text) : Prop :=
  ∀ earlier event later, events = earlier ++ event :: later → event.logger ∈ rootBeginnings →
    ∀ below ∈ earlier.map Event.logger, below ∈ name :: ancestors name → event.logger ∈ ancestors below →
      event.logger ∈ earlier.map Event.logger

theorem setups_concat (events : List Event) (event : Event) :
    setups (events ++ [event]) = setups events ++ event.setup?.toList := by
  cases event <;> simp [setups, Event.setup?]

theorem setupsOn_configure (events : List Event) (setup : Setup) (name : Text) :
    setupsOn (events ++ [.configure setup]) name =
      if canonicalName setup.logger = name then setupsOn events name ++ [setup] else setupsOn events name := by
  rw [setupsOn, setups_concat, List.filter_append]
  split <;> rename_i here <;> simp [setupsOn, Event.setup?, here]

@[simp]
theorem setupsOn_log (events : List Event) (time : Moment) (record : Record) (name : Text) :
    setupsOn (events ++ [.log time record]) name = setupsOn events name := by
  simp [setupsOn, setups_concat, Event.setup?]

theorem levelOf_configure (events : List Event) (setup : Setup) (name : Text) :
    levelOf (events ++ [.configure setup]) name =
      if canonicalName setup.logger = name then setup.setLevel else levelOf events name := by
  rw [levelOf, setupsOn_configure]
  split
  · simp
  · rfl

theorem levelOf_log (events : List Event) (time : Moment) (record : Record) (name : Text) :
    levelOf (events ++ [.log time record]) name = levelOf events name := by
  rw [levelOf, setupsOn_log, levelOf]

/-- Where no logger is called like a beginning of the root's name, all are in time. -/
theorem timely_of_notMem {events : List Event} {name : Text}
    (apart : ∀ event ∈ events, event.logger ∉ rootBeginnings) : Timely events name := by
  rintro earlier event later rfl early
  exact absurd early (apart event (List.mem_append_right _ List.mem_cons_self))

theorem Timely.of_concat {events : List Event} {event : Event} {name : Text}
    (timely : Timely (events ++ [event]) name) : Timely events name := by
  rintro earlier first later rfl
  exact timely earlier first (later ++ [event]) (by simp)

namespace Journal

variable {journal next : Journal}

theorem setting_logger_ofStorage (storage : Storage) (name : Text) :
    ((ofStorage storage).logger name).setting =
      (.number (if canonicalName name = rootName then Level.warning else 0), []) := by
  rw [logger]
  generalize canonicalName name = canonical
  by_cases top : canonical = rootName
  · rw [if_pos top, top]
    rfl
  · have unused : Hierarchy.initial.find? canonical = none := by
      simp [Hierarchy.find?, Hierarchy.initial, Ne.symm top]
    rw [if_neg top, ofStorage, Hierarchy.logger, unused]
    rfl

theorem isInUse_modifyLogger (journal : Journal) (name other : Text) (change : Logger → Logger) :
    (journal.modifyLogger name change).hierarchy.isInUse other =
      (decide (other = canonicalName name) || journal.hierarchy.isInUse other) := by
  simp [modifyLogger, use, Hierarchy.isInUse_use]

/-- What the loggers are set to by a setup. -/
theorem setting_logger_configured (journal : Journal) (name other : Text) (handler : Handler)
    (threshold : Threshold) :
    (((journal.addHandler name handler).setThreshold name threshold).logger other).setting =
      if canonicalName name = canonicalName other then (threshold, (journal.logger other).handlers ++ [handler])
      else (journal.logger other).setting := by
  split
  · rename_i here
    have same (journal : Journal) : journal.logger other = journal.logger name := by
      rw [logger, logger, here]
    rw [same, same, logger_setThreshold, logger_addHandler]
    rfl
  · rename_i different
    rw [setting_logger_setThreshold (Ne.symm different), setting_logger_addHandler (Ne.symm different)]

theorem mem_rootBeginnings {name : Text} (begins : Text.startsWith rootName name = true) (inside : name ≠ [])
    (below : name ≠ rootName) : name ∈ rootBeginnings := by
  have member : name ∈ rootName.inits := (List.mem_inits name rootName).mpr (List.isPrefixOf_iff_prefix.mp begins)
  have all : rootName.inits = [] :: rootBeginnings ++ [rootName] := by decide +kernel
  rw [all, List.mem_append, List.mem_cons, List.mem_singleton] at member
  exact (member.resolve_right below).resolve_left inside

theorem canonicalName_ne_nil (name : Text) : canonicalName name ≠ [] := by
  unfold canonicalName
  split
  · nofun
  · rename_i nonempty
    simpa using nonempty

/-- A change that keeps what is above a logger, once the logger is in use. -/
theorem settled_modifyLogger {name other : Text} (settled : (journal.use other).hierarchy.Settled name)
    {change : Logger → Logger} (still : ∀ logger, (change logger).parent = logger.parent) :
    (journal.modifyLogger other change).hierarchy.Settled name :=
  settled.modify (canonicalName other) still

theorem hierarchy_use_of_isInUse {name : Text}
    (used : journal.hierarchy.isInUse (canonicalName name) = true) :
    (journal.use name).hierarchy = journal.hierarchy :=
  Hierarchy.use_of_isInUse _ used

variable [Storage.WorkingDirectory]

/-- A journal after one more event, unless it is a setup that is refused. -/
def step (journal : Journal) : Event → Except Setup.Error Journal
  | .configure setup => (journal.configure setup).2.map fun _ => (journal.configure setup).1
  | .log time record => .ok (journal.log time record)

def run (journal : Journal) (events : List Event) : Except Setup.Error Journal := events.foldlM step journal

theorem run_concat (journal : Journal) (events : List Event) (event : Event) :
    journal.run (events ++ [event]) = journal.run events >>= (·.step event) := by
  simp [run, List.foldlM_append]

theorem run_concat_eq_ok {journal next : Journal} {events : List Event} {event : Event}
    (ran : journal.run (events ++ [event]) = .ok next) :
    ∃ middle, journal.run events = .ok middle ∧ middle.step event = .ok next := by
  rw [run_concat] at ran
  cases before : journal.run events with
  | error error =>
    rw [before] at ran
    cases ran
  | ok middle =>
    rw [before] at ran
    exact ⟨middle, rfl, ran⟩

/-- What a setup that succeeds has done. -/
theorem exists_of_step_configure {setup : Setup} (done : journal.step (.configure setup) = .ok next) :
    ∃ opened handler threshold, journal.openTarget setup.destination = .ok (handler.target, opened) ∧
      setup.handler? = some handler ∧ Setup.threshold? setup.level = .ok threshold ∧
      next = (opened.addHandler setup.logger handler).setThreshold setup.logger threshold := by
  simp only [step] at done
  have course := course_configure journal setup
  generalize journal.configure setup = outcome at course done
  cases course with
  | unopened => cases done
  | unwritable => cases done
  | unlevelled => cases done
  | @complete target opened template threshold reached written levelled =>
    cases done
    refine ⟨opened, ⟨target, template⟩, threshold, reached, ?_, levelled, rfl⟩
    rw [Setup.handler?, written, (storage_of_openTarget reached).1]

/-- What the loggers and the files of a journal have from the events before. -/
structure Follows (journal : Journal) (events : List Event) : Prop where
  inUse : ∀ name, journal.hierarchy.isInUse name = true ↔ name = rootName ∨ name ∈ events.map Event.logger
  handlers : ∀ name,
    (journal.logger name).handlers = (setupsOn events (canonicalName name)).filterMap Setup.handler?
  level : ∀ name, (journal.logger name).threshold.level = levelOf events (canonicalName name)
  opened : ∀ setup ∈ setups events, ∀ path, setup.destination.target = .file path →
    ∃ bytes, journal.storage.file? path = some bytes

theorem follows_ofStorage (storage : Storage) : (ofStorage storage).Follows [] where
  inUse name := by
    by_cases top : name = rootName
    · simp [ofStorage, Hierarchy.isInUse, Hierarchy.find?, Hierarchy.initial, top]
    · simp [ofStorage, Hierarchy.isInUse, Hierarchy.find?, Hierarchy.initial, top, Ne.symm top]
  handlers name := congrArg Prod.snd (setting_logger_ofStorage storage name)
  level name := congrArg (·.1.level) (setting_logger_ofStorage storage name)
  opened := nofun

theorem Follows.log {events : List Event} (follows : journal.Follows events) (time : Moment) (record : Record) :
    (journal.log time record).Follows (events ++ [.log time record]) := by
  have setting (name : Text) :
      ((journal.log time record).logger name).setting = (journal.logger name).setting := by
    rw [logger, hierarchy_log]
    exact setting_logger_use journal record.logger name
  refine ⟨fun name => ?_, fun name => ?_, fun name => ?_, fun setup member path asked => ?_⟩
  · rw [hierarchy_log]
    simp only [use, Hierarchy.isInUse_use, Bool.or_eq_true, decide_eq_true_eq, follows.inUse, List.map_append,
      List.mem_append, List.map_singleton, List.mem_singleton, Event.logger]
    tauto
  · rw [setupsOn_log, ← follows.handlers]
    exact congrArg Prod.snd (setting name)
  · rw [levelOf_log, ← follows.level]
    exact congrArg (·.1.level) (setting name)
  · rw [setups_concat, Event.setup?, Option.toList_none, List.append_nil] at member
    obtain ⟨bytes, found⟩ := follows.opened setup member path asked
    obtain ⟨more, grown⟩ := extendedBy_log journal time record path bytes found
    exact ⟨_, grown⟩

theorem Follows.configure {events : List Event} {setup : Setup} (follows : journal.Follows events)
    (done : journal.step (.configure setup) = .ok next) : next.Follows (events ++ [.configure setup]) := by
  obtain ⟨opened, handler, threshold, reached, provided, levelled, rfl⟩ := exists_of_step_configure done
  obtain ⟨same, extended, made⟩ := storage_of_openTarget reached
  have setting (name : Text) := setting_logger_configured opened setup.logger name handler threshold
  simp only [logger_of_openTarget reached] at setting
  refine ⟨fun name => ?_, fun name => ?_, fun name => ?_, fun other member path asked => ?_⟩
  · simp only [setThreshold, addHandler, isInUse_modifyLogger, hierarchy_of_openTarget reached, Bool.or_eq_true,
      decide_eq_true_eq, follows.inUse, List.map_append, List.mem_append, List.map_singleton,
      List.mem_singleton, Event.logger]
    tauto
  · rw [setupsOn_configure]
    refine (congrArg Prod.snd (setting name)).trans ?_
    split
    · rw [List.filterMap_append, follows.handlers, List.filterMap_cons_some provided, List.filterMap_nil]
    · exact follows.handlers name
  · have level : setup.setLevel = threshold.level := by rw [Setup.setLevel, levelled]
    rw [levelOf_configure, level]
    refine (congrArg (·.1.level) (setting name)).trans ?_
    split
    · rfl
    · exact follows.level name
  · rw [setups_concat, Event.setup?, Option.toList_some, List.mem_append, List.mem_singleton] at member
    rcases member with earlier | rfl
    · obtain ⟨bytes, found⟩ := follows.opened other earlier path asked
      obtain ⟨more, grown⟩ := extended path bytes found
      exact ⟨_, grown⟩
    · exact made path (same.trans asked)

theorem Follows.step {events : List Event} {event : Event} (follows : journal.Follows events)
    (done : journal.step event = .ok next) : next.Follows (events ++ [event]) := by
  cases event with
  | configure setup => exact follows.configure done
  | log time record =>
    cases done
    exact follows.log time record

theorem follows_run {storage : Storage} {events : List Event}
    (ran : (ofStorage storage).run events = .ok journal) : journal.Follows events := by
  induction events using List.reverseRecOn generalizing journal with
  | nil =>
    cases ran
    exact follows_ofStorage storage
  | append_singleton events event ih =>
    obtain ⟨middle, before, done⟩ := run_concat_eq_ok ran
    exact (ih before).step done

theorem extendedBy_step {event : Event} (done : journal.step event = .ok next) :
    journal.storage.ExtendedBy next.storage := by
  cases event with
  | configure setup =>
    obtain ⟨opened, handler, threshold, reached, -, -, rfl⟩ := exists_of_step_configure done
    exact (storage_of_openTarget reached).2.1
  | log time record =>
    cases done
    exact extendedBy_log journal time record

/-- No file ever loses anything. -/
theorem extendedBy_run {events : List Event} (ran : journal.run events = .ok next) :
    journal.storage.ExtendedBy next.storage := by
  induction events using List.reverseRecOn generalizing next with
  | nil =>
    cases ran
    exact .refl _
  | append_singleton events event ih =>
    obtain ⟨middle, before, done⟩ := run_concat_eq_ok ran
    exact (ih before).trans (extendedBy_step done)

/-- An event leaves the line to a name as settled as its logger does. -/
theorem settled_step {event : Event} {name : Text} (done : journal.step event = .ok next)
    (settled : (journal.hierarchy.use event.logger).Settled name) : next.hierarchy.Settled name := by
  cases event with
  | log time record =>
    cases done
    rw [hierarchy_log]
    exact settled
  | configure setup =>
    obtain ⟨opened, handler, threshold, reached, -, -, rfl⟩ := exists_of_step_configure done
    rw [← hierarchy_of_openTarget reached] at settled
    have added : (opened.addHandler setup.logger handler).hierarchy.Settled name :=
      settled_modifyLogger settled fun _ => rfl
    -- The level is set on a logger that has been in use since its handler was added.
    refine settled_modifyLogger ?_ fun _ => rfl
    rwa [hierarchy_use_of_isInUse (by simp [addHandler, isInUse_modifyLogger])]

theorem settled_run {storage : Storage} {events : List Event} {name : Text} (regular : Regular name)
    (timely : Timely events name) (ran : (ofStorage storage).run events = .ok journal) :
    journal.hierarchy.Settled name := by
  induction events using List.reverseRecOn generalizing journal with
  | nil =>
    cases ran
    exact Hierarchy.settled_initial name
  | append_singleton events event ih =>
    obtain ⟨middle, before, done⟩ := run_concat_eq_ok ran
    have inUse := (follows_run before).inUse
    refine settled_step done ((ih timely.of_concat before).use regular fun unused begins child member above => ?_)
    -- A logger below a new one that the root's name begins with would have to be in use too early.
    rw [Bool.eq_false_iff]
    intro used
    have apart : ¬ (event.logger = rootName ∨ event.logger ∈ events.map Event.logger) := fun before =>
      absurd ((inUse _).mpr before) (by simp [unused])
    rcases (inUse child).mp used with rfl | present
    · cases above
    · have early := mem_rootBeginnings begins (mem_ancestors above).1 fun top => apart (.inl top)
      exact apart (.inr (timely events event [] rfl early child present member above))

end Journal

end ChatDice.Logging
