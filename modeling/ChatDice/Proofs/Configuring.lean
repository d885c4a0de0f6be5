import ChatDice.Proofs.Appending
import ChatDice.Proofs.Loggers

/-!
What configuring a logger leaves behind. Up to the handler nothing about any logger has changed, so a
refused file or template keeps all of them as they were. The level comes last: a value that is none
keeps the level, but the logger has the handler by then.
-/

namespace ChatDice.Logging

theorem Level.named?_eq_some_iff {name : Text} {level : Level} :
    Level.named? name = some level ↔ (name, level) ∈ Level.names := by
  have exact : ∀ entry ∈ Level.names, Level.named? entry.1 = some entry.2 := by decide +kernel
  constructor
  · intro named
    obtain ⟨entry, found, rfl⟩ := Option.map_eq_some_iff.mp named
    have same : entry.1 = name := by simpa using List.find?_some found
    exact same ▸ List.mem_of_find?_eq_some found
  · intro member
    exact exact _ member

namespace Setup

/-- The level that a value stands for: a number, a truth value as one or zero, or the exact name of a
level. Nothing else stands for one. -/
inductive Means : Datum → Level → Prop
  | number (n : Int) : Means (.int n) n
  | truth : Means (.bool true) 1
  | falsehood : Means (.bool false) 0
  | name {name : Text} {level : Level} (member : (name, level) ∈ Level.names) : Means (.str name) level

theorem means_of_threshold? {given : Datum} {threshold : Threshold}
    (taken : threshold? given = .ok threshold) : Means given threshold.level := by
  cases given with
  | int n =>
    cases taken
    exact .number n
  | bool b =>
    cases taken
    cases b
    · exact .falsehood
    · exact .truth
  | str name =>
    simp only [threshold?] at taken
    cases named : Level.named? name with
    | none => simp [named] at taken
    | some level =>
      rw [named] at taken
      cases taken
      exact .name (Level.named?_eq_some_iff.mp named)
  | _ =>
    simp only [threshold?] at taken
    split at taken <;> cases taken

theorem exists_threshold?_of_means {given : Datum} {level : Level} (means : Means given level) :
    ∃ threshold, threshold? given = .ok threshold ∧ threshold.level = level := by
  cases means with
  | number => exact ⟨.number _, rfl, rfl⟩
  | truth => exact ⟨.truth true, rfl, rfl⟩
  | falsehood => exact ⟨.truth false, rfl, rfl⟩
  | name member =>
    refine ⟨.number level, ?_, rfl⟩
    simp [threshold?, Level.named?_eq_some_iff.mpr member]

theorem Means.unique {given : Datum} {first second : Level} (one : Means given first)
    (other : Means given second) : first = second := by
  obtain ⟨threshold, taken, rfl⟩ := exists_threshold?_of_means one
  obtain ⟨threshold', taken', rfl⟩ := exists_threshold?_of_means other
  cases taken.symm.trans taken'
  rfl

/-- A value is refused as a level exactly if it stands for none. -/
theorem not_means_of_refused {given : Datum} {error : Error} (refused : threshold? given = .error error)
    (level : Level) : ¬ Means given level := by
  intro means
  obtain ⟨threshold, taken, -⟩ := exists_threshold?_of_means means
  rw [refused] at taken
  cases taken

end Setup

/-- The target that a destination is opened as; a file goes by the path of its absolute name. -/
def Destination.target [Storage.WorkingDirectory] : Destination → Target
  | .errorStream => .errorStream
  | .memoryStream => .memoryStream
  | .file name => .file (Storage.normalised (Storage.absolute name))
  | .broken => .broken

namespace Journal

variable {journal : Journal} {setup : Setup}

@[simp]
theorem logger_addHandler (journal : Journal) (name : Text) (handler : Handler) :
    (journal.addHandler name handler).logger name =
      { journal.logger name with handlers := (journal.logger name).handlers ++ [handler] } :=
  logger_modifyLogger journal name _

@[simp]
theorem logger_setThreshold (journal : Journal) (name : Text) (threshold : Threshold) :
    (journal.setThreshold name threshold).logger name = { journal.logger name with threshold } :=
  logger_modifyLogger journal name _

theorem setting_logger_addHandler {name other : Text} (different : canonicalName other ≠ canonicalName name)
    (journal : Journal) (handler : Handler) :
    ((journal.addHandler name handler).logger other).setting = (journal.logger other).setting :=
  setting_logger_modifyLogger journal different _

theorem setting_logger_setThreshold {name other : Text} (different : canonicalName other ≠ canonicalName name)
    (journal : Journal) (threshold : Threshold) :
    ((journal.setThreshold name threshold).logger other).setting = (journal.logger other).setting :=
  setting_logger_modifyLogger journal different _

section Setups

variable [Storage.WorkingDirectory]

/-- How far a setup gets, and what it has done by then. -/
inductive Course (journal : Journal) (setup : Setup) : Journal × Except Setup.Error Unit → Prop
  | unopened {error : Setup.Error} (refused : journal.openTarget setup.destination = .error error) :
      Course journal setup (journal, .error error)
  | unwritable {target : Target} {next : Journal} {error : Setup.Error}
      (opened : journal.openTarget setup.destination = .ok (target, next))
      (refused : Setup.template? setup.template = .error error) : Course journal setup (next, .error error)
  | unlevelled {target : Target} {next : Journal} {template : Text} {error : Setup.Error}
      (opened : journal.openTarget setup.destination = .ok (target, next))
      (written : Setup.template? setup.template = .ok template)
      (refused : Setup.threshold? setup.level = .error error) :
      Course journal setup (next.addHandler setup.logger ⟨target, template⟩, .error error)
  | complete {target : Target} {next : Journal} {template : Text} {threshold : Threshold}
      (opened : journal.openTarget setup.destination = .ok (target, next))
      (written : Setup.template? setup.template = .ok template)
      (levelled : Setup.threshold? setup.level = .ok threshold) :
      Course journal setup
        ((next.addHandler setup.logger ⟨target, template⟩).setThreshold setup.logger threshold, .ok ())

theorem course_configure (journal : Journal) (setup : Setup) :
    Course journal setup (journal.configure setup) := by
  unfold configure
  cases opened : journal.openTarget setup.destination with
  | error error => exact .unopened opened
  | ok outcome =>
    obtain ⟨target, next⟩ := outcome
    cases written : Setup.template? setup.template with
    | error error => exact .unwritable opened written
    | ok template =>
      cases levelled : Setup.threshold? setup.level with
      | error error => simpa only [levelled] using Course.unlevelled opened written levelled
      | ok threshold => simpa only [levelled] using Course.complete opened written levelled

/-- Opening a destination may add a file; it leaves the loggers alone. -/
theorem hierarchy_of_openTarget {destination : Destination} {target : Target} {next : Journal}
    (opened : journal.openTarget destination = .ok (target, next)) :
    next.hierarchy = journal.hierarchy := by
  cases destination with
  | file name =>
    simp only [openTarget] at opened
    split at opened
    · cases opened; rfl
    · cases opened
  | _ => cases opened; rfl

/-- What is opened is the destination's target. A file that is asked for is there from then on, and no
file has lost anything. -/
theorem storage_of_openTarget {destination : Destination} {target : Target} {next : Journal}
    (opened : journal.openTarget destination = .ok (target, next)) :
    target = destination.target ∧ journal.storage.ExtendedBy next.storage ∧
      ∀ path, target = .file path → ∃ bytes, next.storage.file? path = some bytes := by
  cases destination with
  | file name =>
    simp only [openTarget] at opened
    split at opened <;> rename_i path storage reached
    · cases opened
      obtain ⟨rfl, files⟩ := Storage.openToAppend_eq_ok reached
      refine ⟨rfl, Storage.extendedBy_openToAppend reached, fun other same => ?_⟩
      cases same
      exact ⟨_, (files _).trans (if_pos rfl)⟩
    · cases opened
  | _ =>
    cases opened
    refine ⟨rfl, .refl _, fun path same => ?_⟩
    cases same

theorem logger_of_openTarget {destination : Destination} {target : Target} {next : Journal}
    (opened : journal.openTarget destination = .ok (target, next)) (name : Text) :
    next.logger name = journal.logger name :=
  congrArg (Hierarchy.logger · (canonicalName name)) (hierarchy_of_openTarget opened)

/-- The handler that a setup asks for: its destination can be opened, and its template is accepted. -/
def Provides (journal : Journal) (setup : Setup) (handler : Handler) : Prop :=
  (∃ next, journal.openTarget setup.destination = .ok (handler.target, next)) ∧
    Setup.template? setup.template = .ok handler.template

theorem not_provides_of_unopened {error : Setup.Error}
    (refused : journal.openTarget setup.destination = .error error) (handler : Handler) :
    ¬ journal.Provides setup handler := by
  rintro ⟨⟨next, opened⟩, -⟩
  rw [refused] at opened
  cases opened

theorem not_provides_of_unwritable {error : Setup.Error}
    (refused : Setup.template? setup.template = .error error) (handler : Handler) :
    ¬ journal.Provides setup handler := by
  rintro ⟨-, written⟩
  rw [refused] at written
  cases written

theorem Provides.unique {first second : Handler} (one : journal.Provides setup first)
    (other : journal.Provides setup second) : first = second := by
  obtain ⟨target, template⟩ := first
  obtain ⟨target', template'⟩ := second
  obtain ⟨⟨next, opened⟩, written⟩ := one
  obtain ⟨⟨next', opened'⟩, written'⟩ := other
  cases opened.symm.trans opened'
  cases written.symm.trans written'
  rfl

/-- What becomes of the logger that is configured. -/
inductive Leaves (journal : Journal) (setup : Setup) (after : Logger) : Except Setup.Error Unit → Prop
  | kept {error : Setup.Error} (refused : ∀ handler, ¬ journal.Provides setup handler)
      (same : after.setting = (journal.logger setup.logger).setting) : Leaves journal setup after (.error error)
  | gained {error : Setup.Error} {handler : Handler} (provided : journal.Provides setup handler)
      (refused : ∀ level, ¬ Setup.Means setup.level level)
      (handlers : after.handlers = (journal.logger setup.logger).handlers ++ [handler])
      (threshold : after.threshold = (journal.logger setup.logger).threshold) :
      Leaves journal setup after (.error error)
  | configured {handler : Handler} {level : Level} (provided : journal.Provides setup handler)
      (means : Setup.Means setup.level level)
      (handlers : after.handlers = (journal.logger setup.logger).handlers ++ [handler])
      (threshold : after.threshold.level = level) : Leaves journal setup after (.ok ())

theorem leaves_configure (journal : Journal) (setup : Setup) :
    Leaves journal setup ((journal.configure setup).1.logger setup.logger) (journal.configure setup).2 := by
  have course := course_configure journal setup
  generalize journal.configure setup = outcome at course
  cases course with
  | unopened refused => exact .kept (not_provides_of_unopened refused) rfl
  | unwritable opened refused =>
    exact .kept (not_provides_of_unwritable refused) (congrArg _ (logger_of_openTarget opened _))
  | @unlevelled target next template error opened written refused =>
    have provided : journal.Provides setup ⟨target, template⟩ := ⟨⟨next, opened⟩, written⟩
    refine .gained provided (Setup.not_means_of_refused refused) ?_ ?_
    all_goals simp [logger_of_openTarget opened]
  | @complete target next template threshold opened written levelled =>
    have provided : journal.Provides setup ⟨target, template⟩ := ⟨⟨next, opened⟩, written⟩
    refine .configured provided (Setup.means_of_threshold? levelled) ?_ ?_
    all_goals simp [logger_of_openTarget opened]

/-- No other logger is set to anything else, however the setup ends. -/
theorem setting_configure_of_ne {other : Text} (different : canonicalName other ≠ canonicalName setup.logger)
    (journal : Journal) :
    ((journal.configure setup).1.logger other).setting = (journal.logger other).setting := by
  have course := course_configure journal setup
  generalize journal.configure setup = outcome at course
  cases course with
  | unopened refused => rfl
  | unwritable opened refused => rw [logger_of_openTarget opened]
  | unlevelled opened written refused =>
    rw [setting_logger_addHandler different, logger_of_openTarget opened]
  | complete opened written levelled =>
    rw [setting_logger_setThreshold different, setting_logger_addHandler different,
      logger_of_openTarget opened]

/-- A setup whose destination or template is refused keeps the logger as it is. One whose handler is
provided adds exactly this handler, and then sets the level; a value that is no level is refused only
there, and keeps the level alone. -/
theorem configure_outcome (journal : Journal) (setup : Setup) :
    ((∀ handler, ¬ journal.Provides setup handler) →
      (∃ error, (journal.configure setup).2 = .error error) ∧
        ((journal.configure setup).1.logger setup.logger).handlers = (journal.logger setup.logger).handlers ∧
        ((journal.configure setup).1.logger setup.logger).threshold =
          (journal.logger setup.logger).threshold) ∧
    (∀ handler, journal.Provides setup handler →
      ((journal.configure setup).1.logger setup.logger).handlers =
          (journal.logger setup.logger).handlers ++ [handler] ∧
        (∀ level, Setup.Means setup.level level → (journal.configure setup).2 = .ok () ∧
          ((journal.configure setup).1.logger setup.logger).threshold.level = level) ∧
        ((∀ level, ¬ Setup.Means setup.level level) →
          (∃ error, (journal.configure setup).2 = .error error) ∧
            ((journal.configure setup).1.logger setup.logger).threshold =
              (journal.logger setup.logger).threshold)) ∧
    ∀ other, canonicalName other ≠ canonicalName setup.logger →
      ((journal.configure setup).1.logger other).setting = (journal.logger other).setting := by
  have leaves := leaves_configure journal setup
  have others (other : Text) (different : canonicalName other ≠ canonicalName setup.logger) :=
    setting_configure_of_ne different journal
  generalize (journal.configure setup).2 = result at leaves
  generalize (journal.configure setup).1.logger setup.logger = after at leaves
  cases leaves with
  | kept refused same =>
    refine ⟨fun _ => ⟨⟨_, rfl⟩, congrArg Prod.snd same, congrArg Prod.fst same⟩, ?_, others⟩
    exact fun handler provided => absurd provided (refused handler)
  | @gained error handler provided refused handlers threshold =>
    refine ⟨fun none => absurd provided (none handler), fun other provided' => ?_, others⟩
    obtain rfl := provided.unique provided'
    exact ⟨handlers, fun level means => absurd means (refused level), fun _ => ⟨⟨error, rfl⟩, threshold⟩⟩
  | @configured handler level provided means handlers threshold =>
    refine ⟨fun none => absurd provided (none handler), fun other provided' => ?_, others⟩
    obtain rfl := provided.unique provided'
    refine ⟨handlers, fun level' means' => ⟨rfl, ?_⟩, fun none => absurd means (none level)⟩
    exact threshold.trans (means.unique means')

end Setups

/-- A setup in all orders but for its level, which is a word that names none. -/
def loudSetup : Setup := ⟨"a", .memoryStream, .null, .str "LOUD"⟩

/-- That setup is refused, yet its handler stays. -/
theorem handler_left_loudSetup :
    ((ofStorage .empty).configure loudSetup).2 = .error (.unknownLevel "LOUD") ∧
      ((ofStorage .empty).logger "a").handlers = [] ∧
      (((ofStorage .empty).configure loudSetup).1.logger "a").handlers =
        [⟨.memoryStream, defaultTemplate⟩] :=
  ⟨rfl, rfl, rfl⟩

/-- A directory below the root, with nothing in it. -/
def temporary : Storage := ⟨[(Storage.normalised "/tmp", .directory)]⟩

/-- A logger that is configured twice for one file, the second time by the name of a level. -/
def namedSetup : Setup := ⟨"a", .file "/tmp/a.log", .str "%(message)s", .str "DEBUG"⟩

theorem configure_outcome_namedSetup :
    let journal := ((ofStorage temporary).configure namedSetup).1
    journal.Provides namedSetup ⟨.file (Storage.normalised "/tmp/a.log"), "%(message)s"⟩ ∧
      Setup.Means namedSetup.level 10 ∧
      (journal.configure namedSetup).2 = .ok () ∧
      ((journal.configure namedSetup).1.logger "a").handlers =
        (journal.logger "a").handlers ++ [⟨.file (Storage.normalised "/tmp/a.log"), "%(message)s"⟩] ∧
      ((journal.configure namedSetup).1.logger "a").threshold.level = 10 := by
  intro journal
  have provided : journal.Provides namedSetup ⟨.file (Storage.normalised "/tmp/a.log"), "%(message)s"⟩ := by
    have valid : Template.isValid "%(message)s" = true := by decide +kernel
    have truthy : (Datum.str "%(message)s").truthy = true := by decide +kernel
    have opened : (journal.openTarget namedSetup.destination).toOption.map Prod.fst =
        some (.file (Storage.normalised "/tmp/a.log")) := by decide +kernel
    refine ⟨?_, by simp [namedSetup, Setup.template?, truthy, valid]⟩
    cases outcome : journal.openTarget namedSetup.destination with
    | error error =>
      rw [outcome] at opened
      cases opened
    | ok pair =>
      rw [outcome] at opened
      exact ⟨pair.2, congrArg _ (Prod.ext (Option.some.inj opened) rfl)⟩
  have means : Setup.Means namedSetup.level 10 := .name (by decide +kernel)
  have outcome := (configure_outcome journal namedSetup).2.1 _ provided
  exact ⟨provided, means, (outcome.2.1 10 means).1, outcome.1, (outcome.2.1 10 means).2⟩

end Journal

end ChatDice.Logging
