import ChatDice.Program
import ChatDice.Proofs.Loading

/-!
Which configurations are settled: accepted, or turned down with a rejection. The checks are gone
through one by one; a configuration that is not sound ends in a fault at one of them.
-/

namespace ChatDice

namespace Config

/-- What stands for the version, the connection and logging, with what each of them is by default. -/
def versionOf (entries : Entries) : Datum := (Datum.find? entries "version").getD (.str "1.0")

def connectionOf (entries : Entries) : Datum := (Datum.find? entries "nats").getD .null

def loggingOf (entries : Entries) : Datum := (Datum.find? entries "logging").getD (.map [])

/-- The text of the level that is asked for, from outside or by the logging section. -/
def AsksLevel (entries : Entries) (override : Datum) (asked : Text) : Prop :=
  if override.truthy then override.text = .ok asked
  else ∃ level, (loggingOf entries).entry "level" (.str "info") = .ok level ∧ level.text = .ok asked

theorem shown_eq_ok_iff {d : Datum} {t : Text} : shown d = .ok t ↔ d.text = .ok t :=
  mapError_eq_ok_iff

theorem levelOf_eq_ok_iff {name : Datum} {level : Logging.Level} :
    levelOf name = .ok level ↔ ∃ t, name.text = .ok t ∧ Logging.Level.ofName? t = some level := by
  simp only [levelOf, bind_eq_ok_iff, shown_eq_ok_iff]
  refine exists_congr fun t => and_congr_right fun _ => ?_
  cases Logging.Level.ofName? t <;> simp [pure, Except.pure, throw, throwThe, MonadExceptOf.throw]

theorem checkConnection_eq (entries : Entries) :
    checkConnection entries =
      if (connectionOf entries).truthy then .ok (connectionOf entries)
      else .error (.rejected .noConnection) := rfl

theorem checkConnection_eq_ok_iff {entries : Entries} {connection : Datum} :
    checkConnection entries = .ok connection ↔
      (connectionOf entries).truthy = true ∧ connection = connectionOf entries := by
  rw [checkConnection_eq]
  by_cases there : (connectionOf entries).truthy = true
  · simp [there, eq_comm]
  · simp [there]

/-- The value that is asked for as the level. -/
def askedLevel (logging override : Datum) : Except Error Datum :=
  if override.truthy then .ok override else (logging.entry "level" (.str "info")).mapError .notMapping

theorem checkLevel_eq (logging override : Datum) :
    checkLevel logging override = askedLevel logging override >>= levelOf := by
  unfold checkLevel askedLevel
  split <;> rfl

theorem asksLevel_iff {entries : Entries} {override : Datum} {asked : Text} :
    AsksLevel entries override asked ↔
      ∃ level, askedLevel (loggingOf entries) override = .ok level ∧ level.text = .ok asked := by
  unfold AsksLevel askedLevel
  split
  · simp
  · simp only [mapError_eq_ok_iff]

theorem checkLevel_eq_ok_iff {entries : Entries} {override : Datum} {level : Logging.Level} :
    checkLevel (loggingOf entries) override = .ok level ↔
      ∃ asked, AsksLevel entries override asked ∧ Logging.Level.ofName? asked = some level := by
  simp only [checkLevel_eq, bind_eq_ok_iff, levelOf_eq_ok_iff, asksLevel_iff]
  constructor
  · rintro ⟨value, asks, asked, text, named⟩
    exact ⟨asked, ⟨value, asks, text⟩, named⟩
  · rintro ⟨asked, ⟨value, asks, text⟩, named⟩
    exact ⟨value, asks, asked, text, named⟩

/-- What a configuration is when all checks have passed. -/
def checkedOf (entries : Entries) (level : Logging.Level) : Checked :=
  { entries, connection := connectionOf entries, logging := loggingOf entries, level }

section Checks

variable [Packages]

/-- The configuration has this version. -/
def HasVersion (entries : Entries) (version : Packages.Release) : Prop :=
  ∃ written, (versionOf entries).text = .ok written ∧ Packages.readRelease written = .ok version

/-- The configuration is new enough, and there is something to connect to. -/
def Passes (entries : Entries) : Prop :=
  ∃ version, HasVersion entries version ∧ Packages.precedes version Packages.least = false ∧
    (connectionOf entries).truthy = true

theorem checkVersion_eq (entries : Entries) :
    checkVersion entries =
      shown (versionOf entries) >>= fun written =>
        (Packages.readRelease written).mapError .version >>= fun version =>
          if Packages.precedes version Packages.least then .error (.rejected (.unsupported written))
          else .ok () := by
  unfold checkVersion
  rw [Packages.readRelease_least]
  rfl

theorem checkVersion_eq_ok_iff {entries : Entries} {done : Unit} :
    checkVersion entries = .ok done ↔
      ∃ version, HasVersion entries version ∧ Packages.precedes version Packages.least = false := by
  simp only [checkVersion_eq, HasVersion, bind_eq_ok_iff, shown_eq_ok_iff, mapError_eq_ok_iff]
  constructor
  · rintro ⟨written, text, version, parsed, recent⟩
    refine ⟨version, ⟨written, text, parsed⟩, ?_⟩
    split at recent <;> simp_all
  · rintro ⟨version, ⟨written, text, parsed⟩, recent⟩
    exact ⟨written, text, version, parsed, by rw [recent]; rfl⟩

theorem check_eq (entries : Entries) (override : Datum) :
    check entries override =
      checkVersion entries >>= fun _ =>
        checkConnection entries >>= fun connection =>
          checkLevel (loggingOf entries) override >>= fun level =>
            .ok { entries, connection, logging := loggingOf entries, level } := rfl

theorem check_eq_ok_iff {entries : Entries} {override : Datum} {checked : Checked} :
    check entries override = .ok checked ↔ Passes entries ∧ ∃ asked level,
      AsksLevel entries override asked ∧ Logging.Level.ofName? asked = some level ∧
        checked = checkedOf entries level := by
  simp only [check_eq, bind_eq_ok_iff, checkVersion_eq_ok_iff, checkConnection_eq_ok_iff,
    checkLevel_eq_ok_iff]
  constructor
  · rintro ⟨-, ⟨version, written, recent⟩, connection, ⟨there, rfl⟩, level, ⟨asked, asks, named⟩, done⟩
    cases done
    exact ⟨⟨version, written, recent, there⟩, asked, level, asks, named, rfl⟩
  · rintro ⟨⟨version, written, recent, there⟩, asked, level, asks, named, rfl⟩
    exact ⟨(), ⟨version, written, recent⟩, _, ⟨there, rfl⟩, level, ⟨asked, asks, named⟩, rfl⟩

end Checks

theorem storage_configureRoot (journal : Logging.Journal) (level : Logging.Level) (template : Text) :
    (journal.configureRoot level template).storage = journal.storage := by
  unfold Logging.Journal.configureRoot
  split <;> rfl

theorem template?_logTemplate : Logging.Setup.template? (.str logTemplate) = .ok logTemplate := by
  have valid : Logging.Template.isValid logTemplate = true := by decide +kernel
  have truthy : (Datum.str logTemplate).truthy = true := by decide +kernel
  simp [Logging.Setup.template?, truthy, valid]

section SettingUp

variable [Storage.WorkingDirectory]

/-- A mapping that asks for a log file, if for any, that can be opened to be written on. -/
def Loggable (storage : Storage) (logging : Datum) : Prop :=
  ∃ entries, logging.unfolded = .map entries ∧
    ∀ file, Datum.find? entries "log_file" = some (.str file) → file ≠ [] →
      ∃ opened, storage.openToAppend file = .ok opened

/-- A value that is asked for gets a handler, unless it names a file that cannot be opened. -/
theorem exists_openTarget_iff {journal : Logging.Journal} {file : Datum} :
    (∃ opened, journal.openTarget (logDestination file) = .ok opened) ↔
      ∀ name, file = .str name → ∃ opened, journal.storage.openToAppend name = .ok opened := by
  cases file with
  | str name =>
    simp only [logDestination, Logging.Journal.openTarget, Datum.str.injEq, forall_eq']
    cases journal.storage.openToAppend name <;> simp
  | _ => exact iff_of_true ⟨_, rfl⟩ nofun

theorem configure_eq_ok_iff {journal : Logging.Journal} {setup : Logging.Setup} {done : Unit} :
    (journal.configure setup).2 = .ok done ↔
      (∃ opened, journal.openTarget setup.destination = .ok opened) ∧
      (∃ template, Logging.Setup.template? setup.template = .ok template) ∧
      ∃ threshold, Logging.Setup.threshold? setup.level = .ok threshold := by
  unfold Logging.Journal.configure
  cases journal.openTarget setup.destination with
  | error error => simp
  | ok opened =>
    dsimp only
    cases Logging.Setup.template? setup.template with
    | error error => simp
    | ok template =>
      dsimp only
      cases Logging.Setup.threshold? setup.level <;> simp

theorem setUpLogging_eq_ok_iff {journal : Logging.Journal} {checked : Checked} {done : Unit} :
    (setUpLogging journal checked).2 = .ok done ↔ Loggable journal.storage checked.logging := by
  unfold setUpLogging Loggable Datum.entry
  cases checked.logging.unfolded with
  | map entries =>
    simp only [Datum.map.injEq, exists_eq_left']
    cases found : Datum.find? entries "log_file" with
    | none => exact iff_of_true rfl nofun
    | some file =>
      simp only [Option.getD_some, Option.some.injEq]
      by_cases asked : file.truthy = true
      · simp only [asked, if_true]
        simp only [mapError_eq_ok_iff, configure_eq_ok_iff, exists_openTarget_iff, storage_configureRoot,
          template?_logTemplate]
        constructor
        · rintro ⟨opens, -⟩ name same -
          exact opens name same
        · intro opens
          refine ⟨fun name same => opens name same ?_, ⟨_, rfl⟩, ⟨_, rfl⟩⟩
          rintro rfl
          simp [same, Datum.truthy] at asked
      · simp only [asked]
        refine iff_of_true rfl ?_
        rintro name rfl named
        simp [Datum.truthy, named] at asked
  | _ => exact iff_of_false nofun (by simp)

/-- What is left to do once all checks have passed. -/
def complete (journal : Logging.Journal) (checked : Checked) : Except Error Accepted :=
  (setUpLogging journal checked).2 >>= fun _ =>
    (connectionParameters checked.connection).map fun parameters =>
      { entries := checked.entries, parameters }

variable [Json.Nesting] [Packages]

/-- Loading, checking and setting up, one after another. -/
theorem accept_eq (journal : Logging.Journal) (name : Text) (override : Datum) :
    (accept journal name override).2 =
      (load journal.storage name >>= (check · override)) >>= complete journal := by
  unfold accept complete
  cases load journal.storage name >>= (check · override) with
  | error error => rfl
  | ok checked =>
    dsimp only [bind, Except.bind]
    rcases setUpLogging journal checked with ⟨journal, _ | _⟩ <;> rfl

end SettingUp

end Config

namespace Program

open Config

section Outcomes

variable [Json.Nesting] [Storage.WorkingDirectory] [Packages]

end Outcomes

end Program

end ChatDice
