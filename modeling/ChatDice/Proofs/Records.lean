import ChatDice.Proofs.Histories
import Mathlib.Data.List.Forall2

/-!
What a record leaves in the files. Over any run of setups and records, a record that is let through adds
one line for each setup on the line of its logger to the file of that setup, and nothing else; no file
ever loses anything.
-/

namespace ChatDice.Logging

/-- The line that a record leaves by a setup, as it is written to a file. -/
def Setup.line? [Storage.WorkingDirectory] (setup : Setup) (time : Moment) (record : Record) :
    Option (List UInt8) := do
  let handler ← setup.handler?
  let line ← Template.render? (Journal.attribute? record time) (Journal.attributes record) handler.template
  return Journal.fileBytes (line ++ "\n")

namespace Journal

theorem canonicalName_of_mem_line {name above : Text} (member : above ∈ line (canonicalName name)) :
    canonicalName above = above := by
  have inside : above ≠ [] := by
    rcases mem_line_iff.mp member with rfl | below
    · nofun
    rcases List.mem_cons.mp below with rfl | higher
    · exact canonicalName_ne_nil name
    · exact (mem_ancestors higher).1
  rw [canonicalName, if_neg (by simpa using inside)]

theorem isInUse_use_self (journal : Journal) (name : Text) :
    (journal.use name).hierarchy.isInUse (canonicalName name) = true := by
  simp [use, Hierarchy.isInUse_use]

/-- Taking a logger into use leaves the settings on the line to it. -/
theorem setting_of_mem_line {journal : Journal} {name above : Text}
    (member : above ∈ line (canonicalName name)) :
    ((journal.use name).hierarchy.logger above).setting = (journal.logger above).setting := by
  have same := setting_logger_use journal name above
  rwa [logger, canonicalName_of_mem_line member] at same

/-- The setups of distinct loggers together, each of them once. -/
theorem flatMap_setupsOn_perm (events : List Event) {names : List Text} (distinct : names.Nodup) :
    (names.flatMap (setupsOn events)).Perm
      ((setups events).filter fun setup => canonicalName setup.logger ∈ names) := by
  induction names with
  | nil => simp
  | cons name names ih =>
    obtain ⟨absent, rest⟩ := List.nodup_cons.mp distinct
    rw [List.flatMap_cons]
    refine ((ih rest).append_left _).trans ?_
    have parts := List.filter_append_perm (fun setup => decide (canonicalName setup.logger = name))
      ((setups events).filter fun setup => canonicalName setup.logger ∈ name :: names)
    rw [List.filter_filter, List.filter_filter] at parts
    refine (List.Perm.of_eq ?_).trans parts
    congr 1
    · refine List.filter_congr fun setup _ => ?_
      by_cases here : canonicalName setup.logger = name <;> simp [here]
    · refine List.filter_congr fun setup _ => ?_
      by_cases here : canonicalName setup.logger = name
      · simp [here, absent]
      · simp [here]

section Runs

variable [Storage.WorkingDirectory] {journal : Journal}

/-- The hierarchy that a record of a logger finds. -/
theorem settled_use {storage : Storage} {events : List Event} {logger : Text}
    (regular : Regular (canonicalName logger)) (timely : Timely events (canonicalName logger))
    (ran : (ofStorage storage).run events = .ok journal) :
    (journal.use logger).hierarchy.Settled (canonicalName logger) := by
  refine (settled_run regular timely ran).use regular fun _ _ child member above => ?_
  -- A name has no beginning that is longer than itself.
  have longer := (mem_ancestors above).2.2
  rcases List.mem_cons.mp member with rfl | higher
  · exact absurd longer (Nat.lt_irrefl _)
  · exact absurd (mem_ancestors higher).2.2 (Nat.not_lt.mpr (Nat.le_of_lt longer))

variable {storage : Storage} {events : List Event} {record : Record}

theorem handlersFor_run (regular : Regular (canonicalName record.logger))
    (timely : Timely events (canonicalName record.logger)) (ran : (ofStorage storage).run events = .ok journal) :
    (journal.use record.logger).hierarchy.handlersFor (canonicalName record.logger) =
      ((line (canonicalName record.logger)).flatMap (setupsOn events)).filterMap Setup.handler? := by
  rw [(settled_use regular timely ran).handlersFor (isInUse_use_self _ _), List.filterMap_flatMap]
  refine List.flatMap_congr fun above member => ?_
  have handlers := (follows_run ran).handlers above
  rw [canonicalName_of_mem_line member] at handlers
  rw [← handlers]
  exact congrArg Prod.snd (setting_of_mem_line member)

theorem effectiveLevel_run (regular : Regular (canonicalName record.logger))
    (timely : Timely events (canonicalName record.logger)) (ran : (ofStorage storage).run events = .ok journal) :
    (journal.use record.logger).hierarchy.effectiveLevel (canonicalName record.logger) =
      levelFor events (canonicalName record.logger) := by
  rw [(settled_use regular timely ran).effectiveLevel (isInUse_use_self _ _), levelFor]
  congr 2
  refine List.map_congr_left fun above member => ?_
  have level := (follows_run ran).level above
  rw [canonicalName_of_mem_line member] at level
  rw [← level]
  exact congrArg (·.1.level) (setting_of_mem_line member)

/-- The handlers of some setups write the lines of those whose target it is, and nothing else. -/
theorem flatMap_bytesTo (time : Moment) (path : Storage.Path) (list : List Setup) :
    (list.filterMap Setup.handler?).flatMap (bytesTo record time path) =
      ((list.filter fun setup => setup.destination.target = .file path).map
        fun setup => (setup.line? time record).getD []).flatten := by
  induction list with
  | nil => rfl
  | cons setup list ih =>
    cases written : Setup.template? setup.template with
    | error error =>
      have nothing : setup.handler? = none := by rw [Setup.handler?, written]
      by_cases here : setup.destination.target = .file path
      · simp [nothing, Setup.line?, ih, here]
      · simp [nothing, ih, here]
    | ok template =>
      have provided : setup.handler? = some ⟨setup.destination.target, template⟩ := by
        rw [Setup.handler?, written]
      by_cases here : setup.destination.target = .file path
      · cases line : Template.render? (attribute? record time) (attributes record) template <;>
          simp [provided, Setup.line?, bytesTo, ih, here, line]
      · simp [provided, bytesTo, ih, here]

/-- The setups whose file a record of a logger is written to, those of the nearest logger first. -/
def servedBy (events : List Event) (name : Text) (path : Storage.Path) : List Setup :=
  ((line name).flatMap (setupsOn events)).filter fun setup => setup.destination.target = .file path

theorem servedBy_perm (events : List Event) (name : Text) (path : Storage.Path) :
    (servedBy events name path).Perm
      ((setups events).filter fun setup =>
        canonicalName setup.logger ∈ line name ∧ setup.destination.target = .file path) := by
  have listed := (flatMap_setupsOn_perm events (nodup_line name)).filter
    fun setup => setup.destination.target = .file path
  rw [List.filter_filter] at listed
  refine listed.trans (.of_eq (List.filter_congr fun setup _ => ?_))
  rw [Bool.decide_and, Bool.and_comm]

theorem mem_setups_of_mem_servedBy {name : Text} {path : Storage.Path} {setup : Setup}
    (member : setup ∈ servedBy events name path) : setup ∈ setups events :=
  (List.mem_filter.mp ((servedBy_perm events name path).mem_iff.mp member)).1

/-- What a record that is let through leaves in a file. -/
theorem file?_log_run (ran : (ofStorage storage).run events = .ok journal) (time : Moment)
    (admitted : (journal.use record.logger).admits record = true) (regular : Regular (canonicalName record.logger))
    (timely : Timely events (canonicalName record.logger)) (path : Storage.Path) :
    (journal.log time record).storage.file? path = (journal.storage.file? path).map
      (· ++ ((servedBy events (canonicalName record.logger) path).map
        fun setup => (setup.line? time record).getD []).flatten) := by
  rw [file?_log journal time admitted, handlersFor_run regular timely ran, flatMap_bytesTo, servedBy]

/-- What a record adds to the files of a run: nothing if its level is below that of its logger's line, and
else one line for every setup on the line, in the file of that setup. All files of setups are there, and
no file has lost what it held at any time before. -/
theorem log_adds_lines (ran : (ofStorage storage).run events = .ok journal) (time : Moment)
    (positive : 0 < record.level) (regular : Regular (canonicalName record.logger))
    (timely : Timely events (canonicalName record.logger))
    (renders : ∀ setup ∈ setups events, ∃ line, setup.line? time record = some line) :
    (∀ setup ∈ setups events, ∀ path, setup.destination.target = .file path →
      ∃ old, journal.storage.file? path = some old) ∧
    (levelFor events (canonicalName record.logger) ≤ record.level →
      ∀ path old, journal.storage.file? path = some old →
        ∃ served lines,
          served.Perm ((setups events).filter fun setup =>
            canonicalName setup.logger ∈ line (canonicalName record.logger) ∧
              setup.destination.target = .file path) ∧
          List.Forall₂ (fun setup line => setup.line? time record = some line) served lines ∧
          (journal.log time record).storage.file? path = some (old ++ lines.flatten)) ∧
    (record.level < levelFor events (canonicalName record.logger) →
      (journal.log time record).storage = journal.storage) ∧
    ∀ earlier later middle, events = earlier ++ later → (ofStorage storage).run earlier = .ok middle →
      middle.storage.ExtendedBy (journal.log time record).storage := by
  have level := effectiveLevel_run regular timely ran
  refine ⟨(follows_run ran).opened, fun enough path old found => ?_, fun low => ?_, ?_⟩
  · have admitted : (journal.use record.logger).admits record = true := by
      simp [admits, positive, level, enough]
    have adds := file?_log_run ran time admitted regular timely path
    rw [found, Option.map_some] at adds
    refine ⟨_, _, servedBy_perm events (canonicalName record.logger) path, ?_, adds⟩
    refine List.forall₂_map_right_iff.mpr (List.forall₂_same.mpr fun setup member => ?_)
    obtain ⟨line, written⟩ := renders setup (mem_setups_of_mem_servedBy member)
    rw [written, Option.getD_some]
  · have held : (journal.use record.logger).admits record = false := by
      simp [admits, level, low]
    exact storage_log_of_not_admits journal time held
  · rintro earlier later middle rfl before
    have after : middle.run later = .ok journal := by
      rwa [run, List.foldlM_append, ← run, before] at ran
    exact (extendedBy_run after).trans (extendedBy_log journal time record)

end Runs

/-- A setup of a logger for a file, with a level. -/
def fileSetup (logger file : Text) (level : Level) : Setup := ⟨logger, .file file, .null, .int level⟩

/-- A logger and one below it with the same file, of which only the upper one has a level. -/
def layered : List Event :=
  [.configure (fileSetup "a" "a.log" 20), .configure (fileSetup "a.b" "a.log" 0)]

def noon : Moment := ⟨⟨2024, 1, 1⟩, 12, 0, 0, 0, none⟩

/-- A record of the lower logger leaves a line for each of them. -/
theorem log_adds_lines_layered :
    Regular "a.b" ∧ Timely layered "a.b" ∧ ∃ journal, (ofStorage .empty).run layered = .ok journal ∧
      ∃ served lines, served.Perm (setups layered) ∧
        List.Forall₂ (fun setup line => setup.line? noon ⟨"a.b", 20, "m"⟩ = some line) served lines ∧
        (journal.log noon ⟨"a.b", 20, "m"⟩).storage.file? (Storage.normalised "a.log") = some lines.flatten := by
  have regular : Regular "a.b" := by
    unfold Regular
    decide +kernel
  have timely : Timely layered "a.b" := timely_of_notMem (by decide +kernel)
  have renders : ∀ setup ∈ setups layered, ∃ line, setup.line? noon ⟨"a.b", 20, "m"⟩ = some line := by
    have both : ∀ setup ∈ setups layered, (setup.line? noon ⟨"a.b", 20, "m"⟩).isSome = true := by decide +kernel
    exact fun setup member => Option.isSome_iff_exists.mp (both setup member)
  have files := @log_adds_lines _ _ .empty layered ⟨"a.b", 20, "m"⟩ rfl noon (by decide) regular timely renders
  refine ⟨regular, timely, _, rfl, ?_⟩
  exact files.2.1 (by decide +kernel) (Storage.normalised "a.log") [] (by decide +kernel)

/-- A logger that comes into use after the one below it. -/
def late : List Event := [.configure (fileSetup "r.x" "x.log" 10), .configure (fileSetup "r" "r.log" 10)]

def upper : List Event := [.configure (fileSetup "a" "a.log" 10)]

/-- The late logger does not take over the one below it, since the root's name begins with its own, and
what stands before two dots is passed over: a record that is let through leaves nothing in either file. -/
theorem log_passed_over :
    ((∃ setup ∈ setups late, canonicalName setup.logger ∈ line "r.x" ∧
        setup.destination.target = .file (Storage.normalised "r.log")) ∧
      levelFor late "r.x" ≤ 20 ∧ ∃ journal, (ofStorage .empty).run late = .ok journal ∧
        (journal.log noon ⟨"r.x", 20, "m"⟩).storage.file? (Storage.normalised "r.log") = some []) ∧
    ((∃ setup ∈ setups upper, canonicalName setup.logger ∈ line "a..b" ∧
        setup.destination.target = .file (Storage.normalised "a.log")) ∧
      levelFor upper "a..b" ≤ 40 ∧ ∃ journal, (ofStorage .empty).run upper = .ok journal ∧
        (journal.log noon ⟨"a..b", 40, "m"⟩).storage.file? (Storage.normalised "a.log") = some []) := by
  refine ⟨⟨⟨fileSetup "r" "r.log" 10, ?_, by decide +kernel, by decide +kernel⟩, by decide +kernel, _, rfl, ?_⟩,
    ⟨⟨fileSetup "a" "a.log" 10, ?_, by decide +kernel, by decide +kernel⟩, by decide +kernel, _, rfl, ?_⟩⟩
  · simp [setups, late, Event.setup?]
  · decide +kernel
  · simp [setups, upper, Event.setup?]
  · decide +kernel

end Journal

end ChatDice.Logging
