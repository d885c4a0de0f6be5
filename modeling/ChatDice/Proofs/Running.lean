import ChatDice.Proofs.Accepting
import ChatDice.Proofs.Courses
import ChatDice.Proofs.Numeral

/-!
Whole runs of a host. Whichever calls are refused, wherever the run is interrupted and whatever its
handlers do beside it, what was obtained on the way in is given up on the way out, once and in the
opposite order, and the way the run ends is that of its start.
-/

namespace ChatDice.Host

def ownCalls (host : Host) (faults : Bus.Faults) (interruption : Wait) : List Bus.Call :=
  (host.ownAttempts faults interruption).map (·.call)

section Own

variable {host : Host}

/-- A host that starts and stops makes the calls of one stop, even where it stops twice: a start that
fails has stopped by itself, so that the stop at the end makes no call. -/
theorem exists_ownCalls (host : Host) (faults : Bus.Faults) (interruption : Wait) :
    let reached := host.connect faults 0 interruption
    ∃ index, host.ownCalls faults interruption =
      reached.trace.calls ++ (reached.host.stop faults index).2.calls := by
  intro reached
  by_cases failed : ∃ error, reached.ending = .failed error
  · obtain ⟨error, failed⟩ := failed
    obtain ⟨left, attempts, -⟩ := start_of_failed failed
    have stopped : (host.start faults 0 interruption).host.Stopped := by
      rw [left]
      exact reached.host.stopped_stop faults _
    refine ⟨0 + reached.trace.attempts.length, ?_⟩
    rw [ownCalls, ownAttempts, stopped.attempts_stop, List.append_nil, attempts, List.map_append]
    rfl
  · have same : host.start faults 0 interruption = reached :=
      start_of_unfailed fun error ends => failed ⟨error, ends⟩
    refine ⟨reached.trace.attempts.length, ?_⟩
    rw [ownCalls, ownAttempts, same, List.map_append]
    rfl

/-- Without a client, a host makes no call. -/
theorem ownCalls_of_unnamed (fresh : host.Stopped) (unnamed : host.named = false)
    (faults : Bus.Faults) (interruption : Wait) : host.ownCalls faults interruption = [] := by
  have progress := host.progress_connect faults interruption
  obtain ⟨index, calls⟩ := host.exists_ownCalls faults interruption
  have clientless : (host.connect faults 0 interruption).host.holdsClient = false := by
    rw [progress.client, fresh.client, unnamed]
    rfl
  have unasked : host.subscribes faults interruption = false := by
    rw [subscribes, connects, unnamed]
    rfl
  have unsubscribed : host.subscribed faults interruption = false := by
    rw [subscribed, unasked]
    rfl
  rw [calls, calls_stop_of_clientless clientless, progress.calls, progress.held fresh.plugin, unnamed,
    unasked, unsubscribed]
  rfl

/-- With a client, the calls on the way in are followed by those that undo them. -/
theorem ownCalls_of_named (fresh : host.Stopped) (named : host.named = true) (faults : Bus.Faults)
    (interruption : Wait) :
    ∃ closing, host.ownCalls faults interruption =
        .connect host.config.parameters ::
          (if host.subscribes faults interruption then [.subscribe Plugin.rollSubject] else []) ++
        (if host.subscribed faults interruption then [.unsubscribe Plugin.rollSubject] else []) ++
        .drain :: closing ∧
      (closing = [] ∨ closing = [.close]) := by
  have progress := host.progress_connect faults interruption
  obtain ⟨index, calls⟩ := host.exists_ownCalls faults interruption
  have client : (host.connect faults 0 interruption).host.holdsClient = true := by
    rw [progress.client, named, Bool.or_true]
  obtain ⟨closing, stopping, once⟩ := calls_stop client faults index
  refine ⟨closing, ?_, once⟩
  rw [calls, stopping, progress.calls, progress.held fresh.plugin, if_pos named]
  cases host.subscribed faults interruption <;> simp [Bus.Subscription.giveBack]

/-- A host itself sends nothing. -/
theorem sends_of_ownCalls (fresh : host.Stopped) (faults : Bus.Faults) (interruption : Wait) :
    ∀ call ∈ host.ownCalls faults interruption, call.sends = false := by
  by_cases named : host.named = true
  · obtain ⟨closing, calls, once⟩ := ownCalls_of_named fresh named faults interruption
    rw [calls]
    rcases once with rfl | rfl <;> cases host.subscribes faults interruption <;>
      cases host.subscribed faults interruption <;> simp [Bus.Call.sends]
  · rw [ownCalls_of_unnamed fresh (by simpa using named)]
    exact List.forall_mem_nil _

end Own

theorem exitCode_eq_one_iff {ending : Ending} : ending.exitCode = 1 ↔ ∃ error, ending = .failed error := by
  unfold Ending.exitCode
  cases ending <;> simp

theorem exitCode_eq_zero_iff {ending : Ending} :
    ending.exitCode = 0 ↔ ∀ error, ending ≠ .failed error := by
  unfold Ending.exitCode
  cases ending <;> simp

/-- What a whole run leaves: nothing that is held, and the calls that obtained it followed, in the
opposite order, by those that give it up. Replies and events may stand anywhere between them. -/
structure Releases (host : Host) (faults : Bus.Faults) (interruption : Wait) (course : Course) : Prop where
  client : course.host.holdsClient = false
  plugin : course.host.plugin = none
  /-- Without a text for the servers no client is made, and nothing is called. -/
  unnamed : host.named = false → course.calls = []
  calls : host.named = true → ∃ closing,
    course.calls.filter (fun call => !call.sends) =
        .connect host.config.parameters ::
          (if host.subscribes faults interruption then [.subscribe Plugin.rollSubject] else []) ++
        (if host.subscribed faults interruption then [.unsubscribe Plugin.rollSubject] else []) ++
        .drain :: closing ∧
      (closing = [] ∨ closing = [.close])
  /-- What is raised is what broke the start first. -/
  failed_iff : ∀ error, course.ending = .failed error ↔ host.Breaks faults interruption error
  failure_iff : course.exitCode = 1 ↔ ∃ error, host.Breaks faults interruption error
  success_iff : course.exitCode = 0 ↔ host.Interrupted faults interruption

section Courses

variable {σ : Type} [Json.Nesting] {host : Host}

theorem filter_course (fresh : host.Stopped) (draw : Dice.Draw σ) (faults : Bus.Faults)
    (interruption : Wait) (beside : Nat → List (Happening σ)) :
    (host.course draw faults interruption beside).calls.filter (fun call => !call.sends) =
      host.ownCalls faults interruption := by
  have own := filter_alongside draw host.pluginSettings? beside 0 none (List.forall_mem_nil _)
    fun attempt member => sends_of_ownCalls fresh faults interruption _ (List.mem_map_of_mem member)
  rw [Course.calls, List.filter_map]
  exact congrArg (List.map (·.call)) own

/-- Without a client, nothing is called at all. -/
theorem calls_course_of_unnamed (fresh : host.Stopped) (unnamed : host.named = false)
    (draw : Dice.Draw σ) (faults : Bus.Faults) (interruption : Wait)
    (beside : Nat → List (Happening σ)) : (host.course draw faults interruption beside).calls = [] := by
  have none : host.ownAttempts faults interruption = [] :=
    List.map_eq_nil_iff.mp (ownCalls_of_unnamed fresh unnamed faults interruption)
  rw [Course.calls, course, none]
  rfl

/-- Every run of a host, whatever it is refused, wherever it is interrupted and whatever goes on beside
it, gives up what it obtained exactly once, and fails exactly if something breaks its start. -/
theorem releases_course (config : Config.Accepted)
    (pluginClass : Except Plugin.LoadError Plugin.PluginClass) (draw : Dice.Draw σ)
    (faults : Bus.Faults) (interruption : Wait) (beside : Nat → List (Happening σ)) :
    let host := { Host.ofConfig config with pluginClass }
    host.Releases faults interruption (host.course draw faults interruption beside) := by
  intro host
  have fresh : host.Stopped := ⟨rfl, rfl⟩
  have ending : (host.course draw faults interruption beside).ending =
      (host.connect faults 0 interruption).ending := host.ending_start faults 0 interruption
  have own := filter_course fresh draw faults interruption beside
  exact {
    client := rfl
    plugin := rfl
    unnamed := fun unnamed =>
      calls_course_of_unnamed fresh unnamed draw faults interruption beside
    calls := fun named => own ▸ ownCalls_of_named fresh named faults interruption
    failed_iff := fun error => by rw [ending, failed_iff]
    failure_iff := by
      simp only [Course.exitCode, exitCode_eq_one_iff, ending, failed_iff]
    success_iff := by
      rw [Course.exitCode, exitCode_eq_zero_iff, ending, interrupted_iff] }

end Courses

open Config

/-- A configuration whose only server is a whole number, written in sixteens. -/
def wideConfiguration : List UInt8 :=
  Utf8.encode "version: '2.0'\nnats:\n  url: 0x1" ++ List.replicate 3572 0x30

def wideStorage : Storage := ⟨[(Storage.normalised "c.yaml", .file wideConfiguration)]⟩

def wideServer : Nat := 16 ^ 3572

def wideEntries : Entries :=
  [(.str "version", .str "2.0"), (.str "nats", .map [(.str "url", .int wideServer)])]

theorem read_wideStorage : wideStorage.read "c.yaml" = .ok wideConfiguration := by
  have checked : Storage.checkName "c.yaml" = .ok () := rfl
  have followed : (wideStorage.follow (Storage.origin "c.yaml")
      (Text.splitOn '/' "c.yaml")).toOption = some (Storage.normalised "c.yaml") := by
    decide +kernel
  rw [Storage.read_eq, checked, eq_ok_of_toOption followed]
  rfl

section Packages

variable [Packages] (reads : Packages.readYaml wideConfiguration = .ok (.map wideEntries))

include reads

theorem load_wideStorage : load wideStorage "c.yaml" = .ok wideEntries := by
  have yaml : isYaml "c.yaml" = true := by decide +kernel
  exact load_eq_ok_iff.mpr ⟨_, _, read_wideStorage, .of_yaml yaml reads, rfl⟩

theorem accept_wideStorage (recent : Packages.precedes Packages.least Packages.least = false) :
    ∃ config, (accept (.ofStorage wideStorage) "c.yaml" .null).2 = .ok config ∧
      config.parameters.servers = [.int wideServer] := by
  have level : Logging.Level.ofName? "info" = some .info := by decide +kernel
  have passes : Passes wideEntries := ⟨_, ⟨"2.0", rfl, Packages.readRelease_least⟩, recent, rfl⟩
  have asks : AsksLevel wideEntries .null "info" := ⟨.str "info", rfl, rfl⟩
  have checked : check wideEntries .null = .ok (checkedOf wideEntries .info) :=
    check_eq_ok_iff.mpr ⟨passes, "info", .info, asks, level, rfl⟩
  have logged : (setUpLogging (.ofStorage wideStorage) (checkedOf wideEntries .info)).2 = .ok () :=
    setUpLogging_eq_ok_iff.mpr ⟨[], rfl, nofun⟩
  obtain ⟨config, completed, servers⟩ : ∃ config,
      complete (.ofStorage wideStorage) (checkedOf wideEntries .info) = .ok config ∧
        config.parameters.servers = [.int wideServer] := by
    rw [complete, logged]
    exact ⟨_, rfl, rfl⟩
  refine ⟨config, ?_, servers⟩
  rw [accept_eq]
  exact bind_eq_ok_iff.mpr ⟨_, bind_eq_ok_iff.mpr ⟨_, load_wideStorage reads, checked⟩, completed⟩

end Packages

/-- A reader of YAML files that knows the one file. -/
@[reducible]
def widePackages : Packages :=
  { Packages.installed with
    readYaml := fun bytes =>
      if bytes = wideConfiguration then .ok (.map wideEntries) else Packages.installed.readYaml bytes }

/-- A configuration with such a number for its server is accepted, and a run of its host connects to
nothing and drains nothing. -/
theorem calls_course_wideStorage : ∃ config,
    (@accept _ _ widePackages (.ofStorage wideStorage) "c.yaml" .null).2 = .ok config ∧
      ((Host.ofConfig config).course Dice.Script.draw .none .messages fun _ => []).calls = [] := by
  have recent : (Version.ofRelease [2, 0]).precedes (.ofRelease [2, 0]) = false := by decide +kernel
  obtain ⟨config, accepted, servers⟩ := @accept_wideStorage widePackages (if_pos rfl) recent
  have large : 10 ^ Numeral.digitLimit ≤ wideServer := by decide +kernel
  have unnamed : (Host.ofConfig config).named = false := by
    change (Datum.list config.parameters.servers).text.isOk = false
    rw [servers]
    simp only [Datum.text, Datum.quoted, Datum.quotedWithin, Datum.quotedItems]
    have unwritten : Numeral.write (wideServer : Int) = .error .written := Numeral.write_of_le large
    rw [unwritten]
    rfl
  exact ⟨config, accepted, calls_course_of_unnamed ⟨rfl, rfl⟩ unnamed _ _ _ _⟩

end ChatDice.Host
