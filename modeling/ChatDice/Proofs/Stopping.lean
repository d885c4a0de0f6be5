import ChatDice.Proofs.Starting

/-!
Stopping a host that was started. A stop gives back what the plugin holds, drains the client and
closes it, after which nothing is left to stop. Closing waits for the drain: a client whose drain is
refused is given up unclosed.
-/

namespace ChatDice

namespace Bus.Call

def drains : Call → Bool
  | .drain => true
  | _ => false

def closes : Call → Bool
  | .close => true
  | _ => false

end Bus.Call

namespace Host

variable {host : Host} {faults : Bus.Faults} {index : Nat} {interruption : Wait}

/-- Nothing is left to stop. -/
structure Stopped (host : Host) : Prop where
  client : host.holdsClient = false
  plugin : host.plugin = none

theorem stopped_stop (host : Host) (faults : Bus.Faults) (index : Nat) :
    (host.stop faults index).1.Stopped := ⟨rfl, rfl⟩

theorem calls_pluginShutdown (host : Host) (faults : Bus.Faults) (index : Nat) :
    (host.pluginShutdown faults index).calls = host.held.map (·.giveBack) := by
  unfold pluginShutdown held
  cases host.plugin with
  | none => rfl
  | some plugin => exact plugin.calls_shutdown faults index

/-- A drain that is refused, or one that is accepted and followed by a close. -/
def Disconnects (attempts : List Bus.Attempt) : Prop :=
  attempts = [⟨.drain, true⟩] ∨ ∃ refused, attempts = [⟨.drain, false⟩, ⟨.close, refused⟩]

theorem disconnects_disconnect (faults : Bus.Faults) (index : Nat) :
    Disconnects (disconnect faults index).attempts := by
  unfold disconnect Bus.attempt
  cases faults index .drain with
  | some reason => exact .inl rfl
  | none =>
    cases faults (index + 1) .close with
    | some reason => exact .inr ⟨true, rfl⟩
    | none => exact .inr ⟨false, rfl⟩

theorem attempts_stop (host : Host) (faults : Bus.Faults) (index : Nat) :
    (host.stop faults index).2.attempts =
      (host.pluginShutdown faults index).attempts ++
        if host.holdsClient then
          (disconnect faults (index + (host.pluginShutdown faults index).attempts.length)).attempts
        else [] := by
  change [] ++ (host.pluginShutdown faults index).attempts ++ _ ++ [] = _
  rw [List.append_nil, List.nil_append]
  split <;> rfl

/-- A host that holds a client gives back what it holds and then gives the client up. -/
theorem calls_stop (client : host.holdsClient = true) (faults : Bus.Faults) (index : Nat) :
    ∃ closing, (host.stop faults index).2.calls = host.held.map (·.giveBack) ++ .drain :: closing ∧
      (closing = [] ∨ closing = [.close]) := by
  have attempts := host.attempts_stop faults index
  rw [if_pos client] at attempts
  rw [Bus.Trace.calls, attempts, List.map_append, ← calls_pluginShutdown host faults index]
  rcases disconnects_disconnect faults (index + (host.pluginShutdown faults index).attempts.length) with
    refused | ⟨_, accepted⟩
  · rw [refused]
    exact ⟨[], rfl, .inl rfl⟩
  · rw [accepted]
    exact ⟨[.close], rfl, .inr rfl⟩

theorem calls_stop_of_clientless (clientless : host.holdsClient = false) (faults : Bus.Faults)
    (index : Nat) : (host.stop faults index).2.calls = host.held.map (·.giveBack) := by
  rw [Bus.Trace.calls, attempts_stop, clientless, if_neg Bool.false_ne_true, List.append_nil]
  exact calls_pluginShutdown host faults index

theorem Stopped.attempts_stop (stopped : host.Stopped) (faults : Bus.Faults) (index : Nat) :
    (host.stop faults index).2.attempts = [] := by
  rw [Host.attempts_stop, stopped.client, pluginShutdown, stopped.plugin]
  rfl

/-- Stops a host again and again, each time under refusals of their own; the traces of these stops. -/
def stopAll (host : Host) : List Bus.Faults → List Bus.Trace
  | [] => []
  | faults :: rest =>
    let (host, trace) := host.stop faults 0
    trace :: host.stopAll rest

theorem Stopped.attempts_stopAll (stopped : host.Stopped) (stops : List Bus.Faults) :
    ∀ trace ∈ host.stopAll stops, trace.attempts = [] := by
  induction stops generalizing host with
  | nil => simp [stopAll]
  | cons faults rest ih =>
    rw [stopAll, List.forall_mem_cons]
    exact ⟨stopped.attempts_stop faults 0, ih (host.stopped_stop faults 0)⟩

theorem start_of_failed {error : StartError}
    (failed : (host.connect faults index interruption).ending = .failed error) :
    let reached := host.connect faults index interruption
    let stop := reached.host.stop faults (index + reached.trace.attempts.length)
    (host.start faults index interruption).host = stop.1 ∧
      (host.start faults index interruption).trace.attempts =
        reached.trace.attempts ++ stop.2.attempts ∧
      (host.start faults index interruption).ending = .failed error := by
  simp only [start, failed, Bus.Trace.attempts_append]
  exact ⟨trivial, congrArg (· ++ _) (List.append_nil _), trivial⟩

theorem start_of_unfailed
    (unfailed : ∀ error, (host.connect faults index interruption).ending ≠ .failed error) :
    host.start faults index interruption = host.connect faults index interruption := by
  cases ends : (host.connect faults index interruption).ending with
  | failed error => exact absurd ends (unfailed error)
  | started => simp only [start, ends]
  | interrupted => simp only [start, ends]

theorem ending_start (host : Host) (faults : Bus.Faults) (index : Nat) (interruption : Wait) :
    (host.start faults index interruption).ending = (host.connect faults index interruption).ending := by
  by_cases failed : ∃ error, (host.connect faults index interruption).ending = .failed error
  · obtain ⟨error, failed⟩ := failed
    exact (start_of_failed failed).2.2.trans failed.symm
  · exact congrArg Start.ending (start_of_unfailed fun error ends => failed ⟨error, ends⟩)

/-- The traces of a host that is started, and then stopped again and again. -/
def lifetime (host : Host) (faults : Bus.Faults) (interruption : Wait) (stops : List Bus.Faults) :
    List Bus.Trace :=
  let start := host.start faults 0 interruption
  start.trace :: start.host.stopAll stops

/-- How many of these traces there are until the host has been stopped once: a start that fails ends
with a stop. -/
def Ending.tracesToStop : Ending → Nat
  | .failed _ => 1
  | .started => 2
  | .interrupted => 2

/-- Until it has been stopped, a host makes the calls of its start and those of one stop. -/
theorem lifetime_cases {stops : List Bus.Faults}
    (stopped : (host.start faults 0 interruption).ending.tracesToStop ≤
      (host.lifetime faults interruption stops).length) :
    let reached := host.connect faults 0 interruption
    ∃ stopping index rest,
      ((host.lifetime faults interruption stops).take
          (host.start faults 0 interruption).ending.tracesToStop).flatMap Bus.Trace.attempts =
        reached.trace.attempts ++ (reached.host.stop stopping index).2.attempts ∧
      (host.lifetime faults interruption stops).drop
          (host.start faults 0 interruption).ending.tracesToStop =
        (reached.host.stop stopping index).1.stopAll rest := by
  intro reached
  by_cases failed : ∃ error, reached.ending = .failed error
  · obtain ⟨error, failed⟩ := failed
    obtain ⟨left, attempts, ending⟩ := start_of_failed failed
    refine ⟨faults, 0 + reached.trace.attempts.length, stops, ?_, ?_⟩
    · simp only [lifetime, ending, Ending.tracesToStop, List.take_succ_cons, List.take_zero,
        List.flatMap_cons, List.flatMap_nil, List.append_nil]
      exact attempts
    · simp only [lifetime, ending, Ending.tracesToStop, List.drop_succ_cons, List.drop_zero]
      rw [left]
  · have same : host.start faults 0 interruption = reached :=
      start_of_unfailed fun error ends => failed ⟨error, ends⟩
    have two : reached.ending.tracesToStop = 2 := by
      cases ends : reached.ending with
      | failed error => exact absurd ⟨error, ends⟩ failed
      | started => rfl
      | interrupted => rfl
    rw [same, two] at stopped ⊢
    cases stops with
    | nil => simp [lifetime, stopAll] at stopped
    | cons stopping rest =>
      refine ⟨stopping, 0, rest, ?_, ?_⟩
      · simp [lifetime, same, stopAll]
      · simp [lifetime, same, stopAll]

/-- What is neither a drain nor a close. -/
def Quiet (attempts : List Bus.Attempt) : Prop :=
  ∀ attempt ∈ attempts, attempt.call.drains = false ∧ attempt.call.closes = false

theorem quiet_of_calls {attempts : List Bus.Attempt}
    (calls : ∀ call ∈ attempts.map Bus.Attempt.call, call.drains = false ∧ call.closes = false) :
    Quiet attempts :=
  fun attempt member => calls attempt.call (List.mem_map_of_mem member)

/-- Nothing is drained or closed before a stop. -/
theorem Progress.quiet {reached : Start} (progress : host.Progress faults interruption reached) :
    Quiet reached.trace.attempts := by
  apply quiet_of_calls
  change ∀ call ∈ reached.trace.calls, _
  rw [progress.calls]
  cases host.named <;> cases host.subscribes faults interruption <;>
    simp [Bus.Call.drains, Bus.Call.closes]

/-- Of the calls of a stop, those that come before the end of the client have no part in it. -/
theorem exists_attempts_stop (client : host.holdsClient = true) (faults : Bus.Faults) (index : Nat) :
    ∃ given ending, (host.stop faults index).2.attempts = given ++ ending ∧ Quiet given ∧
      Disconnects ending := by
  have attempts := host.attempts_stop faults index
  rw [if_pos client] at attempts
  refine ⟨_, _, attempts, quiet_of_calls ?_, disconnects_disconnect _ _⟩
  change ∀ call ∈ (host.pluginShutdown faults index).calls, _
  rw [calls_pluginShutdown, List.forall_mem_map]
  exact fun _ _ => ⟨rfl, rfl⟩

section Quiet

variable {quiet ending : List Bus.Attempt}

theorem Quiet.append {more : List Bus.Attempt} (first : Quiet quiet) (second : Quiet more) :
    Quiet (quiet ++ more) :=
  List.forall_mem_append.mpr ⟨first, second⟩

theorem Quiet.closes_iff (before : Quiet quiet) (disconnects : Disconnects ending) :
    (∃ attempt ∈ quiet ++ ending, attempt.call = .close) ↔ ⟨.drain, false⟩ ∈ quiet ++ ending := by
  have undrained : ⟨.drain, false⟩ ∉ quiet := fun member => nomatch (before _ member).1
  rcases disconnects with rfl | ⟨refused, rfl⟩
  · refine iff_of_false ?_ (by simpa using undrained)
    rintro ⟨attempt, member, close⟩
    rcases List.mem_append.mp member with earlier | last
    · have unclosed := (before attempt earlier).2
      rw [close] at unclosed
      cases unclosed
    · rw [List.mem_singleton.mp last] at close
      cases close
  · exact iff_of_true ⟨⟨.close, refused⟩, by simp, rfl⟩ (by simp)

/-- The client is drained once and closed at most once. -/
theorem Quiet.countP (before : Quiet quiet) (disconnects : Disconnects ending) :
    (quiet ++ ending).countP (·.call.drains) = 1 ∧
      (quiet ++ ending).countP (·.call.closes) ≤ 1 := by
  have undrained : quiet.countP (·.call.drains) = 0 :=
    List.countP_eq_zero.mpr fun attempt member => by simp [before attempt member]
  have unclosed : quiet.countP (·.call.closes) = 0 :=
    List.countP_eq_zero.mpr fun attempt member => by simp [before attempt member]
  rw [List.countP_append, List.countP_append, undrained, unclosed]
  rcases disconnects with rfl | ⟨refused, rfl⟩
  · exact ⟨rfl, Nat.zero_le _⟩
  · exact ⟨rfl, Nat.le_refl _⟩

end Quiet

/-- A client that a start made is drained once by the end of the first stop, and by then it has been
closed, once, exactly if the drain was accepted. No later stop makes a call. -/
theorem close_iff_drained (host : Host) (faults : Bus.Faults) (interruption : Wait)
    (stops : List Bus.Faults) (named : host.named = true)
    (stopped : (host.start faults 0 interruption).ending.tracesToStop ≤
      (host.lifetime faults interruption stops).length) :
    let traces := host.lifetime faults interruption stops
    let count := (host.start faults 0 interruption).ending.tracesToStop
    let first := (traces.take count).flatMap Bus.Trace.attempts
    ((∃ attempt ∈ first, attempt.call = .close) ↔ ⟨.drain, false⟩ ∈ first) ∧
      first.countP (·.call.drains) = 1 ∧ first.countP (·.call.closes) ≤ 1 ∧
      ∀ trace ∈ traces.drop count, trace.attempts = [] := by
  have progress := host.progress_connect faults interruption
  have client : (host.connect faults 0 interruption).host.holdsClient = true := by
    rw [progress.client, named, Bool.or_true]
  obtain ⟨stopping, index, rest, attempts, later⟩ := lifetime_cases stopped
  obtain ⟨given, ending, same, quiet, disconnects⟩ :=
    exists_attempts_stop client stopping index
  intro traces count first
  have before : Quiet ((host.connect faults 0 interruption).trace.attempts ++ given) :=
    progress.quiet.append quiet
  have split : first = ((host.connect faults 0 interruption).trace.attempts ++ given) ++ ending := by
    rw [List.append_assoc, ← same]
    exact attempts
  obtain ⟨drained, closed⟩ := before.countP disconnects
  rw [split]
  refine ⟨before.closes_iff disconnects, drained, closed, ?_⟩
  rw [later]
  exact (stopped_stop _ stopping index).attempts_stopAll rest

/-- A configuration with the address of a bus in it. -/
def addressed : Config.Accepted where
  entries := [(.str "version", .int 2), (.str "nats", .map [(.str "url", .str "nats://bus")])]
  parameters :=
    { servers := [.str "nats://bus"]
      maxReconnectAttempts := .int (-1)
      reconnectTimeWait := .int 2
      connectTimeout := .int 5 }

/-- A bus that takes every call but a drain. -/
def undraining : Bus.Faults := fun _ call => if call.drains then some "timeout" else none

/-- A host that starts and is stopped twice, the first time by a bus that takes every call. -/
theorem close_iff_drained_addressed :
    let host := Host.ofConfig addressed
    let traces := host.lifetime .none .messages [.none, undraining]
    let count := (host.start .none 0 .messages).ending.tracesToStop
    host.named = true ∧ count ≤ traces.length ∧
      ∃ attempt ∈ (traces.take count).flatMap Bus.Trace.attempts, attempt.call = .close := by
  intro host traces count
  have named : host.named = true := by decide +kernel
  have stopped : count ≤ traces.length := by decide +kernel
  have attempts : (traces.take count).flatMap Bus.Trace.attempts =
      [⟨.connect addressed.parameters, false⟩, ⟨.subscribe Plugin.rollSubject, false⟩,
        ⟨.unsubscribe Plugin.rollSubject, false⟩, ⟨.drain, false⟩, ⟨.close, false⟩] := rfl
  have drained : ⟨.drain, false⟩ ∈ (traces.take count).flatMap Bus.Trace.attempts := by
    simp [attempts]
  exact ⟨named, stopped,
    (close_iff_drained host .none .messages [.none, undraining] named stopped).1.mpr drained⟩

/-- The same host with a first stop that is refused the drain: its client is never closed, neither by
that stop nor by the one after it, to which nothing would be refused. -/
theorem not_closed_undraining :
    let host := Host.ofConfig addressed
    let traces := host.lifetime .none .messages [undraining, .none]
    traces.map Bus.Trace.attempts =
        [[⟨.connect addressed.parameters, false⟩, ⟨.subscribe Plugin.rollSubject, false⟩],
          [⟨.unsubscribe Plugin.rollSubject, false⟩, ⟨.drain, true⟩], []] ∧
      ¬ ∃ attempt ∈ (traces.map Bus.Trace.attempts).flatten, attempt.call = .close := by
  intro host traces
  have attempts : traces.map Bus.Trace.attempts =
      [[⟨.connect addressed.parameters, false⟩, ⟨.subscribe Plugin.rollSubject, false⟩],
        [⟨.unsubscribe Plugin.rollSubject, false⟩, ⟨.drain, true⟩], []] := rfl
  refine ⟨attempts, ?_⟩
  rw [attempts]
  simp

end Host

end ChatDice
