import ChatDice.Host.Course
import ChatDice.Proofs.Segments
import ChatDice.Proofs.Sending
import ChatDice.Proofs.Stopping

/-!
Handlers that go on beside a host. They only send, whenever they go on and whatever they are refused,
so that the other calls of a run are those of the host, in its own order. A host whose handlers end
before anything else goes on is one that handles each message when it arrives.
-/

namespace ChatDice

namespace Plugin.Invocation

variable {settings : Settings} {plan : Plan}

theorem attempts_send (faults : Bus.Faults) (now : Moment) (trace : Bus.Trace) (events : List Delivery) :
    trace.attempts <+: (send faults now trace events).trace.attempts := by
  induction events generalizing trace with
  | nil => exact List.prefix_rfl
  | cons delivery rest ih =>
    unfold send
    cases delivery.begin faults now trace.attempts.length with
    | skipped record =>
      have longer := ih (trace ++ .ofRecords [record])
      rw [Bus.Trace.attempts_append] at longer
      exact (List.prefix_append ..).trans longer
    | waits attempt late =>
      dsimp only
      rw [Bus.Trace.attempts_append]
      exact List.prefix_append ..

/-- An invocation that goes on keeps the calls that it has made. -/
theorem Follows.attempts_resume [Json.Nesting] {σ : Type} {invocation : Invocation}
    (follows : invocation.Follows settings plan) (draw : Dice.Draw σ) (faults : Bus.Faults)
    (now : Moment) (source : σ) :
    invocation.trace.attempts <+:
      (invocation.resume settings draw faults now source).1.trace.attempts := by
  cases follows with
  | @waits trace late events =>
    have longer := attempts_send faults now (trace ++ .ofRecords late) (settings.wanted events)
    rw [Bus.Trace.attempts_append] at longer
    exact (List.prefix_append ..).trans longer
  | ends => exact List.prefix_rfl

/-- What an invocation calls by a plan for a message carries a message. -/
theorem Follows.sends [Json.Nesting] {σ : Type} {invocation : Invocation} {message : Message}
    {draw : Dice.Draw σ} {source : σ}
    (follows : invocation.Follows settings (message.plan draw settings source).1) {call : Bus.Call}
    (made : call ∈ invocation.trace.calls) : call.sends = true := by
  obtain ⟨entries, rest, deliveries, calls, -⟩ := follows.exists_made
  rw [calls] at made
  obtain ⟨⟨delivery, now⟩, member, called⟩ := List.mem_filterMap.mp made
  have planned : delivery ∈ (message.plan draw settings source).1.deliveries := by
    rw [deliveries]
    exact List.mem_append_left _ (List.mem_map_of_mem member)
  exact message.sends_of_plan (List.mem_filterMap.mpr ⟨delivery, planned, called⟩)

end Plugin.Invocation

namespace Host

open Plugin

variable {σ : Type} [Json.Nesting] {draw : Dice.Draw σ}

/-- A handling that has not begun, or that goes by the plan for its message. -/
inductive Handling.Keeps (draw : Dice.Draw σ) : Handling σ → Prop
  | arrived (settings : Settings) (source : σ) (message : Message) :
      Keeps draw ⟨settings, source, .ofMessage message⟩
  | begun {settings : Settings} {invocation : Invocation} (source : σ) (message : Message) (first : σ)
      (follows : invocation.Follows settings (message.plan draw settings first).1) :
      Keeps draw ⟨settings, source, invocation⟩

theorem Handling.Keeps.resume {handling : Handling σ} (keeps : handling.Keeps draw) (now : Moment)
    (faults : Bus.Faults) : (handling.resume draw now faults).Keeps draw := by
  cases keeps with
  | arrived settings source message =>
    exact .begun _ message source
      (Invocation.follows_resume_ofMessage message settings draw faults now source).1
  | begun source message first follows =>
    exact .begun _ message first (follows.resume draw faults now source).1

theorem Handling.Keeps.attempts_resume {handling : Handling σ} (keeps : handling.Keeps draw)
    (now : Moment) (faults : Bus.Faults) :
    handling.attempts <+: (handling.resume draw now faults).attempts := by
  cases keeps with
  | arrived => exact List.nil_prefix
  | begun source message first follows => exact follows.attempts_resume draw faults now source

theorem Handling.Keeps.sends {handling : Handling σ} (keeps : handling.Keeps draw)
    {attempt : Bus.Attempt} (made : attempt ∈ handling.attempts) : attempt.call.sends = true := by
  cases keeps with
  | arrived => cases made
  | begun source message first follows => exact follows.sends (List.mem_map_of_mem made)

/-- A happening keeps all handlings to their plans, and only sends. -/
theorem Happening.sends_take (happening : Happening σ) (listener : Option Settings)
    {handlings : List (Handling σ)} (keep : ∀ handling ∈ handlings, handling.Keeps draw) :
    (∀ handling ∈ (happening.take draw listener handlings).1, handling.Keeps draw) ∧
      ∀ attempt ∈ (happening.take draw listener handlings).2, attempt.call.sends = true := by
  cases happening with
  | arrives message source =>
    cases listener with
    | none => exact ⟨keep, List.forall_mem_nil _⟩
    | some settings =>
      refine ⟨?_, List.forall_mem_nil _⟩
      have arrived : Handling.Keeps draw ⟨settings, source, .ofMessage message⟩ :=
        .arrived settings source message
      exact List.forall_mem_append.mpr ⟨keep, List.forall_mem_singleton.mpr arrived⟩
  | resumes place now faults =>
    simp only [take]
    cases found : handlings[place]? with
    | none => exact ⟨keep, List.forall_mem_nil _⟩
    | some handling =>
      have resumed := (keep handling (List.mem_of_getElem? found)).resume now faults
      refine ⟨fun other member => ?_, fun attempt member => ?_⟩
      · rcases List.mem_or_eq_of_mem_set member with old | rfl
        · exact keep other old
        · exact resumed
      · exact resumed.sends (List.mem_of_mem_drop member)

theorem Happening.sends_takeAll (listener : Option Settings) {handlings : List (Handling σ)}
    (keep : ∀ handling ∈ handlings, handling.Keeps draw) (happenings : List (Happening σ)) :
    (∀ handling ∈ (takeAll draw listener handlings happenings).1, handling.Keeps draw) ∧
      ∀ attempt ∈ (takeAll draw listener handlings happenings).2, attempt.call.sends = true := by
  induction happenings generalizing handlings with
  | nil => exact ⟨keep, List.forall_mem_nil _⟩
  | cons happening rest ih =>
    obtain ⟨kept, sends⟩ := happening.sends_take listener keep
    obtain ⟨others, later⟩ := ih kept
    exact ⟨others, List.forall_mem_append.mpr ⟨sends, later⟩⟩

/-- Whatever goes on beside a host, the calls that carry no message are its own. -/
theorem filter_alongside (draw : Dice.Draw σ) (plugin : Option Settings)
    (beside : Nat → List (Happening σ)) (index : Nat) (listener : Option Settings)
    {handlings : List (Handling σ)} (keep : ∀ handling ∈ handlings, handling.Keeps draw)
    {attempts : List Bus.Attempt} (own : ∀ attempt ∈ attempts, attempt.call.sends = false) :
    (alongside draw plugin beside index listener handlings attempts).filter (!·.call.sends) =
      attempts := by
  induction attempts generalizing index listener handlings with
  | nil => rfl
  | cons attempt rest ih =>
    obtain ⟨here, later⟩ := List.forall_mem_cons.mp own
    obtain ⟨kept, sends⟩ :=
      Happening.sends_takeAll (listening plugin listener attempt.call) keep (beside index)
    have made : (Happening.takeAll draw (listening plugin listener attempt.call) handlings
        (beside index)).2.filter (!·.call.sends) = [] :=
      List.filter_eq_nil_iff.mpr fun call member => by simp [sends call member]
    rw [alongside]
    dsimp only
    rw [List.cons_append, List.filter_cons_of_pos (by simp [here]), List.filter_append, made,
      List.nil_append, ih _ _ kept later]

/-- With nothing beside it, a host makes its own calls. -/
theorem alongside_of_idle (plugin : Option Settings) {beside : Nat → List (Happening σ)} {index : Nat}
    (idle : ∀ later, index ≤ later → beside later = []) (listener : Option Settings)
    (handlings : List (Handling σ)) (attempts : List Bus.Attempt) :
    alongside draw plugin beside index listener handlings attempts = attempts := by
  induction attempts generalizing index listener handlings with
  | nil => rfl
  | cons attempt rest ih =>
    rw [alongside, idle index (Nat.le_refl index)]
    exact congrArg (attempt :: ·) (ih (fun later after => idle later (Nat.le_of_succ_le after)) _ _)

theorem Happening.takeAll_append (listener : Option Settings) (handlings : List (Handling σ))
    (first second : List (Happening σ)) :
    takeAll draw listener handlings (first ++ second) =
      let (between, made) := takeAll draw listener handlings first
      let (after, others) := takeAll draw listener between second
      (after, made ++ others) := by
  induction first generalizing handlings with
  | nil => rfl
  | cons happening rest ih =>
    simp only [List.cons_append, takeAll, ih, List.append_assoc]

/-- The last of the handlings goes on again and again, with nothing between. -/
theorem Happening.takeAll_resumes (listener : Option Settings) (handlings : List (Handling σ))
    {handling : Handling σ} (keeps : handling.Keeps draw) (now : Moment) (faults : Bus.Faults)
    (count : Nat) :
    ∃ made, takeAll draw listener (handlings ++ [handling])
        (List.replicate count (.resumes handlings.length now faults)) =
          (handlings ++ [(fun handling => handling.resume draw now faults)^[count] handling], made) ∧
      handling.attempts ++ made =
        ((fun handling => handling.resume draw now faults)^[count] handling).attempts := by
  induction count generalizing handling with
  | zero => exact ⟨[], rfl, List.append_nil _⟩
  | succ count ih =>
    have taken : (Happening.resumes handlings.length now faults).take draw listener
        (handlings ++ [handling]) = (handlings ++ [handling.resume draw now faults],
          (handling.resume draw now faults).attempts.drop handling.attempts.length) := by
      simp [take]
    obtain ⟨made, further, whole⟩ := ih (keeps.resume now faults)
    refine ⟨(handling.resume draw now faults).attempts.drop handling.attempts.length ++ made, ?_, ?_⟩
    · rw [List.replicate_succ, takeAll, taken]
      dsimp only
      rw [further]
      rfl
    · rw [← List.append_assoc, List.prefix_iff_eq_append.mp (keeps.attempts_resume now faults), whole]
      rfl

theorem Handling.resume_iterate (settings : Settings) (now : Moment) (faults : Bus.Faults) (count : Nat)
    (invocation : Invocation) (source : σ) :
    (fun handling : Handling σ => handling.resume draw now faults)^[count]
        ⟨settings, source, invocation⟩ =
      let (resumed, after) := (Invocation.next settings draw faults now)^[count] (invocation, source)
      ⟨settings, after, resumed⟩ := by
  induction count generalizing invocation source with
  | zero => rfl
  | succ count ih =>
    rw [Function.iterate_succ_apply, Function.iterate_succ_apply]
    exact ih ..

/-- A message that is handled to its end before anything else goes on. -/
def Arrival.atOnce (arrival : Arrival σ) (place : Nat) : List (Happening σ) :=
  .arrives arrival.message arrival.source ::
    List.replicate 3 (.resumes place arrival.now arrival.faults)

def atOnce : (place : Nat) → List (Arrival σ) → List (Happening σ)
  | _, [] => []
  | place, arrival :: rest => arrival.atOnce place ++ atOnce (place + 1) rest

theorem takeAll_atOnce_one (draw : Dice.Draw σ) (settings : Settings) (handlings : List (Handling σ))
    (arrival : Arrival σ) :
    ∃ handling : Handling σ,
      Happening.takeAll draw (some settings) handlings (arrival.atOnce handlings.length) =
        (handlings ++ [handling], (handleAll draw arrival 0 [settings]).2.attempts) := by
  have keeps : Handling.Keeps draw ⟨settings, arrival.source, .ofMessage arrival.message⟩ :=
    .arrived settings arrival.source arrival.message
  obtain ⟨made, taken, whole⟩ := Happening.takeAll_resumes (some settings) handlings keeps
    arrival.now arrival.faults 3
  have handled : (fun handling : Handling σ => handling.resume draw arrival.now arrival.faults)^[3]
      ⟨settings, arrival.source, .ofMessage arrival.message⟩ =
      let planned := arrival.message.plan draw settings arrival.source
      ⟨settings, planned.2, .ended planned.1.result, planned.1.run arrival.faults arrival.now 0⟩ := by
    rw [Handling.resume_iterate, Invocation.next_iterate_ofMessage]
  rw [handled] at taken whole
  have once : (handleAll draw arrival 0 [settings]).2.attempts = made := by
    rw [handleAll, Bus.Trace.attempts_append]
    exact (List.append_nil _).trans whole.symm
  rw [once, Arrival.atOnce, Happening.takeAll]
  dsimp only [Happening.take]
  rw [taken]
  exact ⟨_, rfl⟩

theorem takeAll_atOnce (settings : Settings) (handlings : List (Handling σ))
    (arrivals : List (Arrival σ)) {host : Host} (alone : host.live.map (·.2) = [settings]) :
    (Happening.takeAll draw (some settings) handlings (atOnce handlings.length arrivals)).2 =
      (host.deliverAll draw arrivals).2.attempts := by
  induction arrivals generalizing handlings with
  | nil => rfl
  | cons arrival rest ih =>
    obtain ⟨handling, handled⟩ := takeAll_atOnce_one draw settings handlings arrival
    have longer := ih (handlings ++ [handling])
    rw [List.length_append, List.length_singleton] at longer
    rw [atOnce, Happening.takeAll_append, handled, deliverAll, Bus.Trace.attempts_append, deliver, alone]
    exact congrArg (_ ++ ·) longer

/-- What happens to a host that waits for messages, from its subscription on. -/
def whileWaiting (happenings : List (Happening σ)) (index : Nat) : List (Happening σ) :=
  if index = 1 then happenings else []

/-- Handling messages while the host waits comes between its start and its stop. -/
theorem alongside_whileWaiting {settings : Settings} {opening subscribing : Bus.Attempt}
    (asks : subscribing.call = .subscribe rollSubject) (happenings : List (Happening σ))
    (stopping : List Bus.Attempt) :
    alongside draw (some settings) (whileWaiting happenings) 0 none []
        ([opening, subscribing] ++ stopping) =
      [opening, subscribing] ++ (Happening.takeAll draw (some settings) [] happenings).2 ++ stopping := by
  have idle (later : Nat) (after : 2 ≤ later) : whileWaiting happenings later = [] :=
    if_neg (Nat.ne_of_gt after)
  simp only [List.cons_append, List.nil_append, alongside, whileWaiting, Nat.zero_ne_one, if_false,
    Happening.takeAll, Nat.zero_add, if_true, asks, listening]
  rw [alongside_of_idle _ idle]

/-- The messages that a start leads to: they arrive at a host that waits for them. -/
def Start.handled (start : Start) (draw : Dice.Draw σ) (arrivals : List (Arrival σ)) : Bus.Trace :=
  match start.ending with
  | .started => (start.host.deliverAll draw arrivals).2
  | _ => .empty

theorem Start.handled_of_started {start : Start} (ends : start.ending = .started)
    (draw : Dice.Draw σ) (arrivals : List (Arrival σ)) :
    start.handled draw arrivals = (start.host.deliverAll draw arrivals).2 := by
  rw [handled, ends]

theorem Start.handled_of_not_started {start : Start} (ends : start.ending ≠ .started)
    (draw : Dice.Draw σ) (arrivals : List (Arrival σ)) : start.handled draw arrivals = .empty := by
  unfold handled
  split
  · exact absurd ‹_› ends
  · rfl

theorem attempts_run (host : Host) (draw : Dice.Draw σ) (faults : Bus.Faults) (interruption : Wait)
    (arrivals : List (Arrival σ)) :
    let start := host.start faults 0 interruption
    (host.run draw faults interruption arrivals).trace.attempts =
      start.trace.attempts ++ (start.handled draw arrivals).attempts ++
        (start.host.stop faults start.trace.attempts.length).2.attempts := by
  simp only [run, Start.handled]
  cases (host.start faults 0 interruption).ending <;>
    simp only [Bus.Trace.attempts_append, Ending.farewell, Bus.Trace.ofRecords, Bus.Trace.empty,
      List.append_nil]

/-- A run in which each message is handled when it arrives is one beside its handlers. -/
theorem exists_course_eq_run {host : Host} (fresh : host.live = []) (draw : Dice.Draw σ)
    (faults : Bus.Faults) (interruption : Wait) (arrivals : List (Arrival σ)) :
    let run := host.run draw faults interruption arrivals
    ∃ beside, host.course draw faults interruption beside =
      ⟨run.host, run.trace.attempts, run.ending⟩ := by
  intro run
  have attempts := host.attempts_run draw faults interruption arrivals
  have same {beside : Nat → List (Happening σ)}
      (calls : (host.course draw faults interruption beside).attempts = run.trace.attempts) :
      host.course draw faults interruption beside = ⟨run.host, run.trace.attempts, run.ending⟩ :=
    congrArg (Course.mk run.host · run.ending) calls
  by_cases started : (host.connect faults 0 interruption).ending = .started
  · have starts : host.start faults 0 interruption = host.connect faults 0 interruption :=
      start_of_unfailed fun error failed => nomatch started.symm.trans failed
    obtain ⟨plugin, made, live⟩ := live_of_started started
    obtain ⟨opening, subscribing, calls, asks⟩ := attempts_of_started started
    have alone : (host.connect faults 0 interruption).host.live.map (·.2) = [plugin.settings] := by
      rw [live, fresh]
      rfl
    have settings : host.pluginSettings? = some plugin.settings := by
      rw [pluginSettings?, made]
      rfl
    have handled : (Happening.takeAll draw (some plugin.settings) [] (atOnce 0 arrivals)).2 = _ :=
      takeAll_atOnce plugin.settings [] arrivals alone
    refine ⟨whileWaiting (atOnce 0 arrivals), same ?_⟩
    simp only [starts, Start.handled_of_started started, calls] at attempts
    simp only [course, ownAttempts, starts, calls, settings]
    rw [alongside_whileWaiting asks, handled]
    exact attempts.symm
  · refine ⟨fun _ => [], same ((alongside_of_idle _ (fun _ _ => rfl) _ _ _).trans ?_)⟩
    rw [← host.ending_start faults 0 interruption] at started
    refine .trans ?_ attempts.symm
    rw [Start.handled_of_not_started started]
    exact congrArg (· ++ _) (List.append_nil _).symm

end Host

end ChatDice
