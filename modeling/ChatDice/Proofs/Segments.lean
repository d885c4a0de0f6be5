import ChatDice.Plugin.Invocation
import ChatDice.Proofs.Addressing

/-!
Handlers between their awaits. Whenever an invocation goes on, it has made some deliveries of the
plan for its message, in their order and each once, and an invocation that nothing comes between is
one step of a session.
-/

namespace ChatDice

namespace Bus.Trace

@[simp]
theorem append_empty (trace : Trace) : trace ++ empty = trace := by
  change Trace.mk (trace.attempts ++ []) (trace.records ++ []) = trace
  rw [List.append_nil, List.append_nil]

theorem append_assoc (first second third : Trace) :
    first ++ second ++ third = first ++ (second ++ third) :=
  congrArg₂ Trace.mk (List.append_assoc ..) (List.append_assoc ..)

theorem length_attempts_append (first second : Trace) :
    (first ++ second).attempts.length = first.attempts.length + second.attempts.length :=
  List.length_append

end Bus.Trace

namespace Plugin

open Dice

variable {σ : Type}

/-- The plan with those events only that are wanted. -/
def Plan.wanted (plan : Plan) (settings : Settings) : Plan :=
  { plan with
    deliveries := match plan.deliveries with
      | [] => []
      | reply :: events => reply :: settings.wanted events }

theorem Plan.wanted_of_alone {plan : Plan} (alone : plan.deliveries.tail = []) (settings : Settings) :
    plan.wanted settings = plan := by
  obtain ⟨records, deliveries, error⟩ := plan
  cases deliveries with
  | nil => rfl
  | cons reply events =>
    have none : events = [] := alone
    simp [wanted, Settings.wanted, none]

section Messages

variable [Json.Nesting]

theorem Request.plan_eq_wanted (request : Request) (draw : Draw σ) (settings : Settings)
    (replySubject : Option Text) (source : σ) :
    request.plan draw settings replySubject source =
      ((request.plan draw settings.telling replySubject source).1.wanted settings,
        (request.plan draw settings.telling replySubject source).2) := by
  unfold plan
  cases parse request.dice with
  | error failure =>
    simp only [Plan.wanted, Settings.wanted, ite_self]
    rfl
  | ok spec =>
    have shown : settings.telling.showsGroups request.groups = settings.showsGroups request.groups := rfl
    have telling : settings.telling.emitEvents.truthy = true := rfl
    simp only [shown, telling, if_true]
    cases Report.render spec.query (spec.roll draw source).1
      (Grouping.ofOutcomes (spec.roll draw source).1.outcomes) (settings.showsGroups request.groups) <;>
      rfl

/-- Whether events are wanted has no part in anything but the events. -/
theorem Message.plan_eq_wanted (message : Message) (draw : Draw σ) (settings : Settings) (source : σ) :
    message.plan draw settings source =
      ((message.plan draw settings.telling source).1.wanted settings,
        (message.plan draw settings.telling source).2) := by
  rcases message.kinds with ⟨members, holds⟩ | malformed | tooDeep
  · rw [plan_of_holds holds, plan_of_holds holds, Request.plan_eq_wanted]
  · have alone : (message.plan draw settings.telling source).1.deliveries.tail = [] := by
      rw [deliveries_of_malformed malformed]
      split <;> rfl
    rw [Plan.wanted_of_alone alone]
    obtain ⟨reason, rejected, -⟩ := members_of_malformed malformed
    simp only [plan, rejected]
    cases reason <;> rfl
  · simp only [plan, members_of_tooDeep tooDeep]
    rfl

theorem Request.plan_shape (request : Request) (draw : Draw σ) (settings : Settings)
    (replySubject : Option Text) (source : σ) :
    let plan := (request.plan draw settings replySubject source).1
    plan.deliveries.length ≤ 2 ∧ (plan.error.isSome = true → plan.deliveries = []) := by
  unfold plan
  cases parse request.dice with
  | error failure => simp
  | ok spec =>
    dsimp only
    cases Report.render spec.query (spec.roll draw source).1
      (Grouping.ofOutcomes (spec.roll draw source).1.outcomes) (settings.showsGroups request.groups) with
    | error error => simp
    | ok text => cases settings.emitEvents.truthy <;> simp

/-- No more than one event comes after a reply, and nothing is sent where the handling fails. -/
theorem Message.plan_shape (message : Message) (draw : Draw σ) (settings : Settings) (source : σ) :
    let plan := (message.plan draw settings source).1
    plan.deliveries.length ≤ 2 ∧ (plan.error.isSome = true → plan.deliveries = []) := by
  rcases message.kinds with ⟨members, holds⟩ | malformed | tooDeep
  · rw [plan_of_holds holds]
    exact Request.plan_shape ..
  · dsimp only
    rw [error_of_malformed malformed, deliveries_of_malformed malformed]
    refine ⟨?_, nofun⟩
    split <;> simp
  · simp [plan, members_of_tooDeep tooDeep]

end Messages

/-- The calls of deliveries, each made at its own time. -/
def made (entries : List (Delivery × Moment)) : List Bus.Call :=
  entries.filterMap fun entry => (entry.1.call entry.2).toOption

/-- An invocation has made some deliveries of a plan, in their order and each once, and has the
others to come. -/
inductive Invocation.Follows (settings : Settings) (plan : Plan) : Invocation → Prop
  | waits {trace : Bus.Trace} {late : List Logging.Record} {events : List Delivery}
      (entries : List (Delivery × Moment)) (unfailed : plan.result = .ok ())
      (deliveries : plan.deliveries = entries.map Prod.fst ++ settings.wanted events)
      (calls : trace.calls = made entries) : Follows settings plan ⟨.waiting late events, trace⟩
  | ends {trace : Bus.Trace} (entries : List (Delivery × Moment))
      (deliveries : plan.deliveries = entries.map Prod.fst) (calls : trace.calls = made entries) :
      Follows settings plan ⟨.ended plan.result, trace⟩

/-- A delivery that is begun is made, but for the end of the wait. -/
theorem Delivery.run_begin (delivery : Delivery) (faults : Bus.Faults) (now : Moment) (index : Nat) :
    match delivery.begin faults now index with
    | .skipped record =>
      (delivery.call now).toOption = none ∧ delivery.run faults now index = .ofRecords [record]
    | .waits attempt late =>
      (delivery.call now).toOption = some attempt.call ∧
        delivery.run faults now index = ⟨[attempt], late⟩ := by
  unfold Delivery.begin Delivery.run
  cases delivery.call now with
  | error reason => exact ⟨rfl, rfl⟩
  | ok call =>
    simp only [Bus.attempt]
    cases faults index call <;> exact ⟨rfl, rfl⟩

theorem made_append_singleton (entries : List (Delivery × Moment)) (delivery : Delivery)
    (now : Moment) :
    made (entries ++ [(delivery, now)]) = made entries ++ (delivery.call now).toOption.toList := by
  rw [made, List.filterMap_append, List.filterMap_cons, List.filterMap_nil]
  cases (delivery.call now).toOption <;> rfl

namespace Invocation

variable {settings : Settings} {plan : Plan} {draw : Draw σ} {source : σ}

theorem follows_send (unfailed : plan.result = .ok ()) (faults : Bus.Faults) (now : Moment)
    (events : List Delivery) (wanted : events ≠ [] → settings.emitEvents.truthy = true)
    {trace : Bus.Trace} (entries : List (Delivery × Moment))
    (deliveries : plan.deliveries = entries.map Prod.fst ++ events)
    (calls : trace.calls = made entries) :
    (send faults now trace events).Follows settings plan := by
  induction events generalizing trace entries with
  | nil =>
    rw [List.append_nil] at deliveries
    rw [send, ← unfailed]
    exact .ends entries deliveries calls
  | cons delivery rest ih =>
    have truthy := wanted (List.cons_ne_nil delivery rest)
    have further : plan.deliveries = (entries ++ [(delivery, now)]).map Prod.fst ++ rest := by
      simp [deliveries]
    have spec := delivery.run_begin faults now trace.attempts.length
    unfold send
    cases begun : delivery.begin faults now trace.attempts.length with
    | skipped record =>
      rw [begun] at spec
      refine ih (fun _ => truthy) _ further ?_
      rw [made_append_singleton, spec.1, Bus.Trace.calls_append, calls]
      rfl
    | waits attempt late =>
      rw [begun] at spec
      refine .waits (entries ++ [(delivery, now)]) unfailed ?_ ?_
      · rw [further, Settings.wanted, if_pos truthy]
      · rw [made_append_singleton, spec.1, Bus.Trace.calls_append, calls]
        rfl

theorem wanted_truthy {events : List Delivery} (some : settings.wanted events ≠ []) :
    settings.emitEvents.truthy = true := by
  by_contra unwanted
  exact some (if_neg unwanted)

theorem Follows.exists_made {invocation : Invocation} (follows : invocation.Follows settings plan) :
    ∃ entries rest, plan.deliveries = entries.map Prod.fst ++ rest ∧
      invocation.trace.calls = made entries ∧
      ∀ result, invocation.stage = .ended result → result = plan.result ∧ rest = [] := by
  cases follows with
  | waits entries unfailed deliveries calls => exact ⟨entries, _, deliveries, calls, nofun⟩
  | ends entries deliveries calls =>
    refine ⟨entries, [], by rw [deliveries, List.append_nil], calls, ?_⟩
    rintro result ⟨⟩
    exact ⟨rfl, rfl⟩

/-- How many segments an invocation may still have. -/
def left (invocation : Invocation) : Nat :=
  match invocation.stage with
  | .arrived _ => 3
  | .waiting _ events => events.length + 1
  | .ended _ => 0

theorem left_send_le (faults : Bus.Faults) (now : Moment) (trace : Bus.Trace) (events : List Delivery) :
    (send faults now trace events).left ≤ events.length := by
  induction events generalizing trace with
  | nil => exact Nat.le_refl 0
  | cons delivery rest ih =>
    unfold send
    cases delivery.begin faults now trace.attempts.length with
    | skipped record => exact Nat.le_succ_of_le (ih _)
    | waits attempt late => exact Nat.le_refl _

theorem length_wanted_le (settings : Settings) (events : List Delivery) :
    (settings.wanted events).length ≤ events.length := by
  unfold Settings.wanted
  split
  · exact Nat.le_refl _
  · exact Nat.zero_le _

theorem ended_of_left {invocation : Invocation} (none : invocation.left = 0) :
    ∃ result, invocation.stage = .ended result := by
  unfold left at none
  split at none
  · cases none
  · cases none
  · rename_i result ended
    exact ⟨result, ended⟩

section Messages

variable [Json.Nesting]

/-- The first segment follows the plan for the message. -/
theorem follows_resume_ofMessage (message : Message) (settings : Settings) (draw : Draw σ)
    (faults : Bus.Faults) (now : Moment) (source : σ) :
    let resumed := (ofMessage message).resume settings draw faults now source
    let planned := message.plan draw settings source
    resumed.1.Follows settings planned.1 ∧ resumed.2 = planned.2 := by
  intro resumed planned
  have shape := (message.plan_shape draw settings source).2
  have same := message.plan_eq_wanted draw settings source
  refine ⟨?_, (congrArg Prod.snd same).symm⟩
  change planned = _ at same
  change (planned.1.error.isSome = true → planned.1.deliveries = []) at shape
  rw [same] at shape ⊢
  change ((message.plan draw settings.telling source).1.begin settings faults now).Follows _ _
  generalize (message.plan draw settings.telling source).1 = telling at shape
  obtain ⟨records, deliveries, error⟩ := telling
  cases error with
  | some error => exact .ends [] (shape rfl) rfl
  | none =>
    cases deliveries with
    | nil => exact .ends [] rfl rfl
    | cons reply events =>
      have spec := reply.run_begin faults now 0
      unfold Plan.begin
      cases begun : reply.begin faults now 0 with
      | skipped record =>
        rw [begun] at spec
        simp only [begun]
        refine follows_send rfl faults now _ wanted_truthy [(reply, now)] rfl ?_
        rw [← List.nil_append [(reply, now)], made_append_singleton, spec.1]
        rfl
      | waits attempt late =>
        rw [begun] at spec
        simp only [begun]
        refine .waits [(reply, now)] rfl rfl ?_
        rw [← List.nil_append [(reply, now)], made_append_singleton, spec.1]
        rfl

/-- An invocation that follows a plan goes on to follow it. -/
theorem Follows.resume {invocation : Invocation} (follows : invocation.Follows settings plan)
    (draw : Draw σ) (faults : Bus.Faults) (now : Moment) (source : σ) :
    let resumed := invocation.resume settings draw faults now source
    resumed.1.Follows settings plan ∧ resumed.2 = source := by
  cases follows with
  | @waits trace late events entries unfailed deliveries calls =>
    refine ⟨follows_send unfailed faults now _ wanted_truthy entries deliveries ?_, rfl⟩
    rw [Bus.Trace.calls_append, Bus.Trace.calls_ofRecords, List.append_nil, calls]
  | ends entries deliveries calls => exact ⟨.ends entries deliveries calls, rfl⟩

theorem left_resume_le (invocation : Invocation) (settings : Settings) (draw : Draw σ)
    (faults : Bus.Faults) (now : Moment) (source : σ) :
    (invocation.resume settings draw faults now source).1.left ≤ invocation.left - 1 := by
  obtain ⟨stage, trace⟩ := invocation
  cases stage with
  | arrived message =>
    change ((message.plan draw settings.telling source).1.begin settings faults now).left ≤ 2
    have shape := (message.plan_shape draw settings.telling source).1
    generalize (message.plan draw settings.telling source).1 = telling at shape
    obtain ⟨records, deliveries, error⟩ := telling
    cases error with
    | some error => exact Nat.zero_le 2
    | none =>
      cases deliveries with
      | nil => exact Nat.zero_le 2
      | cons reply events =>
        have few : events.length ≤ 1 := Nat.le_of_succ_le_succ shape
        unfold Plan.begin
        cases begun : reply.begin faults now 0 with
        | skipped record =>
          simp only [begun]
          have := left_send_le faults now (.ofRecords records ++ .ofRecords [record])
            (settings.wanted events)
          have := length_wanted_le settings events
          omega
        | waits attempt late =>
          simp only [begun, left]
          omega
  | waiting late events => exact (left_send_le ..).trans (length_wanted_le settings events)
  | ended result => exact Nat.le_refl 0

/-- One segment after another, with nothing between them. -/
def next (settings : Settings) (draw : Draw σ) (faults : Bus.Faults) (now : Moment)
    (state : Invocation × σ) : Invocation × σ :=
  state.1.resume settings draw faults now state.2

theorem next_iterate_ended (settings : Settings) (draw : Draw σ) (faults : Bus.Faults) (now : Moment)
    (result : Except HandlerError Unit) (trace : Bus.Trace) (source : σ) (count : Nat) :
    (next settings draw faults now)^[count] (⟨.ended result, trace⟩, source) =
      (⟨.ended result, trace⟩, source) :=
  Function.iterate_fixed rfl count

/-- What is begun by sending deliveries ends as they are made without waiting. -/
theorem next_iterate_send (settings : Settings) (draw : Draw σ) (faults : Bus.Faults) (now : Moment)
    (source : σ) {events : List Delivery} (wanted : events ≠ [] → settings.emitEvents.truthy = true)
    (trace : Bus.Trace) {count : Nat} (enough : events.length ≤ count) :
    (next settings draw faults now)^[count] (send faults now trace events, source) =
      (⟨.ended (.ok ()), trace ++ Delivery.runAll faults now trace.attempts.length events⟩, source) := by
  induction events generalizing trace count with
  | nil =>
    rw [Delivery.runAll, Bus.Trace.append_empty]
    exact next_iterate_ended ..
  | cons delivery rest ih =>
    have truthy := wanted (List.cons_ne_nil delivery rest)
    have spec := delivery.run_begin faults now trace.attempts.length
    unfold send
    cases begun : delivery.begin faults now trace.attempts.length with
    | skipped record =>
      rw [begun] at spec
      dsimp only
      rw [ih (fun _ => truthy) _ (Nat.le_of_succ_le enough), Delivery.runAll, spec.2,
        Bus.Trace.append_assoc, Bus.Trace.length_attempts_append]
    | waits attempt late =>
      rw [begun] at spec
      obtain ⟨count, rfl⟩ := Nat.exists_eq_add_one_of_ne_zero (Nat.ne_zero_of_lt enough)
      have waited : next settings draw faults now (⟨.waiting late rest, trace ++ ⟨[attempt], []⟩⟩, source) =
          (send faults now (trace ++ ⟨[attempt], late⟩) rest, source) := by
        have whole : trace ++ ⟨[attempt], []⟩ ++ .ofRecords late = trace ++ ⟨[attempt], late⟩ :=
          Bus.Trace.append_assoc ..
        simp only [next, resume, whole, Settings.wanted, truthy, if_true]
      rw [Function.iterate_succ_apply, waited, ih (fun _ => truthy) _ (Nat.le_of_succ_le_succ enough),
        Delivery.runAll, spec.2, Bus.Trace.append_assoc, Bus.Trace.length_attempts_append]

/-- A plan that is begun ends as the plan with the events that are wanted. -/
theorem next_iterate_begin (settings : Settings) (draw : Draw σ) (faults : Bus.Faults) (now : Moment)
    (source : σ) {plan : Plan} (short : plan.deliveries.length ≤ 2)
    (silent : plan.error.isSome = true → plan.deliveries = []) :
    (next settings draw faults now)^[2] (plan.begin settings faults now, source) =
      (⟨.ended (plan.wanted settings).result, (plan.wanted settings).run faults now 0⟩, source) := by
  obtain ⟨records, deliveries, error⟩ := plan
  cases error with
  | some error =>
    have none : deliveries = [] := silent rfl
    subst none
    have run : (Plan.wanted ⟨records, [], some error⟩ settings).run faults now 0 = .ofRecords records :=
      Bus.Trace.append_empty _
    rw [run]
    exact next_iterate_ended ..
  | none =>
    cases deliveries with
    | nil =>
      have run : (Plan.wanted ⟨records, [], none⟩ settings).run faults now 0 = .ofRecords records :=
        Bus.Trace.append_empty _
      rw [run]
      exact next_iterate_ended ..
    | cons reply events =>
      have few : (settings.wanted events).length ≤ 1 :=
        (length_wanted_le settings events).trans (Nat.le_of_succ_le_succ short)
      have run : (Plan.wanted ⟨records, reply :: events, none⟩ settings).run faults now 0 =
          .ofRecords records ++ (reply.run faults now 0 ++ Delivery.runAll faults now
            (0 + (reply.run faults now 0).attempts.length) (settings.wanted events)) := rfl
      have spec := reply.run_begin faults now 0
      unfold Plan.begin
      cases begun : reply.begin faults now 0 with
      | skipped record =>
        -- A reply that cannot be made is not waited for, so that one segment is left over.
        rw [begun] at spec
        rw [run, spec.2, ← Bus.Trace.append_assoc]
        simp only [begun]
        exact next_iterate_send settings draw faults now source wanted_truthy _ (Nat.le_succ_of_le few)
      | waits attempt late =>
        rw [begun] at spec
        have waited : next settings draw faults now
            (⟨.waiting late events, .ofRecords records ++ ⟨[attempt], []⟩⟩, source) =
            (send faults now (.ofRecords records ++ ⟨[attempt], late⟩) (settings.wanted events),
              source) := by
          have whole : Bus.Trace.ofRecords records ++ ⟨[attempt], []⟩ ++ .ofRecords late =
            .ofRecords records ++ ⟨[attempt], late⟩ := Bus.Trace.append_assoc ..
          simp only [next, resume, whole]
        rw [run, spec.2, ← Bus.Trace.append_assoc, Function.iterate_succ_apply]
        simp only [begun, waited]
        exact next_iterate_send settings draw faults now source wanted_truthy _ few

/-- An invocation that nothing comes between is the handling of its message in one step: three
segments end as the plan ends, with the trace of the plan and the source after it. -/
theorem next_iterate_ofMessage (message : Message) (settings : Settings) (draw : Draw σ)
    (faults : Bus.Faults) (now : Moment) (source : σ) :
    (next settings draw faults now)^[3] (ofMessage message, source) =
      let (plan, after) := message.plan draw settings source
      (⟨.ended plan.result, plan.run faults now 0⟩, after) := by
  obtain ⟨short, silent⟩ := message.plan_shape draw settings.telling source
  rw [Function.iterate_succ_apply, message.plan_eq_wanted]
  exact next_iterate_begin settings draw faults now _ short silent

end Messages

end Invocation

end Plugin

end ChatDice
