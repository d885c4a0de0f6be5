import ChatDice.Plugin.Session

/-!
Which calls a step makes on the bus. They depend on the plan alone: a refused call is an attempted
one, and no refusal keeps a later delivery from being made.
-/

namespace ChatDice

namespace Bus.Trace

/-- The calls attempted, whether made or refused. -/
def calls (trace : Trace) : List Call := trace.attempts.map Attempt.call

@[simp]
theorem calls_append (first second : Trace) : (first ++ second).calls = first.calls ++ second.calls :=
  List.map_append

@[simp]
theorem calls_ofRecords (records : List Logging.Record) : (ofRecords records).calls = [] := rfl

end Bus.Trace

namespace Plugin

/-- The calls of a plan: one for each delivery that can be made. -/
def Plan.calls (plan : Plan) (now : Moment) : List Bus.Call :=
  plan.deliveries.filterMap fun delivery => (delivery.call now).toOption

theorem Plan.mem_calls {plan : Plan} {now : Moment} {call : Bus.Call} :
    call ∈ plan.calls now ↔ ∃ delivery ∈ plan.deliveries, delivery.call now = .ok call := by
  have same (delivery : Delivery) :
      (delivery.call now).toOption = some call ↔ delivery.call now = .ok call := by
    cases delivery.call now <;> simp [Except.toOption]
  simp only [Plan.calls, List.mem_filterMap, same]

/-- If the first delivery can be made, its call comes first. -/
theorem Plan.head?_calls {plan : Plan} {now : Moment} {delivery : Delivery} {call : Bus.Call}
    (first : plan.deliveries.head? = some delivery) (made : delivery.call now = .ok call) :
    (plan.calls now).head? = some call := by
  obtain ⟨others, same⟩ := List.head?_eq_some_iff.mp first
  simp [Plan.calls, same, made, Except.toOption]

theorem Delivery.calls_run (delivery : Delivery) (faults : Bus.Faults) (now : Moment) (index : Nat) :
    (delivery.run faults now index).calls = (delivery.call now).toOption.toList := by
  unfold Delivery.run
  cases delivery.call now with
  | error reason => rfl
  | ok call =>
    simp only [Bus.attempt]
    cases faults index call <;> rfl

theorem Delivery.calls_runAll (faults : Bus.Faults) (now : Moment) (index : Nat)
    (deliveries : List Delivery) :
    (runAll faults now index deliveries).calls =
      deliveries.filterMap fun delivery => (delivery.call now).toOption := by
  induction deliveries generalizing index with
  | nil => rfl
  | cons delivery rest ih =>
    rw [runAll, Bus.Trace.calls_append, calls_run, ih]
    cases found : delivery.call now <;> simp [found, Except.toOption]

/-- A delivery that comes to no call is logged. -/
theorem Delivery.mem_records_runAll {delivery : Delivery} {deliveries : List Delivery}
    (planned : delivery ∈ deliveries) (faults : Bus.Faults) {now : Moment} {reason : Text}
    (failed : delivery.call now = .error reason) (index : Nat) :
    delivery.onFailure reason ∈ (runAll faults now index deliveries).records := by
  induction deliveries generalizing index with
  | nil => cases planned
  | cons first rest ih =>
    rw [runAll]
    apply List.mem_append.mpr
    rcases List.mem_cons.mp planned with rfl | later
    · left
      simp [Delivery.run, failed, Bus.Trace.ofRecords]
    · exact .inr (ih later _)

/-- Every delivery of a plan comes to its call, or is logged. -/
theorem Plan.made_or_logged {plan : Plan} {delivery : Delivery} (planned : delivery ∈ plan.deliveries)
    (faults : Bus.Faults) (now : Moment) (index : Nat) :
    (∃ call ∈ plan.calls now, delivery.call now = .ok call) ∨
      ∃ reason, delivery.call now = .error reason ∧
        delivery.onFailure reason ∈ (plan.run faults now index).records := by
  cases called : delivery.call now with
  | ok call => exact .inl ⟨call, Plan.mem_calls.mpr ⟨delivery, planned, called⟩, rfl⟩
  | error reason =>
    exact .inr ⟨reason, rfl, List.mem_append_right _ (Delivery.mem_records_runAll planned faults called index)⟩

/-- Whatever calls are refused, a plan attempts the same ones in the same order. -/
theorem Plan.calls_run (plan : Plan) (faults : Bus.Faults) (now : Moment) (index : Nat) :
    (plan.run faults now index).calls = plan.calls now := by
  rw [Plan.run, Bus.Trace.calls_append, Bus.Trace.calls_ofRecords, List.nil_append,
    Delivery.calls_runAll, Plan.calls]

variable {σ : Type} [Json.Nesting]

theorem Session.handle_calls (session : Session σ) (draw : Dice.Draw σ) (faults : Bus.Faults)
    (now : Moment) (message : Message) :
    (session.step draw faults now (.handle message)).2.trace.calls =
      (message.plan draw session.plugin.settings session.source).1.calls now :=
  Plan.calls_run _ faults now 0

/-- What the plan for a message says about its end and its calls, its handling does. -/
theorem Session.handle_of_plan (session : Session σ) (draw : Dice.Draw σ) (faults : Bus.Faults)
    (now : Moment) (message : Message) {error : Option HandlerError} {calls : List Bus.Call}
    (planned : let plan := (message.plan draw session.plugin.settings session.source).1
      plan.error = error ∧ plan.calls now = calls) :
    let outcome := (session.step draw faults now (.handle message)).2
    outcome.result = (match error with
      | none => .ok .nothing
      | some error => .error (.handler error)) ∧ outcome.trace.calls = calls := by
  obtain ⟨ended, sent⟩ := planned
  refine ⟨?_, (session.handle_calls draw faults now message).trans sent⟩
  simp only [Session.step, Plan.result, ended]
  cases error <;> rfl

end Plugin

end ChatDice
