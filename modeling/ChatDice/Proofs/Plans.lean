import ChatDice.Proofs.Handling

/-!
The plan for a request, whatever the platform is: one reply of failure if its dice do not parse,
nothing but an error if its roll has no report, and otherwise a reply of success and an event. A
reply is made if it is an answer or if the platform has a text, and an event always, as far as they
do not nest too deeply.
-/

namespace ChatDice.Plugin

open Dice

variable {σ : Type} {draw : Draw σ} {settings : Settings} {source : σ} {request : Request}
  {replySubject : Option Text}

/-- A platform matters by its text only, and where an answer is asked for not at all. -/
theorem Request.call_sink_congr (other : Settings) (levels : Nat) (content : Text) (success : Json)
    (same : asksAnswer replySubject = true ∨ settings.platform.text = other.platform.text) :
    (request.sink settings replySubject).call levels content success =
      (request.sink other replySubject).call levels content success := by
  simp only [ReplySink.call, answersRequest_sink]
  by_cases asked : asksAnswer replySubject = true
  · rw [if_pos asked, if_pos asked]
    rfl
  · have subject : (request.sink settings replySubject).subject =
        (request.sink other replySubject).subject := by
      rw [ReplySink.subject, ReplySink.subject, sink, sink, same.resolve_left asked]
    rw [if_neg asked, if_neg asked, subject]
    rfl

section Messages

variable [Json.Nesting]

/-- The calls that the reply to a request comes to, one at most: a platform without a text can be
told nothing. -/
def Request.replies (request : Request) (settings : Settings) (replySubject : Option Text)
    (content : Text) (success : Bool) : List Bus.Call :=
  if asksAnswer replySubject then
    ifWritten (request.replyDepth replySubject) (request.reply replySubject [] content success)
  else match settings.platform.text with
    | .ok platform =>
      ifWritten (request.replyDepth replySubject) (request.reply replySubject platform content success)
    | .error _ => []

theorem Request.calls_of_reply (fits : request.Spellable) (content : Text) (success : Bool)
    (now : Moment) :
    [(request.sink settings replySubject).delivery Json.Nesting.written content
        (.bool success)].filterMap (fun delivery => (delivery.call now).toOption) =
      request.replies settings replySubject content success := by
  have spelled {platform : Text}
      (same : asksAnswer replySubject = true ∨ settings.platform.text = (Datum.str platform).text) :
      [(request.sink settings replySubject).delivery Json.Nesting.written content
          (.bool success)].filterMap (fun delivery => (delivery.call now).toOption) =
        ifWritten (request.replyDepth replySubject)
          (request.reply replySubject platform content success) := by
    let textual : Settings := { settings with platform := .str platform }
    have configured : textual.platform = .str platform := rfl
    have called := request.call_delivery fits configured replySubject Json.Nesting.written content
      success now
    rw [← calls_of_delivery called]
    simp only [ReplySink.delivery, call_sink_congr textual _ _ _ same]
    rfl
  unfold replies
  by_cases asked : asksAnswer replySubject = true
  · rw [if_pos asked, spelled (.inl asked)]
  · rw [if_neg asked]
    cases shown : settings.platform.text with
    | ok platform => rw [spelled (.inr shown)]
    | error excess =>
      have unspelled : (request.sink settings replySubject).subject = .error excess := by
        rw [ReplySink.subject, sink, shown]
        rfl
      simp only [ReplySink.delivery, ReplySink.call, answersRequest_sink, if_neg asked, unspelled]
      rfl

theorem Request.calls_of_deliveries (fits : request.Spellable) {spec : Specification}
    (parsed : parse request.dice = .ok spec) {roll : Roll} {text : Text}
    (reported : request.report spec settings roll = .ok text) (now : Moment) :
    (request.deliveries settings replySubject spec roll text).filterMap
        (fun delivery => (delivery.call now).toOption) =
      request.replies settings replySubject text true ++
        if settings.emitEvents.truthy then ifWritten request.eventDepth (request.event spec roll now)
        else [] := by
  rw [deliveries, ← List.singleton_append, List.filterMap_append, calls_of_reply fits]
  congr 1
  split
  · exact calls_of_delivery
      (request.call_eventDelivery fits (inRange_of_parse parsed) reported now)
  · rfl

/-- What the plan for the request in a message says, the handling of the message does. -/
theorem Session.handle_of_request (session : Session σ) (draw : Draw σ) (faults : Bus.Faults)
    (now : Moment) {message : Message} {members : List (Text × Json)} (holds : message.Holds members)
    {error : Option HandlerError} {deliveries : List Delivery} {source : σ}
    (planned :
      let plan := (Request.ofMembers members).plan draw session.plugin.settings message.replySubject
        session.source
      plan.1.error = error ∧ plan.1.deliveries = deliveries ∧ plan.2 = source) :
    let handled := session.step draw faults now (.handle message)
    handled.1 = { session with source } ∧
      handled.2.result = error.elim (.ok .nothing) (fun error => .error (.handler error)) ∧
      (message.plan draw session.plugin.settings session.source).1.deliveries = deliveries ∧
      handled.2.trace.calls = deliveries.filterMap fun delivery => (delivery.call now).toOption := by
  rw [← Message.plan_of_holds holds] at planned
  obtain ⟨ended, rfl, rfl⟩ := planned
  obtain ⟨result, calls⟩ := session.handle_of_plan draw faults now message ⟨ended, rfl⟩
  refine ⟨rfl, ?_, rfl, calls⟩
  cases error <;> exact result

end Messages

end ChatDice.Plugin
