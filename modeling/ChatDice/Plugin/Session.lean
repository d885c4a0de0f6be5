import ChatDice.Plugin.Lifecycle

/-!
Runs of one plugin with one source of randomness: any sequence of activating, shutting down,
handling messages, rolling directly and sending replies.
-/

namespace ChatDice.Plugin

/-- A plugin, its source, and how many subscriptions the bus has given out. -/
structure Session (σ : Type) where
  plugin : Plugin
  source : σ
  issued : Nat

inductive Step
  | activate
  | shutdown
  | handle (message : Message)
  | roll (dice : Text) (grouped : Bool)
  | send (sink : ReplySink) (content : Text) (success : Json)
  deriving Repr

/-- What a step answers with if it succeeds. -/
inductive Answer
  | nothing
  | text (text : Text)
  | subject (subject : Text)
  deriving DecidableEq, Repr

inductive StepError
  | refused (reason : Text)
  | handler (error : HandlerError)
  | roll (error : RollError)
  | subject (excess : Numeral.Excess)
  deriving DecidableEq, Repr

/-- What a step answers, and what it leaves on the bus and in the log. -/
structure Outcome where
  result : Except StepError Answer
  trace : Bus.Trace

variable {σ : Type}

def Session.start (settings : Settings) (source : σ) : Session σ := ⟨.ofSettings settings, source, 0⟩

/-- One step under given faults, at a given time. A reply on its own is sent from where a message is
read. -/
def Session.step [Json.Nesting] (session : Session σ) (draw : Dice.Draw σ) (faults : Bus.Faults)
    (now : Moment) : Step → Session σ × Outcome
  | .activate =>
    let done := session.plugin.activate faults 0 session.issued
    match done.refusal with
    | some reason => ({ session with plugin := done.plugin }, ⟨.error (.refused reason), done.trace⟩)
    | none =>
      ({ session with plugin := done.plugin, issued := session.issued + 1 },
        ⟨.ok .nothing, done.trace⟩)
  | .shutdown =>
    let (plugin, trace) := session.plugin.shutdown faults 0
    ({ session with plugin }, ⟨.ok .nothing, trace⟩)
  | .handle message =>
    let (plan, source) := message.plan draw session.plugin.settings session.source
    let result := match plan.result with
      | .ok () => .ok .nothing
      | .error error => .error (.handler error)
    ({ session with source }, ⟨result, plan.run faults now 0⟩)
  | .roll dice grouped =>
    let (rolled, source) := session.plugin.roll draw dice grouped session.source
    let result := match rolled with
      | .ok text => .ok (.text text)
      | .error error => .error (.roll error)
    ({ session with source }, ⟨result, .empty⟩)
  | .send sink content success =>
    let trace := (sink.delivery Json.Nesting.read content success).run faults now 0
    let result := match sink.subject with
      | .ok subject => .ok (.subject subject)
      | .error excess => .error (.subject excess)
    (session, ⟨result, trace⟩)

end ChatDice.Plugin
