import ChatDice.Plugin.Handler

/-!
The handler between its awaits. An invocation waits for the end of each call that it makes; what is
logged of a refused call is logged after the wait, and whether an event is wanted is asked only when
it is due.
-/

namespace ChatDice.Plugin

open Dice

/-- What a delivery comes to at once: a record if its call cannot be made, or else a call to wait
for, with what is logged after the wait. -/
inductive Begun
  | skipped (record : Logging.Record)
  | waits (attempt : Bus.Attempt) (late : List Logging.Record)

def Delivery.begin (delivery : Delivery) (faults : Bus.Faults) (now : Moment) (index : Nat) : Begun :=
  match delivery.call now with
  | .error reason => .skipped (delivery.onFailure reason)
  | .ok call =>
    match Bus.attempt faults index call with
    | (attempt, none) => .waits attempt []
    | (attempt, some reason) => .waits attempt [delivery.onFailure reason]

/-- Where an invocation stands between two awaits. One that waits has events to come, if they are
wanted then. -/
inductive Stage
  | arrived (message : Message)
  | waiting (late : List Logging.Record) (events : List Delivery)
  | ended (result : Except HandlerError Unit)

/-- An invocation, with what it has left on the bus and in the log so far. -/
structure Invocation where
  stage : Stage
  trace : Bus.Trace

def Invocation.ofMessage (message : Message) : Invocation := ⟨.arrived message, .empty⟩

/-- Makes deliveries up to the first call to wait for. -/
def Invocation.send (faults : Bus.Faults) (now : Moment) : Bus.Trace → List Delivery → Invocation
  | trace, [] => ⟨.ended (.ok ()), trace⟩
  | trace, delivery :: rest =>
    match delivery.begin faults now trace.attempts.length with
    | .skipped record => send faults now (trace ++ .ofRecords [record]) rest
    | .waits attempt late => ⟨.waiting late rest, trace ++ ⟨[attempt], []⟩⟩

/-- The events that are wanted. -/
def Settings.wanted (settings : Settings) (events : List Delivery) : List Delivery :=
  if settings.emitEvents.truthy then events else []

/-- The settings of a plugin that wants its events. -/
def Settings.telling (settings : Settings) : Settings := { settings with emitEvents := .bool true }

/-- The first segment of an invocation, after parsing, rolling and reporting; the plan is one with
its events. -/
def Plan.begin (plan : Plan) (settings : Settings) (faults : Bus.Faults) (now : Moment) : Invocation :=
  match plan.error, plan.deliveries with
  | some error, _ => ⟨.ended (.error error), .ofRecords plan.records⟩
  | none, [] => ⟨.ended (.ok ()), .ofRecords plan.records⟩
  | none, reply :: events =>
    match reply.begin faults now 0 with
    | .skipped record =>
      .send faults now (.ofRecords plan.records ++ .ofRecords [record]) (settings.wanted events)
    | .waits attempt late => ⟨.waiting late events, .ofRecords plan.records ++ ⟨[attempt], []⟩⟩

/-- Runs an invocation up to its next await or to its end. -/
def Invocation.resume {σ : Type} [Json.Nesting] (invocation : Invocation) (settings : Settings)
    (draw : Draw σ) (faults : Bus.Faults) (now : Moment) (source : σ) : Invocation × σ :=
  match invocation.stage with
  | .arrived message =>
    let (plan, next) := message.plan draw settings.telling source
    (plan.begin settings faults now, next)
  | .waiting late events =>
    (send faults now (invocation.trace ++ .ofRecords late) (settings.wanted events), source)
  | .ended _ => (invocation, source)

end ChatDice.Plugin
