import ChatDice.Bus
import ChatDice.Json.Writer
import ChatDice.Plugin.Manifest

/-!
Replies. A request that names a reply subject is answered there, with the outcome and the mode of
delivery; any other reply is published to the platform, privately or in the chat.
-/

namespace ChatDice.Plugin

/-- One thing to be sent. The call may depend on the clock, and may be impossible to make; either
way of failing is only logged. -/
structure Delivery where
  call : (now : Moment) → Except Text Bus.Call
  onFailure : (reason : Text) → Logging.Record

/-- Makes the call of a delivery; `index` counts the calls of the same step before it. -/
def Delivery.run (delivery : Delivery) (faults : Bus.Faults) (now : Moment) (index : Nat) :
    Bus.Trace :=
  match delivery.call now with
  | .error reason => .ofRecords [delivery.onFailure reason]
  | .ok call =>
    match Bus.attempt faults index call with
    | (attempt, none) => ⟨[attempt], []⟩
    | (attempt, some reason) => ⟨[attempt], [delivery.onFailure reason]⟩

/-- Makes deliveries one after another, whether or not the earlier ones fail. -/
def Delivery.runAll (faults : Bus.Faults) (now : Moment) : (index : Nat) → List Delivery → Bus.Trace
  | _, [] => .empty
  | index, delivery :: rest =>
    let trace := delivery.run faults now index
    trace ++ runAll faults now (index + trace.attempts.length) rest

/-- Where the reply to one request goes. -/
structure ReplySink where
  replySubject : Option Text
  platform : Datum
  channel : Json
  user : Json
  isPrivate : Json
  logger : Text
  deriving Repr

namespace ReplySink

/-- The platform subject for a request without a reply subject. -/
def subject (sink : ReplySink) : Except Numeral.Excess Text := do
  let mode : Text := if sink.isPrivate.truthy then "pm" else "chat"
  return "dicebot.platform." ++ (← sink.platform.text) ++ ".send." ++ mode

/-- An empty reply subject counts as none. -/
def answersRequest (sink : ReplySink) : Bool :=
  match sink.replySubject with
  | some subject => !subject.isEmpty
  | none => false

/-- The answer on a reply subject. -/
def responsePayload (sink : ReplySink) (content : Text) (success : Json) : Json :=
  .obj [("success", success), ("private", sink.isPrivate), ("channel", sink.channel),
    ("user", sink.user), (if success.truthy then "message" else "error", .str content)]

/-- The answer on a platform subject: a private one names the user, a public one the channel. -/
def platformPayload (sink : ReplySink) (content : Text) : Json :=
  if sink.isPrivate.truthy then .obj [("user", sink.user), ("message", .str content)]
  else .obj [("channel", sink.channel), ("message", .str content)]

/-- The call that a reply is sent by. Its subject is settled before its payload is written, which may
nest in so many levels. -/
def call (sink : ReplySink) (levels : Nat) (content : Text) (success : Json) :
    Except Json.Obstacle Bus.Call :=
  if sink.answersRequest then
    ((sink.responsePayload content success).write levels).map .respond
  else do
    let subject ← sink.subject.mapError .numeral
    return .publish subject (← (sink.platformPayload content).write levels)

def delivery (sink : ReplySink) (levels : Nat) (content : Text) (success : Json) : Delivery :=
  { call := fun _ =>
      match sink.call levels content success with
      | .ok call => .ok call
      | .error obstacle => .error obstacle.message
    onFailure := fun reason => ⟨sink.logger, .error, "Error sending reply: " ++ reason⟩ }

end ReplySink

end ChatDice.Plugin
