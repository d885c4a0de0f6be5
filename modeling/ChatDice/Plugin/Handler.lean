import ChatDice.Dice.Report
import ChatDice.Plugin.Reply
import ChatDice.Plugin.Request
import ChatDice.Plugin.Settings

/-!
Handling a roll request. Decoding, parsing, rolling and reporting come first and touch the bus
nowhere; what is to be sent is then a plan of at most two deliveries, a reply and an event.
-/

namespace ChatDice.Plugin

open Dice

/-- What ends the handling of a message without an answer. -/
inductive HandlerError
  | tooDeep
  | report (error : Report.Error)
  deriving DecidableEq, Repr

/-- What is logged at once, what is then sent, and what ends the handling instead. -/
structure Plan where
  records : List Logging.Record
  deliveries : List Delivery
  error : Option HandlerError

namespace Plan

/-- The trace of a plan under given faults; `index` counts the calls of the same step before it. -/
def run (plan : Plan) (faults : Bus.Faults) (now : Moment) (index : Nat) : Bus.Trace :=
  .ofRecords plan.records ++ Delivery.runAll faults now index plan.deliveries

def result (plan : Plan) : Except HandlerError Unit :=
  match plan.error with
  | none => .ok ()
  | some error => .error error

end Plan

private def record (level : Logging.Level) (text : Text) : Logging.Record := ⟨loggerName, level, text⟩

/-- The reason that the log gives for a rejected message; how a text is malformed is left out. -/
def Message.Error.detail : Message.Error → Text
  | .notObject kind => "expected a JSON object, got " ++ kind
  | _ => []

/-- The answer to a message that holds no request; no stack is too short for its one level. -/
def rejectionDelivery : Delivery :=
  { call := fun _ => .ok (.respond
      (Json.obj [("success", .bool false), ("error", .str "Invalid message format")]).render)
    onFailure := fun reason => record .error ("Error sending response: " ++ reason) }

/-- The event that tells of a roll. -/
def eventPayload (request : Request) (spec : Specification) (roll : Roll) (now : Moment) : Json :=
  .obj [("timestamp", .str (now.iso "T")), ("channel", request.channel), ("user", request.user),
    ("query", .str spec.query), ("dice_amount", .int spec.amount), ("dice_sides", .int spec.sides),
    ("modifier", .int spec.modifier), ("outcomes", .arr (roll.outcomes.map .int)),
    ("total", .int roll.total)]

def eventDelivery [Json.Nesting] (request : Request) (spec : Specification) (roll : Roll) : Delivery :=
  { call := fun now =>
      match (eventPayload request spec roll now).write Json.Nesting.written with
      | .ok payload => .ok (.publish eventSubject payload)
      | .error obstacle => .error obstacle.message
    onFailure := fun reason => record .debug ("Could not publish roll event: " ++ reason) }

/-- The sink for the reply to a request. -/
def Request.sink (request : Request) (settings : Settings) (replySubject : Option Text) : ReplySink :=
  { replySubject
    platform := settings.platform
    channel := request.channel
    user := request.user
    isPrivate := .bool request.isPrivate
    logger := loggerName }

variable {σ : Type} [Json.Nesting]

/-- The plan for a request, with the source of randomness after its draws. -/
def Request.plan (request : Request) (draw : Draw σ) (settings : Settings)
    (replySubject : Option Text) (source : σ) : Plan × σ :=
  let sink := request.sink settings replySubject
  match parse request.dice with
  | .error failure =>
    ({ records := [record .debug ("Roll error for '" ++ request.dice ++ "': " ++ failure.message)]
       deliveries := [sink.delivery Json.Nesting.written failure.message (.bool false)]
       error := none }, source)
  | .ok spec =>
    let showGroups := settings.showsGroups request.groups
    let asked : Text := if request.groups then "True" else "False"
    let records := if showGroups != request.groups then
        [record .debug ("Ignoring groups=" ++ asked ++ " for '" ++ request.dice ++ "'")]
      else []
    let (roll, source) := spec.roll draw source
    match Report.render spec.query roll (Grouping.ofOutcomes roll.outcomes) showGroups with
    | .error error => ({ records, deliveries := [], error := some (.report error) }, source)
    | .ok text =>
      let events := if settings.emitEvents.truthy then [eventDelivery request spec roll] else []
      ({ records
         deliveries := sink.delivery Json.Nesting.written text (.bool true) :: events
         error := none }, source)

/-- The plan for a message. One without a request is answered only if it names a reply subject. -/
def Message.plan (message : Message) (draw : Draw σ) (settings : Settings) (source : σ) : Plan × σ :=
  match message.members with
  | .ok members => (Request.ofMembers members).plan draw settings message.replySubject source
  | .error .tooDeep => ({ records := [], deliveries := [], error := some .tooDeep }, source)
  | .error rejection =>
    let answered := match message.replySubject with
      | some subject => !subject.isEmpty
      | none => false
    ({ records := [record .error ("Invalid message format: " ++ rejection.detail)]
       deliveries := if answered then [rejectionDelivery] else []
       error := none }, source)

end ChatDice.Plugin
