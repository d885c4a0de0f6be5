import ChatDice.Proofs.Deliveries
import ChatDice.Proofs.Reporting
import ChatDice.Proofs.Writing

/-!
What the handling of one message sends. What the message holds decides between a rejection, a
reply of failure, nothing at all, and a reply of success with its event. What nests too deeply to be
written is attempted, but makes no call.
-/

namespace ChatDice.Plugin

open Dice

/-- A reply subject that is there and not empty asks for an answer. -/
def asksAnswer (replySubject : Option Text) : Bool := replySubject.any fun subject => !subject.isEmpty

/-- The answer to a message that holds no request. -/
def rejection : Bus.Call :=
  .respond (Json.obj [("success", .bool false), ("error", .str "Invalid message format")]).render

/-- The reply to a request: an answer if one is asked for, else a message to the platform. -/
def Request.reply (request : Request) (replySubject : Option Text) (platform content : Text)
    (success : Bool) : Bus.Call :=
  if asksAnswer replySubject then
    .respond (Json.obj [("success", .bool success), ("private", .bool request.isPrivate),
      ("channel", request.channel), ("user", request.user),
      (if success then "message" else "error", .str content)]).render
  else if request.isPrivate then
    .publish ("dicebot.platform." ++ platform ++ ".send.pm")
      (Json.obj [("user", request.user), ("message", .str content)]).render
  else
    .publish ("dicebot.platform." ++ platform ++ ".send.chat")
      (Json.obj [("channel", request.channel), ("message", .str content)]).render

/-- In how many levels the reply to a request nests: one more than what it repeats of the request. -/
def Request.replyDepth (request : Request) (replySubject : Option Text) : Nat :=
  (if asksAnswer replySubject then max request.channel.depth request.user.depth
  else if request.isPrivate then request.user.depth else request.channel.depth) + 1

/-- An event repeats both the channel and the user, and lists the outcomes. -/
def Request.eventDepth (request : Request) : Nat :=
  max (max request.channel.depth request.user.depth) 1 + 1

theorem Request.replyDepth_le_eventDepth (request : Request) (replySubject : Option Text) :
    request.replyDepth replySubject ≤ request.eventDepth := by
  unfold replyDepth eventDepth
  split
  · omega
  · split <;> omega

/-- The call that tells of a roll. -/
def Request.event (request : Request) (spec : Specification) (roll : Roll) (now : Moment) : Bus.Call :=
  .publish "dicebot.event.dice.rolled" (eventPayload request spec roll now).render

def isEvent : Bus.Call → Bool
  | .publish subject _ => subject = eventSubject
  | _ => false

theorem Request.answersRequest_sink (request : Request) (settings : Settings)
    (replySubject : Option Text) :
    (request.sink settings replySubject).answersRequest = asksAnswer replySubject := by
  cases replySubject <;> rfl

private theorem sink_subject (request : Request) {settings : Settings} {platform : Text}
    (configured : settings.platform = .str platform) (replySubject : Option Text) :
    (request.sink settings replySubject).subject =
      .ok ("dicebot.platform." ++ platform ++
        if request.isPrivate then Text.ofString ".send.pm" else ".send.chat") := by
  rw [ReplySink.subject, Request.sink, configured, Datum.text]
  cases request.isPrivate with
  | false =>
    have mode : Text.ofString ".send." ++ Text.ofString "chat" = ".send.chat" := by decide
    exact congrArg Except.ok ((List.append_assoc ..).trans (congrArg _ mode))
  | true =>
    have mode : Text.ofString ".send." ++ Text.ofString "pm" = ".send.pm" := by decide
    exact congrArg Except.ok ((List.append_assoc ..).trans (congrArg _ mode))

/-- The subjects of a platform part ways with that of the event after the name of the program. -/
theorem platform_ne_eventSubject (rest : Text) :
    Text.ofString "dicebot.platform." ++ rest ≠ eventSubject := by
  intro same
  have beginnings := congrArg (List.take 9) same
  rw [List.take_append_of_le_length (by decide)] at beginnings
  exact absurd beginnings (by decide)

/-- No reply goes out on the subject of the event. -/
theorem isEvent_reply (request : Request) (replySubject : Option Text) (platform content : Text)
    (success : Bool) : isEvent (request.reply replySubject platform content success) = false := by
  unfold Request.reply
  split
  · rfl
  · split
    · simp [isEvent, platform_ne_eventSubject]
    · simp [isEvent, platform_ne_eventSubject]

theorem isEvent_event (request : Request) (spec : Specification) (roll : Roll) (now : Moment) :
    isEvent (request.event spec roll now) = true := by
  simp [isEvent, Request.event, eventSubject]

/-- No whole number over the limit stands in the parts of a request that payloads repeat. -/
structure Request.Spellable (request : Request) : Prop where
  channel : request.channel.spellable = true
  user : request.user.spellable = true

private theorem spellable_getD {members : List (Text × Json)}
    (fits : ∀ member ∈ members, member.2.spellable = true) (name missing : Text) :
    ((Json.find? members name).getD (.str missing)).spellable = true := by
  cases found : Json.find? members name with
  | none => rfl
  | some value => exact fits (name, value) (Json.mem_of_find? found)

/-- The members of an answer on a reply subject. -/
def Request.answer (request : Request) (content : Text) (success : Bool) : List (Text × Json) :=
  [("success", .bool success), ("private", .bool request.isPrivate), ("channel", request.channel),
    ("user", request.user), (if success then "message" else "error", .str content)]

/-- The members of what the platform is told. -/
def Request.posting (request : Request) (content : Text) : List (Text × Json) :=
  if request.isPrivate then [("user", request.user), ("message", .str content)]
  else [("channel", request.channel), ("message", .str content)]

section Payloads

variable {request : Request} {content : Text} {success : Bool}

theorem Request.responsePayload_sink (settings : Settings) (replySubject : Option Text) :
    (request.sink settings replySubject).responsePayload content (.bool success) =
      .obj (request.answer content success) := by
  cases success <;> rfl

theorem Request.platformPayload_sink (settings : Settings) (replySubject : Option Text) :
    (request.sink settings replySubject).platformPayload content = .obj (request.posting content) := by
  simp only [ReplySink.platformPayload, sink, Json.truthy, posting]
  exact (apply_ite Json.obj ..).symm

theorem Request.write_answer (fits : request.Spellable) (levels : Nat) :
    (Json.obj (request.answer content success)).write levels =
      if max request.channel.depth request.user.depth + 1 ≤ levels then
        .ok (Json.obj (request.answer content success)).render
      else .error .tooDeep := by
  have spellable : (Json.obj (request.answer content success)).spellable = true := by
    apply Json.spellable_obj_iff.mpr
    simp [answer, fits.channel, fits.user, Json.spellable]
  have depth : (Json.obj (request.answer content success)).depth =
      max request.channel.depth request.user.depth + 1 := by
    simp [answer, Json.depth, Json.depthOfMembers]
  rw [Json.write_of_spellable spellable, depth]

theorem Request.write_posting (fits : request.Spellable) (levels : Nat) :
    (Json.obj (request.posting content)).write levels =
      if (if request.isPrivate then request.user.depth else request.channel.depth) + 1 ≤ levels then
        .ok (Json.obj (request.posting content)).render
      else .error .tooDeep := by
  have spellable : (Json.obj (request.posting content)).spellable = true := by
    apply Json.spellable_obj_iff.mpr
    unfold posting
    split <;> simp [fits.channel, fits.user, Json.spellable]
  have depth : (Json.obj (request.posting content)).depth =
      (if request.isPrivate then request.user.depth else request.channel.depth) + 1 := by
    unfold posting
    split <;> simp [Json.depth, Json.depthOfMembers]
  rw [Json.write_of_spellable spellable, depth]

end Payloads

private theorem call_sink {request : Request} (fits : request.Spellable) {settings : Settings}
    {platform : Text} (configured : settings.platform = .str platform) (replySubject : Option Text)
    (levels : Nat) (content : Text) (success : Bool) :
    (request.sink settings replySubject).call levels content (.bool success) =
      if request.replyDepth replySubject ≤ levels then
        .ok (request.reply replySubject platform content success)
      else .error .tooDeep := by
  rw [ReplySink.call, Request.answersRequest_sink, sink_subject request configured,
    Request.responsePayload_sink, Request.platformPayload_sink, Request.write_answer fits,
    Request.write_posting fits, Request.replyDepth, Request.reply]
  by_cases asked : asksAnswer replySubject = true
  · simp only [if_pos asked]
    by_cases shallow : max request.channel.depth request.user.depth + 1 ≤ levels
    · simp only [if_pos shallow]
      rfl
    · simp only [if_neg shallow]
      rfl
  · simp only [if_neg asked]
    by_cases shallow :
        (if request.isPrivate then request.user.depth else request.channel.depth) + 1 ≤ levels
    · simp only [if_pos shallow, Request.posting]
      cases request.isPrivate <;> rfl
    · simp only [if_neg shallow]
      rfl

/-- The reply to a request is made unless it nests too deeply. -/
theorem Request.call_delivery {request : Request} (fits : request.Spellable) {settings : Settings}
    {platform : Text} (configured : settings.platform = .str platform) (replySubject : Option Text)
    (levels : Nat) (content : Text) (success : Bool) (now : Moment) :
    ((request.sink settings replySubject).delivery levels content (.bool success)).call now =
      if request.replyDepth replySubject ≤ levels then
        .ok (request.reply replySubject platform content success)
      else .error Json.Obstacle.tooDeep.message := by
  simp only [ReplySink.delivery, call_sink fits configured]
  by_cases shallow : request.replyDepth replySubject ≤ levels
  · simp only [if_pos shallow]
  · simp only [if_neg shallow]

/-- The report that a request for a roll leads to. -/
def Request.report (request : Request) (spec : Specification) (settings : Settings) (roll : Roll) :
    Except Report.Error Text :=
  Report.render spec.query roll (Grouping.ofOutcomes roll.outcomes)
    (settings.showsGroups request.groups)

namespace AtMostOneReply

variable {calls : List Bus.Call}

end AtMostOneReply

section Messages

variable [Json.Nesting]

/-- The message is the UTF-8 form of an object with these members. -/
def Message.Holds (message : Message) (members : List (Text × Json)) : Prop :=
  ∃ t, Utf8.decode message.data = some t ∧ Json.read t = .ok (.obj members)

def Message.TooDeep (message : Message) : Prop :=
  ∃ t, Utf8.decode message.data = some t ∧ Json.read t = .error .tooDeep

/-- Why a message holds no request. -/
inductive Message.Malformed (message : Message) : Prop
  | bytes (undecodable : Utf8.decode message.data = none)
  | text {t : Text} (decoded : Utf8.decode message.data = some t)
      (unreadable : Json.read t = .error .malformed)
  | numeral {t : Text} {digits : Nat} (decoded : Utf8.decode message.data = some t)
      (tooLong : Json.read t = .error (.numeralTooLong digits))
  | value {t : Text} {value : Json} (decoded : Utf8.decode message.data = some t)
      (readable : Json.read t = .ok value) (notObject : ∀ members, value ≠ .obj members)

theorem Message.members_of_holds {message : Message} {members : List (Text × Json)}
    (holds : message.Holds members) : message.members = .ok members := by
  obtain ⟨t, decoded, read⟩ := holds
  simp only [Message.members, decoded, read]

theorem Message.Holds.unique {message : Message} {members others : List (Text × Json)}
    (holds : message.Holds members) (again : message.Holds others) : members = others := by
  have same := (Message.members_of_holds holds).symm.trans (Message.members_of_holds again)
  exact Except.ok.inj same

theorem Message.members_of_tooDeep {message : Message} (tooDeep : message.TooDeep) :
    message.members = .error .tooDeep := by
  obtain ⟨t, decoded, read⟩ := tooDeep
  simp only [Message.members, decoded, read]

theorem Message.members_of_malformed {message : Message} (malformed : message.Malformed) :
    ∃ reason, message.members = .error reason ∧ reason ≠ .tooDeep := by
  cases malformed with
  | bytes undecodable => exact ⟨.malformed, by simp only [Message.members, undecodable], by simp⟩
  | text decoded unreadable =>
    exact ⟨.malformed, by simp only [Message.members, decoded, unreadable], by simp⟩
  | numeral decoded tooLong =>
    exact ⟨.malformed, by simp only [Message.members, decoded, tooLong], by simp⟩
  | @value t value decoded readable notObject =>
    refine ⟨.notObject value.kind, ?_, by simp⟩
    cases value with
    | obj members => exact absurd rfl (notObject members)
    | _ => simp only [Message.members, decoded, readable]

/-- Every message is of exactly one of three kinds. -/
theorem Message.kinds (message : Message) :
    (∃ members, message.Holds members) ∨ message.Malformed ∨ message.TooDeep := by
  cases decoded : Utf8.decode message.data with
  | none => exact .inr (.inl (.bytes decoded))
  | some t =>
    cases read : Json.read t with
    | error reason =>
      cases reason with
      | malformed => exact .inr (.inl (.text decoded read))
      | numeralTooLong digits => exact .inr (.inl (.numeral decoded read))
      | tooDeep => exact .inr (.inr ⟨t, decoded, read⟩)
    | ok value =>
      cases value with
      | obj members => exact .inl ⟨members, t, decoded, read⟩
      | _ => exact .inr (.inl (.value decoded read fun members same => by cases same))

/-- The calls that come of a payload with so many levels: the one given, or none if these are too
many to be written. -/
def ifWritten (depth : Nat) (call : Bus.Call) : List Bus.Call :=
  if depth ≤ Json.Nesting.written then [call] else []

theorem ifWritten_of_le {depth : Nat} (shallow : depth ≤ Json.Nesting.written) (call : Bus.Call) :
    ifWritten depth call = [call] := if_pos shallow

theorem ifWritten_of_lt {depth : Nat} (deep : Json.Nesting.written < depth) (call : Bus.Call) :
    ifWritten depth call = [] := if_neg (Nat.not_le.mpr deep)

theorem eq_of_mem_ifWritten {depth : Nat} {call made : Bus.Call} (among : made ∈ ifWritten depth call) :
    made = call := by
  unfold ifWritten at among
  split at among
  · exact List.mem_singleton.mp among
  · cases among

theorem Request.spellable_of_holds {message : Message} {members : List (Text × Json)}
    (holds : message.Holds members) : (Request.ofMembers members).Spellable := by
  obtain ⟨t, -, read⟩ := holds
  have fits := Json.spellable_obj_iff.mp (Json.spellable_of_readWithin read)
  exact ⟨spellable_getD fits _ _, spellable_getD fits _ _⟩

/-- Once a roll is reported, its event is made unless it nests too deeply. -/
theorem Request.call_eventDelivery {request : Request} (fits : request.Spellable)
    {spec : Specification} (inRange : spec.InRange) {roll : Roll} {query text : Text}
    {grouping : Grouping} {showGroups : Bool}
    (rendered : Report.render query roll grouping showGroups = .ok text) (now : Moment) :
    (eventDelivery request spec roll).call now =
      if request.eventDepth ≤ Json.Nesting.written then .ok (request.event spec roll now)
      else .error Json.Obstacle.tooDeep.message := by
  obtain ⟨faces, total⟩ := Report.lt_of_render rendered
  have outcomes : (Json.arr (roll.outcomes.map .int)).spellable = true := by
    apply Json.spellable_arr_iff.mpr
    intro item member
    obtain ⟨face, shown, same⟩ := List.mem_map.mp member
    rw [← same]
    exact Json.spellable_int_iff.mpr (faces face shown)
  have payload : (eventPayload request spec roll now).spellable = true := by
    apply Json.spellable_obj_iff.mpr
    simp only [List.forall_mem_cons, List.not_mem_nil, false_implies, implies_true, and_true]
    exact ⟨rfl, fits.channel, fits.user, rfl, Json.spellable_int_iff.mpr inRange.amount,
      Json.spellable_int_iff.mpr inRange.sides, Json.spellable_int_iff.mpr inRange.modifier, outcomes,
      Json.spellable_int_iff.mpr total⟩
  have listed : Json.depthOfItems (roll.outcomes.map .int) = 0 := by
    induction roll.outcomes with
    | nil => rfl
    | cons face rest ih => simp [Json.depthOfItems, Json.depth, ih]
  have depth : (eventPayload request spec roll now).depth = request.eventDepth := by
    simp [eventPayload, Json.depth, Json.depthOfMembers, listed, eventDepth, Nat.max_assoc]
  simp only [eventDelivery, Json.write_of_spellable payload, depth]
  by_cases shallow : request.eventDepth ≤ Json.Nesting.written
  · simp only [if_pos shallow]
    rfl
  · simp only [if_neg shallow]

/-- A delivery that fails by its nesting alone makes its call, or none. -/
theorem calls_of_delivery {delivery : Delivery} {now : Moment} {depth : Nat} {call : Bus.Call}
    {reason : Text} (called : delivery.call now =
      if depth ≤ Json.Nesting.written then .ok call else .error reason) :
    [delivery].filterMap (fun delivery => (delivery.call now).toOption) = ifWritten depth call := by
  rw [List.filterMap_cons, called]
  by_cases shallow : depth ≤ Json.Nesting.written
  · rw [ifWritten_of_le shallow, if_pos shallow]
    rfl
  · rw [ifWritten_of_lt (Nat.lt_of_not_le shallow), if_neg shallow]
    rfl

section Plans

variable {σ : Type} {settings : Settings} {platform : Text} {draw : Draw σ} {source : σ} {request : Request}
  {replySubject : Option Text}

/-- What is to be sent for a roll that has a report. -/
def Request.deliveries (request : Request) (settings : Settings) (replySubject : Option Text)
    (spec : Specification) (roll : Roll) (text : Text) : List Delivery :=
  (request.sink settings replySubject).delivery Json.Nesting.written text (.bool true) ::
    if settings.emitEvents.truthy then [eventDelivery request spec roll] else []

theorem Request.plan_of_unparsed {failure : Failure} (failed : parse request.dice = .error failure) :
    let plan := request.plan draw settings replySubject source
    plan.1.error = none ∧
      plan.1.deliveries = [(request.sink settings replySubject).delivery Json.Nesting.written
        failure.message (.bool false)] ∧
      plan.2 = source := by
  simp only [plan, failed, and_self]

theorem Request.plan_of_unreported {spec : Specification} (parsed : parse request.dice = .ok spec)
    {error : Report.Error}
    (failed : request.report spec settings (spec.roll draw source).1 = .error error) :
    let plan := request.plan draw settings replySubject source
    plan.1.error = some (.report error) ∧ plan.1.deliveries = [] ∧
      plan.2 = (spec.roll draw source).2 := by
  rw [report] at failed
  simp only [plan, parsed, failed, and_self]

theorem Request.plan_of_reported {spec : Specification} (parsed : parse request.dice = .ok spec)
    {text : Text} (reported : request.report spec settings (spec.roll draw source).1 = .ok text) :
    let plan := request.plan draw settings replySubject source
    plan.1.error = none ∧
      plan.1.deliveries = request.deliveries settings replySubject spec (spec.roll draw source).1 text ∧
      plan.2 = (spec.roll draw source).2 := by
  rw [report] at reported
  simp only [plan, parsed, reported, deliveries, and_self]

theorem Message.deliveries_of_malformed {message : Message} (malformed : message.Malformed) :
    (message.plan draw settings source).1.deliveries =
      if asksAnswer message.replySubject then [rejectionDelivery] else [] := by
  obtain ⟨reason, rejected, notDeep⟩ := Message.members_of_malformed malformed
  rw [Message.plan, rejected]
  cases reason with
  | tooDeep => exact absurd rfl notDeep
  | _ =>
    cases message.replySubject with
    | none => rfl
    | some subject => cases subject <;> rfl

theorem Message.error_of_malformed {message : Message} (malformed : message.Malformed) :
    (message.plan draw settings source).1.error = none := by
  obtain ⟨reason, rejected, notDeep⟩ := Message.members_of_malformed malformed
  rw [Message.plan, rejected]
  cases reason with
  | tooDeep => exact absurd rfl notDeep
  | _ => rfl

theorem Message.plan_of_malformed {message : Message} (malformed : message.Malformed) (now : Moment) :
    let plan := (message.plan draw settings source).1
    plan.error = none ∧
      plan.calls now = if asksAnswer message.replySubject then [rejection] else [] := by
  refine ⟨Message.error_of_malformed malformed, ?_⟩
  rw [Plan.calls, Message.deliveries_of_malformed malformed]
  split <;> rfl

theorem Message.plan_of_tooDeep {message : Message} (tooDeep : message.TooDeep) (now : Moment) :
    let plan := (message.plan draw settings source).1
    plan.error = some .tooDeep ∧ plan.calls now = [] := by
  rw [Message.plan, Message.members_of_tooDeep tooDeep]
  exact ⟨rfl, rfl⟩

theorem Message.plan_of_holds {message : Message} {members : List (Text × Json)}
    (holds : message.Holds members) :
    message.plan draw settings source =
      (Request.ofMembers members).plan draw settings message.replySubject source := by
  rw [Message.plan, Message.members_of_holds holds]

variable {message : Message} {members : List (Text × Json)}

theorem Message.plan_of_report (holds : message.Holds members) {spec : Specification}
    (parsed : parse (Request.ofMembers members).dice = .ok spec) {text : Text}
    (reported : (Request.ofMembers members).report spec settings (spec.roll draw source).1 = .ok text)
    (configured : settings.platform = .str platform) (now : Moment) :
    let request := Request.ofMembers members
    let plan := (message.plan draw settings source).1
    plan.error = none ∧
      plan.calls now =
        ifWritten (request.replyDepth message.replySubject)
            (request.reply message.replySubject platform text true) ++
          if settings.emitEvents.truthy then
            ifWritten request.eventDepth (request.event spec (spec.roll draw source).1 now)
          else [] := by
  have fits := Request.spellable_of_holds holds
  have told := Request.call_eventDelivery fits (inRange_of_parse parsed) reported now
  rw [Message.plan_of_holds holds]
  refine ⟨(Request.plan_of_reported parsed reported).1, ?_⟩
  rw [Plan.calls, (Request.plan_of_reported parsed reported).2.1, Request.deliveries,
    ← List.singleton_append, List.filterMap_append]
  congr 1
  · exact calls_of_delivery (Request.call_delivery fits configured _ _ _ _ now)
  · split
    · exact calls_of_delivery told
    · rfl

end Plans

end Messages

end ChatDice.Plugin
