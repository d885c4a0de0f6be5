import ChatDice.Proofs.Payloads

/-!
Events and the replies before them. What an event says when it is read again is enough to make the
report that was sent just before it.
-/

namespace ChatDice

theorem Json.floatlessItems_map_int (l : List Int) :
    Json.floatlessItems (l.map Json.int) = true := by
  induction l with
  | nil => rfl
  | cons n rest ih => exact ih

namespace Plugin

open Dice

/-- What an event holds when it is read again. -/
def Request.told (request : Request) (spec : Specification) (roll : Roll) (now : Moment) :
    List (Text × Json) :=
  [("timestamp", .str (now.iso "T")), ("channel", request.channel.reread),
    ("user", request.user.reread), ("query", .str spec.query), ("dice_amount", .int spec.amount),
    ("dice_sides", .int spec.sides), ("modifier", .int spec.modifier),
    ("outcomes", .arr (roll.outcomes.map .int)), ("total", .int roll.total)]

theorem Settings.showsGroups_eq (settings : Settings) (asked : Bool) :
    settings.showsGroups asked = (settings.forceGroups.truthy || asked) := by
  unfold showsGroups
  cases settings.forceGroups.truthy <;> rfl

/-- Whatever the platform is, no reply is an event. -/
theorem ReplySink.isEvent_of_call {sink : ReplySink} {levels : Nat} {content : Text}
    {success : Json} {now : Moment} {call : Bus.Call}
    (made : (sink.delivery levels content success).call now = .ok call) :
    isEvent call = false := by
  rcases ReplySink.call_cases made with ⟨-, rfl⟩ | ⟨-, named, spelled, rfl⟩
  · rfl
  · rw [subject] at spelled
    cases shown : sink.platform.text with
    | error excess =>
      rw [shown] at spelled
      cases spelled
    | ok platform =>
      rw [shown] at spelled
      cases spelled
      simp [isEvent, platform_ne_eventSubject]

section Messages

variable [Json.Nesting]

theorem Request.Legible.eventPayload {request : Request} (legible : request.Legible)
    {spec : Specification} (parsed : parse request.dice = .ok spec) {roll : Roll} {text : Text}
    {grouping : Grouping} {showGroups : Bool}
    (rendered : Report.render spec.query roll grouping showGroups = .ok text) (now : Moment) :
    Json.Legible Text.Unpaired Json.Nesting.read (eventPayload request spec roll now) := by
  obtain ⟨faces, total⟩ := Report.lt_of_render rendered
  have inRange := inRange_of_parse parsed
  have timestamp : (now.iso "T").Visible := Moment.visible_iso (Text.visible_of_all (by decide)) now
  have query : spec.query.Unpaired := by
    rw [query_of_parse parsed]
    exact legible.dice
  have outcomes : Json.Legible Text.Unpaired (Json.Nesting.written + 1)
      (.arr (roll.outcomes.map .int)) := by
    refine .arr fun item member => ?_
    obtain ⟨face, shown, rfl⟩ := List.mem_map.mp member
    exact .int (faces face shown)
  refine Json.legible_payload ["timestamp", "channel", "user", "query", "dice_amount", "dice_sides",
    "modifier", "outcomes", "total"] rfl (by decide) (by decide) ?_
  simp only [List.forall_mem_cons]
  exact ⟨.str timestamp.surrogateFree.unpaired, legible.channel, legible.user, .str query,
    .int inRange.amount, .int inRange.sides, .int inRange.modifier, outcomes, .int total, by simp⟩

theorem Request.holds_event {request : Request} (legible : request.Legible)
    {spec : Specification} (parsed : parse request.dice = .ok spec) {roll : Roll} {text : Text}
    {grouping : Grouping} {showGroups : Bool}
    (rendered : Report.render spec.query roll grouping showGroups = .ok text) (now : Moment) :
    Message.Holds ⟨Utf8.encode (eventPayload request spec roll now).render, none⟩
      (request.told spec roll now) := by
  have holds := Message.holds_render (legible.eventPayload parsed rendered now) none
  have outcomes : (Json.arr (roll.outcomes.map .int)).reread = .arr (roll.outcomes.map .int) :=
    Json.reread_of_floatless _ (Json.floatlessItems_map_int roll.outcomes)
  simp only [Json.rereadMembers, outcomes] at holds
  exact holds

variable {σ : Type} {settings : Settings} {draw : Draw σ} {source : σ}

/-- An event among the calls for a request comes with the report of the same roll. -/
theorem Request.report_of_event {request : Request} {replySubject : Option Text} {now : Moment}
    {call : Bus.Call} (made : call ∈ (request.plan draw settings replySubject source).1.calls now)
    (told : isEvent call = true) :
    ∃ spec text, parse request.dice = .ok spec ∧
      request.report spec settings (spec.roll draw source).1 = .ok text ∧
      (request.plan draw settings replySubject source).1.deliveries =
        [(request.sink settings replySubject).delivery Json.Nesting.written text (.bool true),
          eventDelivery request spec (spec.roll draw source).1] ∧
      (eventDelivery request spec (spec.roll draw source).1).call now = .ok call := by
  have noReply {sink : ReplySink} {levels : Nat} {content : Text} {success : Json} :
      (sink.delivery levels content success).call now ≠ .ok call := by
    intro made
    rw [ReplySink.isEvent_of_call made] at told
    cases told
  obtain ⟨delivery, planned, made⟩ := Plan.mem_calls.mp made
  cases parsed : parse request.dice with
  | error failure =>
    simp only [Request.plan, parsed, List.mem_singleton] at planned
    rw [planned] at made
    exact absurd made noReply
  | ok spec =>
    cases reported : request.report spec settings (spec.roll draw source).1 with
    | error error =>
      rw [Request.report] at reported
      simp [Request.plan, parsed, reported] at planned
    | ok text =>
      have deliveries : (request.plan draw settings replySubject source).1.deliveries =
          (request.sink settings replySubject).delivery Json.Nesting.written text (.bool true) ::
            if settings.emitEvents.truthy then [eventDelivery request spec (spec.roll draw source).1]
            else [] := by
        rw [Request.report] at reported
        simp only [Request.plan, parsed, reported]
      rw [deliveries] at planned ⊢
      rcases List.mem_cons.mp planned with rfl | event
      · exact absurd made noReply
      · split at event
        · rename_i wanted
          rw [List.mem_singleton.mp event] at made
          exact ⟨spec, text, rfl, reported, by rw [if_pos wanted], made⟩
        · cases event

/-- Only a message that holds a request leads to an event. -/
theorem Message.holds_of_event {message : Message} {now : Moment} {call : Bus.Call}
    (made : call ∈ (message.plan draw settings source).1.calls now) (told : isEvent call = true) :
    ∃ members, message.Holds members := by
  rcases message.kinds with holds | malformed | tooDeep
  · exact holds
  · rw [(Message.plan_of_malformed malformed now).2] at made
    split at made
    · rw [List.mem_singleton.mp made] at told
      cases told
    · cases made
  · rw [(Message.plan_of_tooDeep tooDeep now).2] at made
    cases made

/-- An event and the reply before it tell of one roll. What the event says when it is read again
gives a query that parses to just its amount, sides and modifier, as many outcomes as dice, and
their total; and the report made from these alone is what the reply carries. -/
theorem event_describes_reply (session : Session σ) (draw : Draw σ) (faults : Bus.Faults)
    (now : Moment) (message : Message) :
    let settings := session.plugin.settings
    let calls := (session.step draw faults now (.handle message)).2.trace.calls
    let deliveries := (message.plan draw settings session.source).1.deliveries
    ∀ call ∈ calls, isEvent call = true →
      ∃ members, message.Holds members ∧
        let request := Request.ofMembers members
        let groups := ((Json.find? members "groups").getD (.bool false)).truthy
        ∃ payload timestamp channel user query amount sides modifier outcomes total content told,
          call = .publish eventSubject payload ∧
          Message.Holds ⟨Utf8.encode payload, none⟩
            [("timestamp", timestamp), ("channel", channel), ("user", user), ("query", .str query),
              ("dice_amount", .int amount), ("dice_sides", .int sides), ("modifier", .int modifier),
              ("outcomes", .arr (outcomes.map .int)), ("total", .int total)] ∧
          parse query = .ok ⟨query, amount, sides, modifier⟩ ∧
          (outcomes.length : Int) = amount ∧
          total = outcomes.sum + modifier ∧
          Report.render query ⟨amount, sides, modifier, outcomes, total⟩
            (Grouping.ofOutcomes outcomes) (settings.forceGroups.truthy || groups) = .ok content ∧
          deliveries = [(request.sink settings message.replySubject).delivery
            Json.Nesting.written content (.bool true), told] ∧
          told.call now = .ok call ∧
          ∀ platform, settings.platform = .str platform →
            calls = [request.reply message.replySubject platform content true, call] := by
  intro settings calls deliveries call made told
  have attempted := session.handle_calls draw faults now message
  change calls = _ at attempted
  rw [attempted] at made
  obtain ⟨members, holds⟩ := Message.holds_of_event made told
  refine ⟨members, holds, ?_⟩
  intro request groups
  have legible : request.Legible := Request.legible_of_holds holds
  have fits : request.Spellable := Request.spellable_of_holds holds
  have planned : message.plan draw settings session.source =
      request.plan draw settings message.replySubject session.source := Message.plan_of_holds holds
  rw [planned] at made
  obtain ⟨spec, text, parsed, reported, sent, event⟩ := Request.report_of_event made told
  have inRange := inRange_of_parse parsed
  have again : parse spec.query = .ok spec := by
    rw [query_of_parse parsed]
    exact parsed
  have dice : ((spec.roll draw session.source).1.outcomes.length : Int) = spec.amount := by
    rw [spec.length_outcomes_roll, Int.toNat_of_nonneg inRange.amountNonneg]
  have rendered := reported
  rw [Request.report, settings.showsGroups_eq] at rendered
  have same := Request.call_eventDelivery fits inRange rendered now
  rw [event] at same
  split at same
  case isFalse => cases same
  rename_i shallow
  have replied := Nat.le_trans (request.replyDepth_le_eventDepth message.replySubject) shallow
  cases same
  refine ⟨_, _, _, _, _, _, _, _, _, _, text, _, rfl,
    Request.holds_event legible parsed rendered now, again, dice, rfl, rendered, ?_, event, ?_⟩
  · rw [← sent]
    exact congrArg (fun plan => plan.1.deliveries) planned
  · intro platform configured
    rw [attempted, planned, Plan.calls, sent]
    simp only [List.filterMap_cons, Request.call_delivery fits configured, if_pos replied, event,
      Except.toOption, List.filterMap_nil]

end Messages

/-- Two dice asked for with an unpaired surrogate behind the notation. -/
theorem event_describes_reply_surrogate :
    let message : Message := ⟨Utf8.encode "\x7b\"dice\": \"2d6+1 \\udc00\"\x7d", none⟩
    let session := Session.start ⟨.str "cytube", .bool true, .bool false⟩ ()
    let now : Moment := ⟨⟨2024, 1, 1⟩, 0, 0, 0, 0, none⟩
    let query : Text := Text.ofString "2d6+1 " ++ [0xDC00]
    let request := Request.ofMembers [("dice", .str query)]
    let event := request.event ⟨query, 2, 6, 1⟩ ⟨2, 6, 1, [1, 1], 3⟩ now
    let calls := (session.step Draw.lowest Bus.Faults.none now (.handle message)).2.trace.calls
    event ∈ calls ∧ isEvent event = true ∧
      ∃ payload query amount sides modifier outcomes total content,
        event = .publish eventSubject payload ∧
        parse query = .ok ⟨query, amount, sides, modifier⟩ ∧
        Report.render query ⟨amount, sides, modifier, outcomes, total⟩
          (Grouping.ofOutcomes outcomes) false = .ok content ∧
        calls = [request.reply none "cytube" content true, event] := by
  intro message session now query request event calls
  let text : Text := "You rolled **" ++ query ++ "** (max is 13, min is 3, avg is 8):\n"
    ++ "- Results: **1, 1**\n- Total: **3**\n"
  have holds : message.Holds [("dice", .str query)] :=
    ⟨"\x7b\"dice\": \"2d6+1 \\udc00\"\x7d", by decide +kernel, by cbv⟩
  let spec : Specification := ⟨query, 2, 6, 1⟩
  have parsed : parse request.dice = .ok spec := by decide +kernel
  have reported : request.report spec session.plugin.settings (spec.roll Draw.lowest ()).1 =
      .ok text := by decide +kernel
  have attempted := session.handle_calls Draw.lowest Bus.Faults.none now message
  rw [(Message.plan_of_report holds parsed reported rfl now).2] at attempted
  have made : event ∈ calls := List.mem_of_getElem? (congrArg (fun calls => calls[1]?) attempted)
  obtain ⟨members, held, payload, _, _, _, query, amount, sides, modifier, outcomes, total, content, _,
    published, -, again, -, -, rendered, -, -, alone⟩ :=
    event_describes_reply session Draw.lowest Bus.Faults.none now message event made (isEvent_event ..)
  cases held.unique holds
  exact ⟨made, isEvent_event .., payload, query, amount, sides, modifier, outcomes, total, content,
    published, again, rendered, alone "cytube" rfl⟩

end Plugin
end ChatDice
