import ChatDice.Proofs.Drawing
import ChatDice.Proofs.Events

/-!
Whom replies and events are addressed to. The channel, the user, the wish for privacy and the reply
subject of a message decide where its reply goes and what is repeated of them; what is rolled and
what is told of it is the same without them. What is told in private never goes to the chat.
-/

namespace ChatDice.Plugin

open Dice

variable {σ : Type} {settings : Settings} {draw : Draw σ} {source : σ}

/-- What an event tells of a roll. -/
def tellings (spec : Specification) (roll : Roll) : List (Text × Json) :=
  [("query", .str spec.query), ("dice_amount", .int spec.amount), ("dice_sides", .int spec.sides),
    ("modifier", .int spec.modifier), ("outcomes", .arr (roll.outcomes.map .int)),
    ("total", .int roll.total)]

/-- The event that repeats a request, and when, before it tells of anything. -/
def Request.announce (request : Request) (now : Moment) (told : List (Text × Json)) : Bus.Call :=
  .publish eventSubject (Json.obj (("timestamp", .str (now.iso "T")) :: ("channel", request.channel) ::
    ("user", request.user) :: told)).render

theorem Request.event_eq (request : Request) (spec : Specification) (roll : Roll) (now : Moment) :
    request.event spec roll now = request.announce now (tellings spec roll) := rfl

/-- What a request comes to before anything is addressed: a failure, or what the sink is handed and
what events tell. -/
inductive Verdict
  | fails (error : Report.Error)
  | hands (content : Text) (success : Bool) (told : List (List (Text × Json)))

def Request.verdict (request : Request) (settings : Settings) (draw : Draw σ) (source : σ) : Verdict :=
  match parse request.dice with
  | .error failure => .hands failure.message false []
  | .ok spec =>
    let roll := (spec.roll draw source).1
    match request.report spec settings roll with
    | .error error => .fails error
    | .ok text => .hands text true (if settings.emitEvents.truthy then [tellings spec roll] else [])

/-- The requests ask for the same dice, shown in the same way. -/
structure Request.Alike (request other : Request) (settings : Settings) : Prop where
  dice : request.dice = other.dice
  groups : settings.forceGroups.truthy = true ∨ request.groups = other.groups

theorem Request.Alike.verdict_eq {request other : Request} (alike : request.Alike other settings)
    (draw : Draw σ) (source : σ) :
    request.verdict settings draw source = other.verdict settings draw source := by
  have shown : settings.showsGroups request.groups = settings.showsGroups other.groups := by
    rw [settings.showsGroups_eq, settings.showsGroups_eq]
    rcases alike.groups with forced | same
    · rw [forced, Bool.true_or, Bool.true_or]
    · rw [same]
  simp only [verdict, report, alike.dice, shown]

/-- The ending of a subject in the chat. -/
def chatEnding : Text := ".send.chat"

theorem not_chat_of_pm (platform : Text) :
    ¬ chatEnding <:+ Text.ofString "dicebot.platform." ++ platform ++ Text.ofString ".send.pm" := by
  intro ending
  have last := ending.getLast (by decide)
  rw [List.getLast_append_of_ne_nil _ (by decide)] at last
  exact absurd last (by decide)

theorem not_chat_of_event : ¬ chatEnding <:+ eventSubject := by decide

section Messages

variable [Json.Nesting]

/-- The delivery of such an event. -/
def Request.announcing (request : Request) (told : List (Text × Json)) : Delivery :=
  { call := fun now =>
      let payload := Json.obj (("timestamp", .str (now.iso "T")) :: ("channel", request.channel) ::
        ("user", request.user) :: told)
      match payload.write Json.Nesting.written with
      | .ok payload => .ok (.publish eventSubject payload)
      | .error obstacle => .error obstacle.message
    onFailure := fun reason => ⟨loggerName, .debug, "Could not publish roll event: " ++ reason⟩ }

theorem Request.eventDelivery_eq (request : Request) (spec : Specification) (roll : Roll) :
    eventDelivery request spec roll = request.announcing (tellings spec roll) := rfl

/-- A message with this request is handled with this verdict: what the sink is handed and what events
tell is attempted, and each attempt comes to its call unless it nests too deeply. -/
inductive Session.Serves (session : Session σ) (draw : Draw σ) (faults : Bus.Faults) (now : Moment)
    (message : Message) (request : Request) : Verdict → Prop
  | fails {error : Report.Error}
      (result : (session.step draw faults now (.handle message)).2.result =
        .error (.handler (.report error)))
      (handed : (message.plan draw session.plugin.settings session.source).1.deliveries = [])
      (calls : (session.step draw faults now (.handle message)).2.trace.calls = []) :
      Serves session draw faults now message request (.fails error)
  | hands {content : Text} {success : Bool} {told : List (List (Text × Json))}
      (earned : request.Earns session.plugin.settings draw session.source content success)
      (once : told.length ≤ 1)
      (result : (session.step draw faults now (.handle message)).2.result = .ok .nothing)
      (handed : (message.plan draw session.plugin.settings session.source).1.deliveries =
        (request.sink session.plugin.settings message.replySubject).delivery Json.Nesting.written
          content (.bool success) :: told.map request.announcing)
      (calls : (session.step draw faults now (.handle message)).2.trace.calls =
        request.replies session.plugin.settings message.replySubject content success ++
          told.flatMap fun told => ifWritten request.eventDepth (request.announce now told)) :
      Serves session draw faults now message request (.hands content success told)

/-- A message is handled with the verdict on its request. -/
theorem Session.serves (session : Session σ) (draw : Draw σ) (faults : Bus.Faults) (now : Moment)
    {message : Message} {members : List (Text × Json)} (holds : message.Holds members) :
    let request := Request.ofMembers members
    session.Serves draw faults now message request
      (request.verdict session.plugin.settings draw session.source) := by
  intro request
  have fits : request.Spellable := Request.spellable_of_holds holds
  cases parsed : parse request.dice with
  | error failure =>
    obtain ⟨-, result, deliveries, calls⟩ := session.handle_of_request draw faults now holds
      (Request.plan_of_unparsed parsed)
    rw [Request.calls_of_reply fits] at calls
    simp only [Request.verdict, parsed]
    refine .hands (.failure parsed) (Nat.zero_le 1) result deliveries ?_
    rw [calls, List.flatMap_nil, List.append_nil]
  | ok spec =>
    cases reported : request.report spec session.plugin.settings (spec.roll draw session.source).1 with
    | error error =>
      obtain ⟨-, result, deliveries, calls⟩ := session.handle_of_request draw faults now holds
        (Request.plan_of_unreported parsed reported)
      simp only [Request.verdict, parsed, reported]
      exact .fails result deliveries calls
    | ok text =>
      obtain ⟨-, result, deliveries, calls⟩ := session.handle_of_request draw faults now holds
        (Request.plan_of_reported parsed reported)
      rw [Request.calls_of_deliveries fits parsed reported] at calls
      simp only [Request.verdict, parsed, reported]
      refine .hands (.report parsed reported) ?_ result (deliveries.trans ?_) (calls.trans ?_)
      · split
        · exact Nat.le_refl 1
        · exact Nat.zero_le 1
      · rw [Request.deliveries]
        split <;> rfl
      · split
        · rw [List.flatMap_singleton, ← Request.event_eq]
        · rfl

/-- The reply to a private request. -/
theorem Request.replies_of_private {request : Request} (asked : request.isPrivate = true)
    (settings : Settings) (replySubject : Option Text) (content : Text) (success : Bool) :
    request.replies settings replySubject content success =
      if asksAnswer replySubject then
        ifWritten (max request.channel.depth request.user.depth + 1)
          (.respond (Json.obj [("success", .bool success), ("private", .bool true),
            ("channel", request.channel), ("user", request.user),
            (if success then "message" else "error", .str content)]).render)
      else match settings.platform.text with
        | .ok platform => ifWritten (request.user.depth + 1)
          (.publish ("dicebot.platform." ++ platform ++ ".send.pm")
            (Json.obj [("user", request.user), ("message", .str content)]).render)
        | .error _ => [] := by
  unfold replies replyDepth reply
  by_cases answered : asksAnswer replySubject = true
  · simp only [answered, if_true, asked]
  · simp only [answered, asked, if_true]
    rfl

/-- Nothing that comes of a private request is published in the chat. -/
theorem Request.not_chat_of_private {request : Request} (asked : request.isPrivate = true)
    {replySubject : Option Text} {content : Text} {success : Bool} {now : Moment}
    {told : List (List (Text × Json))} {subject payload : Text}
    (made : .publish subject payload ∈ request.replies settings replySubject content success ++
      told.flatMap fun told => ifWritten request.eventDepth (request.announce now told)) :
    ¬ chatEnding <:+ subject := by
  rcases List.mem_append.mp made with reply | event
  · rw [replies_of_private asked] at reply
    split at reply
    · cases eq_of_mem_ifWritten reply
    · split at reply
      · cases eq_of_mem_ifWritten reply
        exact not_chat_of_pm _
      · cases reply
  · obtain ⟨rest, -, event⟩ := List.mem_flatMap.mp event
    cases eq_of_mem_ifWritten event
    exact not_chat_of_event

/-- Handling two messages that ask for the same roll leaves the same session and comes to the same
verdict, whoever they come from and however they are to be answered: the sink is handed the same, and
an event is attempted for both or for neither. What comes of a private message is no call on the
chat: its reply, if the platform has a text and the reply does not nest too deeply, is an answer that
says it is private, or goes to the user. No attempt is lost without a word in the log. -/
theorem impartial_and_discreet (session : Session σ) (draw : Draw σ) :
    let settings := session.plugin.settings
    (∀ {first second : Message} {members others : List (Text × Json)}, first.Holds members →
      second.Holds others → (Request.ofMembers members).Alike (Request.ofMembers others) settings →
      ∀ faults otherFaults now later,
        (session.step draw faults now (.handle first)).1 =
            (session.step draw otherFaults later (.handle second)).1 ∧
          ∃ verdict, session.Serves draw faults now first (Request.ofMembers members) verdict ∧
            session.Serves draw otherFaults later second (Request.ofMembers others) verdict) ∧
    (∀ {message : Message} {members : List (Text × Json)}, message.Holds members →
      ((Json.find? members "private").getD (.bool false)).truthy = true → ∀ faults now,
        let request := Request.ofMembers members
        let calls := (session.step draw faults now (.handle message)).2.trace.calls
        (∀ subject payload : Text, .publish subject payload ∈ calls → ¬ chatEnding <:+ subject) ∧
          ∃ verdict, session.Serves draw faults now message request verdict ∧
            match verdict with
            | .fails _ => calls = []
            | .hands content success told => calls =
              (if asksAnswer message.replySubject then
                ifWritten (max request.channel.depth request.user.depth + 1)
                  (.respond (Json.obj [("success", .bool success), ("private", .bool true),
                    ("channel", request.channel), ("user", request.user),
                    (if success then "message" else "error", .str content)]).render)
              else match settings.platform.text with
                | .ok platform => ifWritten (request.user.depth + 1)
                  (.publish ("dicebot.platform." ++ platform ++ ".send.pm")
                    (Json.obj [("user", request.user), ("message", .str content)]).render)
                | .error _ => []) ++
              told.flatMap fun told => ifWritten request.eventDepth (request.announce now told)) ∧
    (∀ message faults now, let trace := (session.step draw faults now (.handle message)).2.trace
      ∀ attempt ∈ (message.plan draw settings session.source).1.deliveries,
        (∃ call ∈ trace.calls, attempt.call now = .ok call) ∨
          ∃ reason, attempt.call now = .error reason ∧ attempt.onFailure reason ∈ trace.records) := by
  intro settings
  refine ⟨?impartial, ?discreet, ?logged⟩
  case impartial =>
    intro first second members others holds again alike faults otherFaults now later
    refine ⟨?_, (Request.ofMembers members).verdict settings draw session.source,
      session.serves draw faults now holds, ?_⟩
    · have left (message : Message) (faults : Bus.Faults) (now : Moment) :
          (session.step draw faults now (.handle message)).1 =
            { session with source := (message.plan draw settings session.source).2 } := rfl
      rw [left, left, Message.plan_of_holds holds, Message.plan_of_holds again, Request.source_plan,
        Request.source_plan, alike.dice]
    · rw [alike.verdict_eq]
      exact session.serves draw otherFaults later again
  case discreet =>
    intro message members holds asked faults now request calls
    obtain ⟨verdict, served⟩ : ∃ verdict, session.Serves draw faults now message request verdict :=
      ⟨_, session.serves draw faults now holds⟩
    refine ⟨?_, verdict, served, ?_⟩
    · intro subject payload made
      cases served with
      | fails result handed attempted =>
        change calls = _ at attempted
        rw [attempted] at made
        cases made
      | hands earned once result handed attempted =>
        change calls = _ at attempted
        rw [attempted] at made
        exact Request.not_chat_of_private asked made
    · cases served with
      | fails result handed attempted => exact attempted
      | hands earned once result handed attempted =>
        rw [Request.replies_of_private asked] at attempted
        exact attempted
  case logged =>
    intro message faults now trace attempt planned
    have attempted := session.handle_calls draw faults now message
    change trace.calls = _ at attempted
    rw [attempted]
    exact Plan.made_or_logged planned faults now 0

end Messages

/-- Two dice, asked for in private by one message and in a channel by another. -/
theorem impartial_and_discreet_two_dice :
    let session := Session.start ⟨.str "cytube", .bool true, .bool true⟩ ()
    let now : Moment := ⟨⟨2024, 1, 1⟩, 0, 0, 0, 0, none⟩
    let whispered : Message := ⟨Utf8.encode
      "\x7b\"dice\": \"2d6\", \"private\": 1, \"user\": \"ann\"\x7d", none⟩
    let spoken : Message := ⟨Utf8.encode
      "\x7b\"args\": \"2d6\", \"groups\": true, \"channel\": [7]\x7d", some "inbox"⟩
    (session.step Draw.lowest .none now (.handle whispered)).1 =
        (session.step Draw.lowest .none now (.handle spoken)).1 ∧
      (session.step Draw.lowest .none now (.handle whispered)).2.result = .ok .nothing ∧
      ∀ subject payload : Text,
        .publish subject payload ∈
            (session.step Draw.lowest .none now (.handle whispered)).2.trace.calls →
          ¬ chatEnding <:+ subject := by
  intro session now whispered spoken
  have holds : whispered.Holds [("dice", .str "2d6"), ("private", .int 1), ("user", .str "ann")] :=
    ⟨"\x7b\"dice\": \"2d6\", \"private\": 1, \"user\": \"ann\"\x7d", by decide +kernel, by cbv⟩
  have again : spoken.Holds [("args", .str "2d6"), ("groups", .bool true), ("channel", .arr [.int 7])] :=
    ⟨"\x7b\"args\": \"2d6\", \"groups\": true, \"channel\": [7]\x7d", by decide +kernel, by cbv⟩
  have both := impartial_and_discreet session Draw.lowest
  have alike : (Request.ofMembers [("dice", .str "2d6"), ("private", .int 1), ("user", .str "ann")]).Alike
      (Request.ofMembers [("args", .str "2d6"), ("groups", .bool true), ("channel", .arr [.int 7])])
      session.plugin.settings := ⟨by decide +kernel, .inl rfl⟩
  have left := (both.1 holds again alike .none .none now now).1
  have asked : ((Json.find? [("dice", .str "2d6"), ("private", .int 1), ("user", .str "ann")]
    "private").getD (.bool false)).truthy = true := by decide +kernel
  have discreet := (both.2.1 holds asked .none now).1
  exact ⟨left, by decide +kernel, discreet⟩

/-- A value in so many arrays. -/
def nested : (levels : Nat) → Json
  | 0 => .null
  | levels + 1 => .arr [nested levels]

theorem depth_nested (levels : Nat) : (nested levels).depth = levels := by
  induction levels with
  | zero => rfl
  | succ levels ih => simp [nested, Json.depth, Json.depthOfItems, ih]

theorem floatless_nested (levels : Nat) : (nested levels).floatless = true := by
  induction levels with
  | zero => rfl
  | succ levels ih => simp [nested, Json.floatless, Json.floatlessItems, ih]

theorem legible_nested (levels more : Nat) :
    Json.Legible Text.Unpaired (levels + more) (nested levels) := by
  induction levels with
  | zero => exact .null
  | succ levels ih =>
    rw [Nat.add_right_comm]
    exact .arr (List.forall_mem_singleton.mpr ih)

/-- One die, asked for from a channel in so many arrays. -/
def nestedRequest (levels : Nat) : List (Text × Json) :=
  [("channel", nested levels), ("dice", .str "1d6")]

def nestedMessage (levels : Nat) : Message :=
  ⟨Utf8.encode (Json.obj (nestedRequest levels)).render, none⟩

theorem holds_nestedMessage [Json.Nesting] {levels : Nat} (shallow : levels ≤ Json.Nesting.written + 1) :
    (nestedMessage levels).Holds (nestedRequest levels) := by
  have channel := legible_nested levels (Json.Nesting.written + 1 - levels)
  rw [Nat.add_sub_cancel' shallow] at channel
  have inside : ∀ member ∈ nestedRequest levels,
      Json.Legible Text.Unpaired (Json.Nesting.written + 1) member.2 := by
    simp only [nestedRequest, List.forall_mem_cons]
    exact ⟨channel, .str (Text.surrogateFree_of_all (by decide)).unpaired, by simp⟩
  have legible := Json.legible_payload ["channel", "dice"] rfl (by decide) (by decide) inside
  have holds := Message.holds_render legible none
  rwa [Json.rereadMembers_of_floatless] at holds
  simp [nestedRequest, Json.floatlessMembers, Json.floatless, floatless_nested]

/-- A die, and what is shown of it where groups are forced. -/
private def oneDie : Specification := ⟨"1d6", 1, 6, 0⟩

private def oneDieText : Text := "You rolled **1d6** (max is 6, min is 1, avg is 3.5):\n"
  ++ "- Results: **1**\n- Total: **1**\n- Groups:\n"

private theorem parse_oneDie : parse "1d6" = .ok oneDie := by decide +kernel

private theorem report_oneDie (request : Request) {settings : Settings}
    (forced : settings.forceGroups = .bool true) :
    request.report oneDie settings (oneDie.roll Draw.lowest ()).1 = .ok oneDieText := by
  have shown : settings.showsGroups request.groups = true := by
    rw [settings.showsGroups_eq, forced]
    rfl
  have rendered : Report.render "1d6" ⟨1, 6, 0, [1], 1⟩ (Grouping.ofOutcomes [1]) true =
      .ok oneDieText := by decide +kernel
  rw [Request.report, shown]
  exact rendered

/-- The reply nests in one level more than the channel, and so does the event. -/
private theorem calls_of_nestedMessage [Json.Nesting] (session : Session Unit) (now : Moment)
    {platform : Text}
    (settings : session.plugin.settings = ⟨.str platform, .bool true, .bool true⟩) {levels : Nat}
    (shallow : levels ≤ Json.Nesting.written + 1) :
    let request := Request.ofMembers (nestedRequest levels)
    (session.step Draw.lowest .none now (.handle (nestedMessage levels))).2.trace.calls =
      ifWritten (levels + 1) (request.reply none platform oneDieText true) ++
        ifWritten (max levels 1 + 1) (request.event oneDie (oneDie.roll Draw.lowest ()).1 now) := by
  intro request
  have replied : request.replyDepth none = levels + 1 := congrArg (· + 1) (depth_nested levels)
  have told : request.eventDepth = max levels 1 + 1 := by
    have deepest : max request.channel.depth request.user.depth = levels := by
      rw [show request.channel = nested levels from rfl, depth_nested]
      exact Nat.max_zero levels
    rw [Request.eventDepth, deepest]
  have reported := report_oneDie request (congrArg Settings.forceGroups settings)
  obtain ⟨-, planned⟩ := Message.plan_of_report (holds_nestedMessage shallow) parse_oneDie reported
    (congrArg Settings.platform settings) now
  rw [session.handle_calls, planned, settings, ← replied, ← told]
  rfl

/-- Without an answer to be given, a platform without a text can be told nothing. -/
private theorem calls_of_unspelled [Json.Nesting] (session : Session Unit) (now : Moment)
    {platform : Datum} (settings : session.plugin.settings = ⟨platform, .bool false, .bool true⟩)
    {excess : Numeral.Excess} (unspelled : platform.text = .error excess) {message : Message}
    (unasked : message.replySubject = none) {members : List (Text × Json)}
    (holds : message.Holds members) (dice : (Request.ofMembers members).dice = "1d6") :
    (session.step Draw.lowest .none now (.handle message)).2.trace.calls = [] := by
  have parsed : parse (Request.ofMembers members).dice = .ok oneDie := by
    rw [dice]
    exact parse_oneDie
  have reported := report_oneDie (Request.ofMembers members) (congrArg Settings.forceGroups settings)
  obtain ⟨-, -, -, sent⟩ := session.handle_of_request Draw.lowest .none now holds
    (Request.plan_of_reported parsed reported)
  rw [sent, Request.calls_of_deliveries (Request.spellable_of_holds holds) parsed reported, settings,
    unasked, Request.replies]
  simp only [unspelled]
  rfl

private theorem text_int_of_large {n : Int} (large : 10 ^ Numeral.digitLimit ≤ n.natAbs) :
    (Datum.int n).text = .error .written := Numeral.write_of_le large

/-- From a channel that can be read, but not be written again, no event is told of the roll; and no
reply to a private message is made on a platform that has no text. -/
theorem not_told_nested_channel :
    let now : Moment := ⟨⟨2024, 1, 1⟩, 0, 0, 0, 0, none⟩
    let session := Session.start ⟨.str "cytube", .bool true, .bool true⟩ ()
    let calls (levels : Nat) :=
      (session.step Draw.lowest .none now (.handle (nestedMessage levels))).2.trace.calls
    let unnamed := Session.start ⟨.int (10 ^ Numeral.digitLimit), .bool false, .bool true⟩ ()
    let whispered : Message := ⟨Utf8.encode "\x7b\"dice\": \"1d6\", \"private\": true\x7d", none⟩
    ((nestedMessage 0).Holds (nestedRequest 0) ∧ (nestedMessage 983).Holds (nestedRequest 983) ∧
      (calls 0).countP isEvent = 1 ∧ calls 983 = []) ∧
    (whispered.Holds [("dice", .str "1d6"), ("private", .bool true)] ∧
      (unnamed.step Draw.lowest .none now (.handle whispered)).2.trace.calls = []) := by
  intro now session calls unnamed whispered
  refine ⟨⟨holds_nestedMessage (by decide), holds_nestedMessage (by decide), ?_, ?_⟩, ?_⟩
  · dsimp only [calls]
    rw [calls_of_nestedMessage session now rfl (Nat.zero_le _), ifWritten_of_le (by decide),
      ifWritten_of_le (by decide)]
    simp [isEvent_reply, isEvent_event]
  · dsimp only [calls]
    rw [calls_of_nestedMessage session now rfl (by decide), ifWritten_of_lt (by decide),
      ifWritten_of_lt (by decide)]
    rfl
  · have held : whispered.Holds [("dice", .str "1d6"), ("private", .bool true)] :=
      ⟨"\x7b\"dice\": \"1d6\", \"private\": true\x7d", by decide +kernel, by cbv⟩
    have large : 10 ^ Numeral.digitLimit ≤ ((10 : Int) ^ Numeral.digitLimit).natAbs := by
      have ten : (10 : Int).natAbs = 10 := rfl
      rw [Int.natAbs_pow, ten]
    exact ⟨held, calls_of_unspelled unnamed now rfl (text_int_of_large large) rfl held rfl⟩

end ChatDice.Plugin
