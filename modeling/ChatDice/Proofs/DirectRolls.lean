import ChatDice.Proofs.Payloads

/-!
Rolling directly and rolling by a message. Both run through parsing, drawing and reporting on their
own; for the same dice and the same wish for groups they ask the source of randomness for the same
numbers, and end in the same text or in the same failure.
-/

namespace ChatDice

namespace Dice

variable {σ : Type}

/-- What a source is asked for in rolling a notation, the latest first: nothing unless it parses. -/
def drawsFor (query : Text) : List (Int × Int) :=
  match parse query with
  | .ok spec => List.replicate spec.amount.toNat (1, spec.sides)
  | .error _ => []

/-- Recording what a source is asked for changes none of its answers. -/
theorem outcomesOnto_recording (draw : Draw σ) (sides : Int) (done : List Int) (count : Nat)
    (source : σ) (asked : List (Int × Int)) :
    outcomesOnto draw.recording sides done count (source, asked) =
      let (outcomes, next) := outcomesOnto draw sides done count source
      (outcomes, next, List.replicate count (1, sides) ++ asked) := by
  induction count generalizing done source asked with
  | zero => rfl
  | succ count ih =>
    simp only [outcomesOnto, Draw.recording, ih]
    rw [List.replicate_succ', List.append_assoc]
    rfl

theorem Specification.roll_recording (spec : Specification) (draw : Draw σ) (source : σ)
    (asked : List (Int × Int)) :
    spec.roll draw.recording (source, asked) =
      let (roll, next) := spec.roll draw source
      (roll, next, List.replicate spec.amount.toNat (1, spec.sides) ++ asked) := by
  simp only [roll, outcomes, outcomesOnto_recording]

end Dice

namespace Plugin

open Dice

variable {σ : Type} {draw : Draw σ} {source : σ}

section Messages

variable [Json.Nesting]

/-- Rolling directly leaves the source where the plan for a request does. -/
theorem source_roll {plugin : Plugin} (active : plugin.active = true) (request : Request)
    (replySubject : Option Text) :
    (plugin.roll draw request.dice request.groups source).2 =
      (request.plan draw plugin.settings replySubject source).2 := by
  unfold roll Request.plan
  rw [if_pos active]
  cases parse request.dice with
  | error failure => rfl
  | ok spec =>
    dsimp only
    cases Report.render spec.query (spec.roll draw source).1
      (Grouping.ofOutcomes (spec.roll draw source).1.outcomes)
      (plugin.settings.showsGroups request.groups) <;> rfl

/-- Recording the draws of a plan changes nothing else. -/
theorem Request.plan_recording (request : Request) (settings : Settings) (replySubject : Option Text)
    (asked : List (Int × Int)) :
    request.plan draw.recording settings replySubject (source, asked) =
      let (plan, next) := request.plan draw settings replySubject source
      (plan, next, drawsFor request.dice ++ asked) := by
  unfold plan drawsFor
  cases parse request.dice with
  | error failure => rfl
  | ok spec =>
    simp only [Specification.roll_recording]
    cases Report.render spec.query (spec.roll draw source).1
      (Grouping.ofOutcomes (spec.roll draw source).1.outcomes)
      (settings.showsGroups request.groups) <;> rfl

/-- What a direct roll ends in is what the plan for a request ends in, and what its reply carries. -/
theorem Request.plan_of_roll {plugin : Plugin} (active : plugin.active = true) (draw : Draw σ)
    (source : σ) (request : Request) (replySubject : Option Text) :
    let rolled := (plugin.roll draw request.dice request.groups source).1
    let plan := (request.plan draw plugin.settings replySubject source).1
    (∃ error, rolled = .error (.report error) ∧ plan.error = some (.report error) ∧
      plan.deliveries = []) ∨
    (∃ text success, rolled = .ok text ∧ request.Earns plugin.settings draw source text success ∧
      plan.error = none ∧ plan.deliveries.head? =
        some ((request.sink plugin.settings replySubject).delivery Json.Nesting.written text
          (.bool success))) := by
  cases parsed : parse request.dice with
  | error failure =>
    right
    refine ⟨failure.message, false, ?_, .failure parsed, ?_⟩
    · simp only [roll, active, if_true, parsed]
    · simp [Request.plan, parsed]
  | ok spec =>
    cases reported : request.report spec plugin.settings (spec.roll draw source).1 with
    | error error =>
      left
      rw [Request.report] at reported
      refine ⟨error, ?_⟩
      simp [roll, active, Request.plan, parsed, reported]
    | ok text =>
      right
      refine ⟨text, true, ?_, .report parsed reported, ?_⟩
      · rw [Request.report] at reported
        simp only [roll, active, if_true, parsed, reported]
      · rw [Request.report] at reported
        simp [Request.plan, parsed, reported]

theorem Session.result_of_roll (session : Session σ) (faults : Bus.Faults) (now : Moment)
    {dice : Text} {grouped : Bool} {rolled : Except RollError Text}
    (ended : (session.plugin.roll draw dice grouped session.source).1 = rolled) :
    (session.step draw faults now (.roll dice grouped)).2.result =
      (rolled.mapError .roll).map .text := by
  subst ended
  rw [Session.step]
  obtain ⟨rolled, next⟩ := session.plugin.roll draw dice grouped session.source
  cases rolled <;> rfl

/-- Rolling directly agrees with handling a message that carries the same dice and the same wish
for groups. Both ask the source for the same numbers and leave it in the same state; and either both
end in the same failure of the report, or the text of the one is what the other's reply carries. -/
theorem direct_roll_agrees (session : Session σ) (active : session.plugin.active = true)
    (draw : Draw σ) (faults : Bus.Faults) (now : Moment) {message : Message}
    {members : List (Text × Json)} (holds : message.Holds members) {dice : Text} {grouped : Bool}
    (carried : ((Json.find? members "dice").orElse fun _ => Json.find? members "args") =
      some (.str dice))
    (wished : ((Json.find? members "groups").getD (.bool false)).truthy = grouped) :
    let request := Request.ofMembers members
    let settings := session.plugin.settings
    let deliveries := (message.plan draw settings session.source).1.deliveries
    let direct := session.step draw faults now (.roll dice grouped)
    let handled := session.step draw faults now (.handle message)
    let recorded : Session (σ × List (Int × Int)) :=
      ⟨session.plugin, (session.source, []), session.issued⟩
    direct.1.source = handled.1.source ∧
    (recorded.step draw.recording faults now (.roll dice grouped)).1.source =
      (direct.1.source, drawsFor dice) ∧
    (recorded.step draw.recording faults now (.handle message)).1.source =
      (handled.1.source, drawsFor dice) ∧
    ((∃ error, direct.2.result = .error (.roll (.report error)) ∧
        handled.2.result = .error (.handler (.report error)) ∧ deliveries = []) ∨
      (∃ text success, direct.2.result = .ok (.text text) ∧ handled.2.result = .ok .nothing ∧
        request.Earns settings draw session.source text success ∧
        deliveries.head? =
          some ((request.sink settings message.replySubject).delivery Json.Nesting.written text
            (.bool success)) ∧
        ∀ platform, settings.platform = .str platform →
          request.replyDepth message.replySubject ≤ Json.Nesting.written →
          handled.2.trace.calls.head? =
            some (request.reply message.replySubject platform text success))) := by
  intro request settings deliveries direct handled recorded
  have sameDice : request.dice = dice := by
    simp only [request, Request.ofMembers, carried]
  subst sameDice wished
  have planned : message.plan draw settings session.source =
    request.plan draw settings message.replySubject session.source := Message.plan_of_holds holds
  have plannedRecorded : message.plan draw.recording settings (session.source, []) =
      request.plan draw.recording settings message.replySubject (session.source, []) :=
    Message.plan_of_holds holds
  have source : direct.1.source = handled.1.source := by
    change (session.plugin.roll draw request.dice request.groups session.source).2 =
      (message.plan draw settings session.source).2
    rw [planned, source_roll active]
  have recordedHandled : (recorded.step draw.recording faults now (.handle message)).1.source =
      (handled.1.source, drawsFor request.dice) := by
    change (message.plan draw.recording settings (session.source, [])).2 =
      ((message.plan draw settings session.source).2, _)
    rw [plannedRecorded, planned, Request.plan_recording, List.append_nil]
  have recordedDirect : (recorded.step draw.recording faults now
      (.roll request.dice request.groups)).1.source = (direct.1.source, drawsFor request.dice) := by
    rw [source, ← recordedHandled]
    change (session.plugin.roll draw.recording request.dice request.groups (session.source, [])).2 =
      (message.plan draw.recording settings (session.source, [])).2
    rw [plannedRecorded, source_roll active]
  refine ⟨source, recordedDirect, recordedHandled, ?_⟩
  rcases Request.plan_of_roll active draw session.source request message.replySubject with
    ⟨error, rolled, ended, sent⟩ | ⟨text, success, rolled, earns, ended, sent⟩
  · rw [← planned] at ended sent
    have outcome := session.handle_of_plan draw faults now message ⟨ended, rfl⟩
    exact .inl ⟨error, session.result_of_roll faults now rolled, outcome.1, sent⟩
  · rw [← planned] at ended sent
    have outcome := session.handle_of_plan draw faults now message ⟨ended, rfl⟩
    refine .inr ⟨text, success, session.result_of_roll faults now rolled, outcome.1, earns, sent, ?_⟩
    intro platform configured shallow
    have made := Request.call_delivery (Request.spellable_of_holds holds) configured
      message.replySubject Json.Nesting.written text success now
    rw [if_pos shallow] at made
    rw [session.handle_calls draw faults now message]
    exact Plan.head?_calls sent made

end Messages

/-- Three dice from a source that repeats itself, with a wish for groups that is a number. -/
theorem direct_roll_agrees_three_dice :
    let message : Message := ⟨Utf8.encode "\x7b\"args\": \"3d4-1\", \"groups\": 1\x7d", none⟩
    let now : Moment := ⟨⟨2024, 1, 1⟩, 0, 0, 0, 0, none⟩
    let session := ((Session.start ⟨.str "cytube", .bool true, .bool false⟩
      (Script.cycle [3, 1] 0)).step Script.draw Bus.Faults.none now .activate).1
    let direct := session.step Script.draw Bus.Faults.none now (.roll "3d4-1" true)
    let handled := session.step Script.draw Bus.Faults.none now (.handle message)
    let request := Request.ofMembers [("args", .str "3d4-1"), ("groups", .int 1)]
    direct.1.source = handled.1.source ∧
      ∃ text, direct.2.result = .ok (.text text) ∧
        handled.2.trace.calls.head? = some (request.reply none "cytube" text true) := by
  intro message now session
  have holds : message.Holds [("args", .str "3d4-1"), ("groups", .int 1)] :=
    ⟨"\x7b\"args\": \"3d4-1\", \"groups\": 1\x7d", by decide +kernel, by cbv⟩
  have wished : ((Json.find? [("args", .str "3d4-1"), ("groups", .int 1)] "groups").getD
    (.bool false)).truthy = true := rfl
  have parsed : parse (Request.ofMembers [("args", .str "3d4-1"), ("groups", .int 1)]).dice =
    .ok ⟨"3d4-1", 3, 4, -1⟩ := by decide +kernel
  have answered : (session.step Script.draw Bus.Faults.none now
    (.roll "3d4-1" true)).2.result.isOk = true := by decide +kernel
  obtain ⟨same, -, -, ⟨error, failed, -⟩ | ⟨text, success, said, -, earns, -, replied⟩⟩ :=
    direct_roll_agrees session rfl Script.draw Bus.Faults.none now holds rfl wished
  · rw [failed] at answered
    cases answered
  · refine ⟨same, text, said, ?_⟩
    cases earns with
    | failure failed => cases failed.symm.trans parsed
    | report => exact replied "cytube" rfl (by decide)

end Plugin

end ChatDice
