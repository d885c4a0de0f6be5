import ChatDice.Proofs.Plans
import ChatDice.Proofs.Subscriptions

/-!
What a session asks of its source. A step that rolls asks for its dice and nothing else, whatever
becomes of the roll; every other step asks for nothing. So a message that rolls nothing leaves no
mark on the session, and can be taken out of a run.
-/

namespace ChatDice

namespace Plugin

open Dice

variable {σ : Type} {draw : Draw σ}

theorem drawsFor_of_parse {dice : Text} {spec : Specification} (parsed : parse dice = .ok spec) :
    drawsFor dice = List.replicate spec.amount.toNat (1, spec.sides) := by
  simp only [drawsFor, parsed]

theorem drawsFor_of_failure {dice : Text} {failure : Failure} (failed : parse dice = .error failure) :
    drawsFor dice = [] := by
  simp only [drawsFor, failed]

section Runs

variable [Json.Nesting]

/-- What a step asks the source for. -/
def requests (plugin : Plugin) : Step → List (Int × Int)
  | .handle message =>
    match message.members with
    | .ok members => drawsFor (Request.ofMembers members).dice
    | .error _ => []
  | .roll dice _ => if plugin.active then drawsFor dice else []
  | _ => []

/-- The step rolls dice of this specification. -/
inductive Step.Rolls (plugin : Plugin) : Step → Specification → Prop
  | handle {message : Message} {members : List (Text × Json)} {spec : Specification}
      (holds : message.Holds members) (parsed : parse (Request.ofMembers members).dice = .ok spec) :
      Rolls plugin (.handle message) spec
  | roll {dice : Text} {spec : Specification} (grouped : Bool) (active : plugin.active = true)
      (parsed : parse dice = .ok spec) : Rolls plugin (.roll dice grouped) spec

theorem Step.Rolls.requests_eq {plugin : Plugin} {step : Step} {spec : Specification}
    (rolls : step.Rolls plugin spec) :
    plugin.requests step = List.replicate spec.amount.toNat (1, spec.sides) := by
  cases rolls with
  | handle holds parsed =>
    simp only [requests, Message.members_of_holds holds, drawsFor_of_parse parsed]
  | roll grouped active parsed => simp only [requests, active, if_true, drawsFor_of_parse parsed]

theorem Step.Rolls.inRange {plugin : Plugin} {step : Step} {spec : Specification}
    (rolls : step.Rolls plugin spec) : spec.InRange := by
  cases rolls with
  | handle holds parsed => exact inRange_of_parse parsed
  | roll grouped active parsed => exact inRange_of_parse parsed

/-- What a step asks for is what its dice are, if it rolls any. -/
theorem requests_eq_nil {plugin : Plugin} {step : Step} (idle : ∀ spec, ¬ step.Rolls plugin spec) :
    plugin.requests step = [] := by
  cases step with
  | handle message =>
    rcases message.kinds with ⟨members, holds⟩ | malformed | tooDeep
    · cases parsed : parse (Request.ofMembers members).dice with
      | ok spec => exact absurd (.handle holds parsed) (idle spec)
      | error failure =>
        simp only [requests, Message.members_of_holds holds, drawsFor_of_failure parsed]
    · obtain ⟨reason, rejected, -⟩ := Message.members_of_malformed malformed
      simp only [requests, rejected]
    · simp only [requests, Message.members_of_tooDeep tooDeep]
  | roll dice grouped =>
    cases active : plugin.active with
    | false => simp [requests, active]
    | true =>
      cases parsed : parse dice with
      | ok spec => exact absurd (.roll grouped active parsed) (idle spec)
      | error failure => simp only [requests, active, if_true, drawsFor_of_failure parsed]
  | _ => rfl

theorem Request.source_plan (request : Request) (settings : Settings) (replySubject : Option Text)
    (source : σ) :
    (request.plan draw settings replySubject source).2 =
      (draw.answers (drawsFor request.dice) source).2 := by
  unfold Request.plan
  cases parsed : parse request.dice with
  | error failure => simp only [drawsFor_of_failure parsed, Draw.answers]
  | ok spec =>
    simp only [drawsFor_of_parse parsed, spec.roll_eq]
    split <;> rfl

namespace Session

/-- The source answers what a step asks it for, and nothing else. -/
theorem source_step (session : Session σ) (draw : Draw σ) (faults : Bus.Faults) (now : Moment)
    (step : Step) :
    (session.step draw faults now step).1.source =
      (draw.answers (session.plugin.requests step) session.source).2 := by
  cases step with
  | activate =>
    simp only [Session.step]
    split <;> rfl
  | shutdown => rfl
  | handle message =>
    change (message.plan draw session.plugin.settings session.source).2 = _
    rcases message.kinds with ⟨members, holds⟩ | malformed | tooDeep
    · rw [Message.plan_of_holds holds, Request.source_plan]
      simp only [requests, Message.members_of_holds holds]
    · obtain ⟨reason, rejected, notDeep⟩ := Message.members_of_malformed malformed
      simp only [Message.plan, requests, rejected]
      cases reason <;> rfl
    · simp only [Message.plan, requests, Message.members_of_tooDeep tooDeep]
      rfl
  | roll dice grouped =>
    change (session.plugin.roll draw dice grouped session.source).2 = _
    cases active : session.plugin.active with
    | false =>
      rw [roll_of_inactive active]
      simp [requests, active, Draw.answers]
    | true =>
      let request : Request := ⟨.null, .null, dice, grouped, false⟩
      have same : (session.plugin.roll draw dice grouped session.source).2 =
          (request.plan draw session.plugin.settings none session.source).2 :=
        source_roll active request none
      rw [same, Request.source_plan]
      simp only [requests, active, if_true, request]
  | send sink content success => rfl

end Session

theorem Message.plan_recording (message : Message) (plugin : Plugin) (source : σ)
    (asked : List (Int × Int)) :
    message.plan draw.recording plugin.settings (source, asked) =
      let (plan, next) := message.plan draw plugin.settings source
      (plan, next, plugin.requests (.handle message) ++ asked) := by
  rcases message.kinds with ⟨members, holds⟩ | malformed | tooDeep
  · rw [Message.plan_of_holds holds, Message.plan_of_holds holds, Request.plan_recording]
    simp only [requests, Message.members_of_holds holds]
  · obtain ⟨reason, rejected, notDeep⟩ := Message.members_of_malformed malformed
    simp only [Message.plan, requests, rejected]
    cases reason <;> rfl
  · simp only [Message.plan, requests, Message.members_of_tooDeep tooDeep]
    rfl

theorem roll_recording (plugin : Plugin) (dice : Text) (grouped : Bool) (source : σ)
    (asked : List (Int × Int)) :
    plugin.roll draw.recording dice grouped (source, asked) =
      let (rolled, next) := plugin.roll draw dice grouped source
      (rolled, next, plugin.requests (.roll dice grouped) ++ asked) := by
  cases active : plugin.active with
  | false => simp [roll_of_inactive active, requests, active]
  | true =>
    cases parsed : parse dice with
    | error failure => simp [roll, requests, active, parsed, drawsFor_of_failure parsed]
    | ok spec =>
      simp only [roll, requests, active, if_true, parsed, drawsFor_of_parse parsed,
        Specification.roll_recording]
      split <;> rfl

namespace Session

/-- The session without the record of what its source was asked for. -/
def unrecorded (session : Session (σ × List (Int × Int))) : Session σ :=
  ⟨session.plugin, session.source.1, session.issued⟩

/-- Recording what the source is asked for changes nothing else. -/
theorem step_recording (session : Session (σ × List (Int × Int))) (draw : Draw σ) (faults : Bus.Faults)
    (now : Moment) (step : Step) :
    let recorded := session.step draw.recording faults now step
    let plain := session.unrecorded.step draw faults now step
    recorded.1.unrecorded = plain.1 ∧ recorded.2 = plain.2 ∧
      recorded.1.source.2 = session.plugin.requests step ++ session.source.2 := by
  obtain ⟨plugin, ⟨source, asked⟩, issued⟩ := session
  cases step with
  | activate =>
    simp only [Session.step, unrecorded]
    split <;> exact ⟨rfl, rfl, rfl⟩
  | shutdown => exact ⟨rfl, rfl, rfl⟩
  | handle message => simp [Session.step, unrecorded, Message.plan_recording]
  | roll dice grouped => simp [Session.step, unrecorded, roll_recording]
  | send sink content success => exact ⟨rfl, rfl, rfl⟩

end Session

/-- A turn without the record of what the source was asked for. -/
def Taken.unrecorded (taken : Taken (σ × List (Int × Int))) : Taken σ :=
  ⟨taken.turn, taken.before.unrecorded, taken.after.unrecorded, taken.outcome⟩

namespace Session

theorem take_recording (session : Session (σ × List (Int × Int))) (draw : Draw σ) (turn : Turn) :
    (session.take draw.recording turn).unrecorded = session.unrecorded.take draw turn := by
  obtain ⟨after, outcome, -⟩ := session.step_recording draw turn.faults turn.now turn.step
  simp only [take, Taken.unrecorded, after, outcome]

theorem run_recording (session : Session (σ × List (Int × Int))) (draw : Draw σ) (turns : List Turn) :
    (session.run draw.recording turns).map Taken.unrecorded = session.unrecorded.run draw turns := by
  induction turns generalizing session with
  | nil => rfl
  | cons turn rest ih =>
    have first := session.take_recording draw turn
    have after := congrArg Taken.after first
    change (session.take draw.recording turn).after.unrecorded = _ at after
    rw [run, run, List.map_cons, ih, first, after]

end Session

/-- The reply, the event or the failure that a step ends in is that of this roll. -/
inductive Taken.Tells (taken : Taken σ) (spec : Specification) (roll : Roll) : Prop
  | fails {message : Message} {members : List (Text × Json)} {error : Report.Error}
      (step : taken.turn.step = .handle message) (holds : message.Holds members)
      (failed : (Request.ofMembers members).report spec taken.before.plugin.settings roll = .error error)
      (result : taken.outcome.result = .error (.handler (.report error)))
      (calls : taken.outcome.trace.calls = [])
  | replies {message : Message} {members : List (Text × Json)} {text : Text}
      (step : taken.turn.step = .handle message) (holds : message.Holds members)
      (reported : (Request.ofMembers members).report spec taken.before.plugin.settings roll = .ok text)
      (result : taken.outcome.result = .ok .nothing)
      (calls : taken.outcome.trace.calls = ((Request.ofMembers members).deliveries
        taken.before.plugin.settings message.replySubject spec roll text).filterMap
          fun delivery => (delivery.call taken.turn.now).toOption)
  | raises {dice : Text} {grouped : Bool} {error : Report.Error}
      (step : taken.turn.step = .roll dice grouped)
      (failed : Report.render spec.query roll (Grouping.ofOutcomes roll.outcomes)
        (taken.before.plugin.settings.showsGroups grouped) = .error error)
      (result : taken.outcome.result = .error (.roll (.report error)))
  | returns {dice : Text} {grouped : Bool} {text : Text} (step : taken.turn.step = .roll dice grouped)
      (reported : Report.render spec.query roll (Grouping.ofOutcomes roll.outcomes)
        (taken.before.plugin.settings.showsGroups grouped) = .ok text)
      (result : taken.outcome.result = .ok (.text text))

namespace Session

/-- A step that rolls tells of its roll, whether or not that has a report. -/
theorem tells_take (session : Session σ) (draw : Draw σ) (turn : Turn) {spec : Specification}
    (rolls : turn.step.Rolls session.plugin spec) :
    (session.take draw turn).Tells spec (spec.roll draw session.source).1 := by
  obtain ⟨step, now, faults⟩ := turn
  cases rolls with
  | @handle message members _ holds parsed =>
    cases reported : (Request.ofMembers members).report spec session.plugin.settings
        (spec.roll draw session.source).1 with
    | error error =>
      obtain ⟨-, result, -, calls⟩ := session.handle_of_request draw faults now holds
        (Request.plan_of_unreported parsed reported)
      exact .fails rfl holds reported result calls
    | ok text =>
      obtain ⟨-, result, -, calls⟩ := session.handle_of_request draw faults now holds
        (Request.plan_of_reported parsed reported)
      exact .replies rfl holds reported result calls
  | @roll dice _ grouped active parsed =>
    cases reported : Report.render spec.query (spec.roll draw session.source).1
        (Grouping.ofOutcomes (spec.roll draw session.source).1.outcomes)
        (session.plugin.settings.showsGroups grouped) with
    | error error =>
      have rolled : (session.plugin.roll draw dice grouped session.source).1 =
          .error (.report error) := by
        simp only [Plugin.roll, active, if_true, parsed, reported]
      exact .raises rfl reported (session.result_of_roll faults now rolled)
    | ok text =>
      have rolled : (session.plugin.roll draw dice grouped session.source).1 = .ok text := by
        simp only [Plugin.roll, active, if_true, parsed, reported]
      exact .returns rfl reported (session.result_of_roll faults now rolled)

end Session

/-- The step handles a message that holds no request, or none for dice that parse. -/
inductive Step.Idle : Step → Prop
  | undecodable {message : Message} (nothing : ∀ members, ¬ message.Holds members) :
      Idle (.handle message)
  | unparsed {message : Message} {members : List (Text × Json)} {failure : Failure}
      (holds : message.Holds members)
      (failed : parse (Request.ofMembers members).dice = .error failure) : Idle (.handle message)

theorem Step.Idle.not_rolls {step : Step} (idle : step.Idle) (plugin : Plugin) :
    ∀ spec, ¬ step.Rolls plugin spec := by
  rintro spec (⟨holds, parsed⟩ | _)
  · cases idle with
    | undecodable nothing => exact nothing _ holds
    | unparsed again failed =>
      rw [holds.unique again, failed] at parsed
      cases parsed
  · cases idle

namespace Session

theorem step_of_idle (session : Session σ) (draw : Draw σ) (faults : Bus.Faults) (now : Moment)
    {step : Step} (idle : step.Idle) : (session.step draw faults now step).1 = session := by
  have source := session.source_step draw faults now step
  rw [requests_eq_nil (idle.not_rolls session.plugin)] at source
  cases idle <;> exact congrArg (fun source => Session.mk session.plugin source session.issued) source

end Session

/-- The entries that are not marked for removal; an entry without a mark stays. -/
def without {α : Type} : (removed : List Bool) → List α → List α
  | true :: removed, _ :: rest => without removed rest
  | false :: removed, entry :: rest => entry :: without removed rest
  | _, list => list

namespace Session

/-- A run without some of its idle turns is the same in all others. -/
theorem run_without (session : Session σ) (draw : Draw σ) (turns : List Turn) (removed : List Bool)
    (idle : ∀ entry ∈ turns.zip removed, entry.2 = true → entry.1.step.Idle) :
    session.run draw (without removed turns) = without removed (session.run draw turns) := by
  -- An idle turn leaves the very session it found, so that those after it start as before.
  induction removed generalizing session turns with
  | nil => simp [without]
  | cons mark removed ih =>
    cases turns with
    | nil => cases mark <;> rfl
    | cons turn rest =>
      rw [List.zip_cons_cons, List.forall_mem_cons] at idle
      cases mark with
      | false => simp only [without, run, ih _ _ idle.2]
      | true =>
        have same : (session.take draw turn).after = session :=
          session.step_of_idle draw turn.faults turn.now (idle.1 rfl)
        simp only [without, run, same, ih _ _ idle.2]

end Session

/-- A turn that asks its source for dice of a specification and for nothing else, and tells of the
answers in the order in which they came. -/
structure Taken.Asks (taken : Taken (σ × List (Int × Int))) (draw : Draw σ) (spec : Specification) :
    Prop where
  amount : 0 ≤ spec.amount
  sides : 1 ≤ spec.sides
  asked : taken.after.source.2 =
    List.replicate spec.amount.toNat (1, spec.sides) ++ taken.before.source.2
  answered : taken.after.source.1 =
    (draw.answers (List.replicate spec.amount.toNat (1, spec.sides)) taken.before.source.1).2
  told : taken.Tells spec (Roll.ofOutcomes spec
    (draw.answers (List.replicate spec.amount.toNat (1, spec.sides)) taken.before.source.1).1)

namespace Session

theorem source_take_recording (session : Session (σ × List (Int × Int))) (draw : Draw σ) (turn : Turn) :
    (session.take draw.recording turn).after.source =
      ((draw.answers (session.plugin.requests turn.step) session.source.1).2,
        session.plugin.requests turn.step ++ session.source.2) := by
  obtain ⟨after, -, asked⟩ := session.step_recording draw turn.faults turn.now turn.step
  have source := session.unrecorded.source_step draw turn.faults turn.now turn.step
  rw [← after] at source
  exact Prod.ext source asked

theorem asks_take (session : Session (σ × List (Int × Int))) (draw : Draw σ) (turn : Turn)
    {spec : Specification} (rolls : turn.step.Rolls session.plugin spec) :
    (session.take draw.recording turn).Asks draw spec := by
  have source := session.source_take_recording draw turn
  rw [rolls.requests_eq] at source
  have told := session.tells_take draw.recording turn rolls
  obtain ⟨plugin, ⟨generator, earlier⟩, issued⟩ := session
  rw [spec.roll_recording, spec.roll_eq] at told
  exact {
    amount := rolls.inRange.amountNonneg
    sides := rolls.inRange.sidesPositive
    asked := congrArg Prod.snd source
    answered := congrArg Prod.fst source
    told := told }

theorem source_take_of_not_rolls (session : Session (σ × List (Int × Int))) (draw : Draw σ)
    (turn : Turn) (idle : ∀ spec, ¬ turn.step.Rolls session.plugin spec) :
    (session.take draw.recording turn).after.source = session.source := by
  rw [source_take_recording, requests_eq_nil idle]
  rfl

/-- The turns of a run depend on each other by the source only, and by that only through the dice
rolled. -/
structure Independent (session : Session σ) (draw : Draw σ) (turns : List Turn) : Prop where
  /-- The requests can be recorded without changing the run. -/
  recorded : (session.recorded.run draw.recording turns).map Taken.unrecorded = session.run draw turns
  asks : ∀ taken ∈ session.recorded.run draw.recording turns, ∀ spec,
    taken.turn.step.Rolls taken.before.plugin spec → taken.Asks draw spec
  silent : ∀ taken ∈ session.recorded.run draw.recording turns,
    (∀ spec, ¬ taken.turn.step.Rolls taken.before.plugin spec) →
      taken.after.source = taken.before.source
  removal : ∀ removed : List Bool,
    (∀ entry ∈ turns.zip removed, entry.2 = true → entry.1.step.Idle) →
      session.run draw (without removed turns) = without removed (session.run draw turns)

/-- Whatever turns a session takes, from whatever source, they are independent but for the dice
rolled before them. -/
theorem independent (session : Session σ) (draw : Draw σ) (turns : List Turn) :
    session.Independent draw turns where
  recorded := session.recorded.run_recording draw turns
  asks := forall_mem_run (fun session turn _ rolls => session.asks_take draw turn rolls) _ turns
  silent := forall_mem_run (fun session turn idle => session.source_take_of_not_rolls draw turn idle)
    _ turns
  removal := fun removed => session.run_without draw turns removed

end Session

end Runs

namespace Session

/-- Bytes that are no text, and then two dice: taking the bytes out changes nothing. -/
theorem independent_undecodable :
    let now : Moment := ⟨⟨2024, 1, 1⟩, 0, 0, 0, 0, none⟩
    let bytes : Turn := ⟨.handle ⟨[255], some "inbox"⟩, now, .none⟩
    let dice : Turn := ⟨.handle ⟨Utf8.encode "\x7b\"dice\": \"2d6\"\x7d", none⟩, now, .none⟩
    let session := Session.start ⟨.str "cytube", .bool true, .bool true⟩ (Script.cycle [3, 1] 0)
    session.run Script.draw [dice] = (session.run Script.draw [bytes, dice]).tail ∧
      (session.recorded.reached Script.draw.recording [bytes, dice]).source.2 = [(1, 6), (1, 6)] := by
  intro now bytes dice session
  have undecodable : bytes.step.Idle := by
    refine .undecodable fun members ⟨t, decoded, read⟩ => ?_
    have invalid : Utf8.decode [255] = none := by decide +kernel
    cases invalid.symm.trans decoded
  have independent := session.independent Script.draw [bytes, dice]
  refine ⟨independent.removal [true] ?_, by decide +kernel⟩
  intro entry member marked
  obtain rfl : entry = (bytes, true) := by simpa using member
  exact undecodable

end Session

end Plugin

end ChatDice
