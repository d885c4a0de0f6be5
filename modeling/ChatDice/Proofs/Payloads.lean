import ChatDice.Proofs.Echo
import ChatDice.Proofs.Handling

/-!
Payloads and what they hold. A payload is read by the reader of requests as the object it was made
from; what it repeats of a request is as the request had it.
-/

namespace ChatDice

namespace Json

variable {accepts : Text → Prop} {depth : Nat}

theorem Legible.member {list : List (Text × Json)} (legible : Legible accepts depth (.obj list)) :
    ∀ member ∈ list, accepts member.1 ∧ Legible accepts (depth - 1) member.2 := by
  cases legible with
  | obj distinct names inside => exact fun member found => ⟨names member found, inside member found⟩

/-- Bytes hold no text with a high surrogate right before a low one. -/
theorem legible_of_decode {bytes : List UInt8} {t : Text} {value : Json}
    (decoded : Utf8.decode bytes = some t) (done : readWithin depth t = .ok value) :
    Legible Text.Unpaired depth value := by
  have free := Utf8.surrogateFree_of_decode decoded
  exact legible_of_readWithin
    (fun within literal => literal.unpaired fun c member => free c (within.subset member)) done

/-- An object whose names are spelled out can be a payload if its values can stand in one. -/
theorem legible_payload {list : List (Text × Json)} (names : List Text)
    (named : list.map Prod.fst = names) (distinct : names.Nodup)
    (plain : names.all (fun name => name.all fun c => !c.isSurrogate) = true)
    (inside : ∀ member ∈ list, Legible Text.Unpaired depth member.2) :
    Legible Text.Unpaired (depth + 1) (.obj list) := by
  subst named
  have unpaired : ∀ member ∈ list, member.1.Unpaired := by
    intro member found
    have free := List.all_eq_true.mp plain member.1 (List.mem_map_of_mem found)
    exact (Text.surrogateFree_of_all free).unpaired
  exact .obj distinct unpaired inside

end Json

namespace Plugin

open Dice

private theorem legible_getD {members : List (Text × Json)} {depth : Nat}
    (legible : Json.Legible Text.Unpaired depth (.obj members)) {missing : Text}
    (plain : missing.Visible) (name : Text) :
    Json.Legible Text.Unpaired (depth - 1) ((Json.find? members name).getD (.str missing)) := by
  cases found : Json.find? members name with
  | none => exact .str plain.surrogateFree.unpaired
  | some value => exact (legible.member _ (Json.mem_of_find? found)).2

/-- A reply that can be made is an answer if one is asked for, and goes to the platform otherwise. -/
theorem ReplySink.call_cases {sink : ReplySink} {levels : Nat} {content : Text} {success : Json}
    {now : Moment} {call : Bus.Call} (made : (sink.delivery levels content success).call now = .ok call) :
    (sink.answersRequest = true ∧ call = .respond (sink.responsePayload content success).render) ∨
    (sink.answersRequest = false ∧ ∃ subject, sink.subject = .ok subject ∧
      call = .publish subject (sink.platformPayload content).render) := by
  simp only [delivery, ReplySink.call] at made
  cases asked : sink.answersRequest with
  | true =>
    rw [asked, if_pos rfl] at made
    cases written : (sink.responsePayload content success).write levels with
    | error excess =>
      rw [written] at made
      cases made
    | ok payload =>
      rw [written] at made
      cases made
      exact .inl ⟨rfl, by rw [Json.render_of_write written]⟩
  | false =>
    rw [asked, if_neg Bool.false_ne_true] at made
    cases named : sink.subject with
    | error excess =>
      rw [named] at made
      cases made
    | ok subject =>
      cases written : (sink.platformPayload content).write levels with
      | error excess =>
        rw [named, written] at made
        cases made
      | ok payload =>
        rw [named, written] at made
        cases made
        exact .inr ⟨rfl, subject, rfl, by rw [Json.render_of_write written]⟩

section Messages

variable [Json.Nesting]

/-- The parts of a request that payloads repeat, as they were read. -/
structure Request.Legible (request : Request) : Prop where
  channel : Json.Legible Text.Unpaired (Json.Nesting.written + 1) request.channel
  user : Json.Legible Text.Unpaired (Json.Nesting.written + 1) request.user
  dice : request.dice.Unpaired

theorem Request.legible_of_holds {message : Message} {members : List (Text × Json)}
    (holds : message.Holds members) : (Request.ofMembers members).Legible := by
  obtain ⟨t, decoded, read⟩ := holds
  have legible := Json.legible_of_decode decoded read
  have unknown : (Text.ofString "unknown").Visible := Text.visible_of_all (by decide)
  refine ⟨legible_getD legible unknown "channel", legible_getD legible unknown "user", ?_⟩
  unfold ofMembers
  dsimp only
  split
  · rename_i dice found
    have named : Json.find? members "dice" = some (.str dice) ∨
        Json.find? members "args" = some (.str dice) := by
      cases first : Json.find? members "dice" with
      | none => exact .inr (by simpa [first] using found)
      | some value => exact .inl (by simpa [first] using found)
    rcases named with found | found <;>
      · cases (legible.member _ (Json.mem_of_find? found)).2 with
        | str unpaired => exact unpaired
  · exact .nil

/-- A payload is read as the object it was made from. -/
theorem Message.holds_render {list : List (Text × Json)}
    (legible : Json.Legible Text.Unpaired Json.Nesting.read (.obj list)) (replySubject : Option Text) :
    (Message.mk (Utf8.encode (Json.obj list).render) replySubject).Holds (Json.rereadMembers list) :=
  ⟨_, Utf8.decode_encode_of_visible (Json.visible_render _), Json.readWithin_render legible⟩

section Replies

variable {request : Request} {content : Text} {success : Bool}

theorem Request.Legible.answer (legible : request.Legible) (unpaired : content.Unpaired)
    (success : Bool) :
    Json.Legible Text.Unpaired Json.Nesting.read (.obj (request.answer content success)) := by
  have inside : ∀ member ∈ request.answer content success,
      Json.Legible Text.Unpaired (Json.Nesting.written + 1) member.2 := by
    simp only [Request.answer, List.forall_mem_cons]
    exact ⟨.bool _, .bool _, legible.channel, legible.user, .str unpaired, by simp⟩
  cases success with
  | false =>
    exact Json.legible_payload ["success", "private", "channel", "user", "error"] rfl (by decide)
      (by decide) inside
  | true =>
    exact Json.legible_payload ["success", "private", "channel", "user", "message"] rfl (by decide)
      (by decide) inside

theorem Request.Legible.posting (legible : request.Legible) (unpaired : content.Unpaired) :
    Json.Legible Text.Unpaired Json.Nesting.read (.obj (request.posting content)) := by
  unfold Request.posting
  split
  · refine Json.legible_payload ["user", "message"] rfl (by decide) (by decide) ?_
    simp only [List.forall_mem_cons]
    exact ⟨legible.user, .str unpaired, by simp⟩
  · refine Json.legible_payload ["channel", "message"] rfl (by decide) (by decide) ?_
    simp only [List.forall_mem_cons]
    exact ⟨legible.channel, .str unpaired, by simp⟩

/-- A reply that can be made at all is an answer or a posting. -/
theorem Request.call_of_delivery {settings : Settings} {replySubject : Option Text} {now : Moment}
    {call : Bus.Call}
    (made : ((request.sink settings replySubject).delivery Json.Nesting.written content
      (.bool success)).call now = .ok call) :
    if asksAnswer replySubject then
      call = .respond (Json.obj (request.answer content success)).render
    else ∃ subject, call = .publish subject (Json.obj (request.posting content)).render := by
  have cases := ReplySink.call_cases made
  rw [answersRequest_sink, responsePayload_sink, platformPayload_sink] at cases
  rcases cases with ⟨asked, rfl⟩ | ⟨unasked, subject, -, rfl⟩
  · rw [if_pos asked]
  · rw [if_neg (Bool.eq_false_iff.mp unasked)]
    exact ⟨subject, rfl⟩

section Floatless

variable (legible : request.Legible) (unpaired : content.Unpaired)
  (channel : request.channel.floatless = true) (user : request.user.floatless = true)

include legible unpaired channel user

/-- Without floating-point numbers in it, an answer is read as it was meant. -/
theorem Request.holds_answer :
    Message.Holds ⟨Utf8.encode (Json.obj (request.answer content success)).render, none⟩
      (request.answer content success) := by
  have holds := Message.holds_render (legible.answer unpaired success) none
  rwa [Json.rereadMembers_of_floatless] at holds
  simp [Request.answer, Json.floatlessMembers, Json.floatless, channel, user]

theorem Request.holds_posting :
    Message.Holds ⟨Utf8.encode (Json.obj (request.posting content)).render, none⟩
      (request.posting content) := by
  have holds := Message.holds_render (legible.posting unpaired) none
  rwa [Json.rereadMembers_of_floatless] at holds
  unfold Request.posting
  split <;> simp [Json.floatlessMembers, Json.floatless, channel, user]

end Floatless

end Replies

/-- What a request is answered with, and whether that is a success. -/
inductive Request.Earns {σ : Type} (request : Request) (settings : Settings) (draw : Draw σ)
    (source : σ) : (content : Text) → (success : Bool) → Prop
  | failure {failure : Failure} (failed : parse request.dice = .error failure) :
      Earns request settings draw source failure.message false
  | report {spec : Specification} {text : Text} (parsed : parse request.dice = .ok spec)
      (reported : request.report spec settings (spec.roll draw source).1 = .ok text) :
      Earns request settings draw source text true

variable {σ : Type} {settings : Settings} {draw : Draw σ} {source : σ}

theorem Request.Earns.unpaired {request : Request} (legible : request.Legible) {content : Text}
    {success : Bool} (earns : request.Earns settings draw source content success) :
    content.Unpaired := by
  cases earns with
  | failure => exact (Failure.visible_message _).surrogateFree.unpaired
  | report parsed reported =>
    apply (Report.echoedIn_of_render reported).unpaired
    rw [query_of_parse parsed]
    exact legible.dice

theorem isEvent_of_eventDelivery {request : Request} {spec : Specification} {roll : Roll}
    {now : Moment} {call : Bus.Call} (made : (eventDelivery request spec roll).call now = .ok call) :
    isEvent call = true := by
  dsimp only [eventDelivery] at made
  split at made
  · cases made
    simp [isEvent]
  · cases made

/-- Every call for a request other than an event carries what the request earns. -/
theorem Request.earns_of_call {request : Request} {replySubject : Option Text} {now : Moment}
    {call : Bus.Call} (made : call ∈ (request.plan draw settings replySubject source).1.calls now)
    (isReply : isEvent call = false) :
    ∃ content success, request.Earns settings draw source content success ∧
      ((request.sink settings replySubject).delivery Json.Nesting.written content
        (.bool success)).call now = .ok call := by
  obtain ⟨delivery, planned, made⟩ := Plan.mem_calls.mp made
  unfold Request.plan at planned
  dsimp only at planned
  split at planned
  · rename_i failure failed
    rw [List.mem_singleton.mp planned] at made
    exact ⟨_, _, .failure failed, made⟩
  · rename_i spec parsed
    split at planned
    · simp at planned
    · rename_i text reported
      rcases List.mem_cons.mp planned with rfl | told
      · exact ⟨_, _, .report parsed reported, made⟩
      · split at told
        · rw [List.mem_singleton.mp told] at made
          rw [isEvent_of_eventDelivery made] at isReply
          cases isReply
        · cases told

/-- Every reply to a request is printable ASCII, and is read again as an object with just the names
of an answer or of a posting, in order. The request's channel and user stand in it as they came if
no floating-point number is in them, and so does the text that the request earns, with whatever it
repeats of the query. -/
theorem reply_payload (session : Session σ) (draw : Draw σ) (faults : Bus.Faults) (now : Moment)
    {message : Message} {members : List (Text × Json)} (holds : message.Holds members) :
    let request := Request.ofMembers members
    let channel := (Json.find? members "channel").getD (.str "unknown")
    let user := (Json.find? members "user").getD (.str "unknown")
    let isPrivate := ((Json.find? members "private").getD (.bool false)).truthy
    let calls := (session.step draw faults now (.handle message)).2.trace.calls
    channel.floatless = true → user.floatless = true →
    ∀ call ∈ calls, isEvent call = false →
      ∃ content success payload,
        request.Earns session.plugin.settings draw session.source content success ∧
        (∀ byte ∈ Utf8.encode payload, 0x20 ≤ byte.toNat ∧ byte.toNat ≤ 0x7E) ∧
        if asksAnswer message.replySubject then
          call = .respond payload ∧
            Message.Holds ⟨Utf8.encode payload, none⟩
              [("success", .bool success), ("private", .bool isPrivate), ("channel", channel),
                ("user", user), (if success then "message" else "error", .str content)]
        else
          (∃ subject, call = .publish subject payload) ∧
            Message.Holds ⟨Utf8.encode payload, none⟩
              (if isPrivate then [("user", user), ("message", .str content)]
                else [("channel", channel), ("message", .str content)]) := by
  intro request channel user isPrivate calls channelFloatless userFloatless call made isReply
  have legible := Request.legible_of_holds holds
  have attempted := session.handle_calls draw faults now message
  change calls = _ at attempted
  rw [attempted, Message.plan_of_holds holds] at made
  obtain ⟨content, success, earns, delivered⟩ := Request.earns_of_call made isReply
  have unpaired := earns.unpaired legible
  have bytes (value : Json) := Utf8.mem_encode_of_visible (Json.visible_render value)
  have form := Request.call_of_delivery delivered
  split at form
  · rename_i asked
    refine ⟨content, success, _, earns, bytes (.obj (request.answer content success)), ?_⟩
    rw [if_pos asked]
    exact ⟨form, Request.holds_answer legible unpaired channelFloatless userFloatless⟩
  · rename_i unasked
    obtain ⟨subject, form⟩ := form
    refine ⟨content, success, _, earns, bytes (.obj (request.posting content)), ?_⟩
    rw [if_neg unasked]
    exact ⟨⟨subject, form⟩, Request.holds_posting legible unpaired channelFloatless userFloatless⟩

end Messages

/-- A query with a quotation mark and an unpaired surrogate, from a user that is an array. -/
theorem reply_payload_surrogate :
    let message : Message := ⟨Utf8.encode
      "\x7b\"args\": \"1d1\\\"\\ud83d\", \"user\": [1, null]\x7d", some "r"⟩
    let session := Session.start ⟨.str "cytube", .bool true, .bool true⟩ ()
    let now : Moment := ⟨⟨2024, 1, 1⟩, 0, 0, 0, 0, none⟩
    let query : Text := Text.ofString "1d1\"" ++ [0xD83D]
    let text : Text := "You rolled **" ++ query ++ "** (max is 1, min is 1, avg is 1):\n"
      ++ "- Results: **1**\n- Total: **1**\n- Groups:\n"
    ∃ payload, Bus.Call.respond payload ∈
        (session.step Draw.lowest Bus.Faults.none now (.handle message)).2.trace.calls ∧
      Message.Holds ⟨Utf8.encode payload, none⟩
        [("success", .bool true), ("private", .bool false), ("channel", .str "unknown"),
          ("user", .arr [.int 1, .null]), ("message", .str text)] := by
  intro message session now query text
  have holds : message.Holds [("args", .str query), ("user", .arr [.int 1, .null])] :=
    ⟨"\x7b\"args\": \"1d1\\\"\\ud83d\", \"user\": [1, null]\x7d", by decide +kernel, by cbv⟩
  let request := Request.ofMembers [("args", .str query), ("user", .arr [.int 1, .null])]
  let spec : Specification := ⟨query, 1, 1, 0⟩
  have parsed : parse request.dice = .ok spec := by decide +kernel
  have reported : request.report spec session.plugin.settings (spec.roll Draw.lowest ()).1 =
      .ok text := by decide +kernel
  have calls := session.handle_calls Draw.lowest Bus.Faults.none now message
  rw [(Message.plan_of_report holds parsed reported rfl now).2] at calls
  have made := List.mem_of_mem_head? (congrArg List.head? calls)
  obtain ⟨content, success, payload, earns, -, form⟩ := reply_payload session Draw.lowest
    Bus.Faults.none now holds rfl rfl _ made (isEvent_reply ..)
  obtain ⟨answered, read⟩ := form
  rw [answered] at made
  refine ⟨payload, made, ?_⟩
  cases earns with
  | failure failed => cases failed.symm.trans parsed
  | report again said =>
    cases again.symm.trans parsed
    cases said.symm.trans reported
    exact read

end Plugin
end ChatDice
