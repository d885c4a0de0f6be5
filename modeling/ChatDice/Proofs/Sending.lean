import ChatDice.Proofs.Payloads

/-!
Handling a message, and sending a reply on its own, only publish and answer. Neither asks the bus
for a subscription or for a connection, and neither gives one up.
-/

namespace ChatDice

/-- A call that carries a message. -/
def Bus.Call.sends : Bus.Call → Bool
  | .publish _ _ => true
  | .respond _ => true
  | _ => false

namespace Plugin

open Dice

theorem ReplySink.sends_of_call {sink : ReplySink} {levels : Nat} {content : Text} {success : Json}
    {now : Moment} {call : Bus.Call} (made : (sink.delivery levels content success).call now = .ok call) :
    call.sends = true := by
  rcases ReplySink.call_cases made with ⟨-, rfl⟩ | ⟨-, subject, -, rfl⟩
  · rfl
  · rfl

variable {σ : Type} [Json.Nesting] {draw : Draw σ} {settings : Settings} {source : σ}

theorem Request.sends_of_plan {request : Request} {replySubject : Option Text} {now : Moment}
    {call : Bus.Call} (made : call ∈ (request.plan draw settings replySubject source).1.calls now) :
    call.sends = true := by
  by_cases told : isEvent call = true
  · cases call with
    | publish subject payload => rfl
    | _ => cases told
  · obtain ⟨content, success, -, delivered⟩ := Request.earns_of_call made (by simpa using told)
    exact ReplySink.sends_of_call delivered

theorem Message.sends_of_plan (message : Message) {now : Moment} {call : Bus.Call}
    (made : call ∈ (message.plan draw settings source).1.calls now) : call.sends = true := by
  rcases message.kinds with ⟨members, holds⟩ | malformed | tooDeep
  · rw [Message.plan_of_holds holds] at made
    exact Request.sends_of_plan made
  · rw [(Message.plan_of_malformed malformed now).2] at made
    split at made
    · rw [List.mem_singleton.mp made]
      rfl
    · cases made
  · rw [(Message.plan_of_tooDeep tooDeep now).2] at made
    cases made

end Plugin

end ChatDice
