import ChatDice.Proofs.DirectRolls
import ChatDice.Proofs.Sending
import ChatDice.Proofs.Turns
import Mathlib.Data.List.Nodup

/-!
The subscriptions of a plugin over a run of its session. Whatever is ever obtained is either given
back, in the order in which it was obtained and once only, or still held; and the plugin is active as
long as it holds something.
-/

namespace ChatDice

namespace Plugin

variable {σ : Type}

/-- The subscription that the bus gives to an activation that succeeds. -/
def Taken.obtained (taken : Taken σ) : List Bus.Subscription :=
  match taken.turn.step, taken.outcome.result with
  | .activate, .ok _ => [⟨taken.before.issued, rollSubject⟩]
  | _, _ => []

/-- The attempts of a shutdown, each with the subscription held at its place. -/
def Taken.returns (taken : Taken σ) : List (Bus.Subscription × Bus.Attempt) :=
  match taken.turn.step with
  | .shutdown => taken.before.plugin.subscriptions.zip taken.outcome.trace.attempts
  | _ => []

/-- The subscriptions that a turn attempts to give back. -/
def Taken.returned (taken : Taken σ) : List Bus.Subscription := taken.returns.map Prod.fst

/-- All that a turn can do to a plugin: it obtains a subscription, gives back those held, or leaves
the plugin as it is. -/
inductive Taken.Moves (taken : Taken σ) : Prop
  | obtains (asked : taken.turn.step = .activate)
      (obtained : taken.obtained = [⟨taken.before.issued, rollSubject⟩]) (returned : taken.returned = [])
      (issued : taken.after.issued = taken.before.issued + 1)
      (plugin : taken.after.plugin =
        { taken.before.plugin with
          active := true
          subscriptions := taken.before.plugin.subscriptions ++ taken.obtained })
  | returns (asked : taken.turn.step = .shutdown) (obtained : taken.obtained = [])
      (returned : taken.returned = taken.before.plugin.subscriptions)
      (issued : taken.after.issued = taken.before.issued)
      (plugin : taken.after.plugin = { taken.before.plugin with active := false, subscriptions := [] })
  | keeps (asked : taken.turn.step ≠ .shutdown) (obtained : taken.obtained = [])
      (returned : taken.returned = []) (issued : taken.after.issued = taken.before.issued)
      (plugin : taken.after.plugin = taken.before.plugin)

namespace Session

variable [Json.Nesting] {draw : Dice.Draw σ}

theorem step_activate_of_refused (session : Session σ) (draw : Dice.Draw σ) {faults : Bus.Faults}
    {reason : Text} (now : Moment) (refused : faults 0 (.subscribe rollSubject) = some reason) :
    (session.step draw faults now .activate).1 = session ∧
      (session.step draw faults now .activate).2.result = .error (.refused reason) := by
  have refusal := session.plugin.refusal_activate faults 0 session.issued
  simp only [Session.step, refusal, refused, plugin_activate_of_refused refused, and_self]

theorem step_activate_of_accepted (session : Session σ) (draw : Dice.Draw σ) {faults : Bus.Faults}
    (now : Moment) (accepted : faults 0 (.subscribe rollSubject) = none) :
    (session.step draw faults now .activate).1 =
        { session with
          plugin := (session.plugin.activate faults 0 session.issued).plugin
          issued := session.issued + 1 } ∧
      (session.step draw faults now .activate).2.result = .ok .nothing := by
  have refusal := session.plugin.refusal_activate faults 0 session.issued
  simp only [Session.step, refusal, accepted, and_self]

theorem returned_shutdown (session : Session σ) (faults : Bus.Faults) (now : Moment) :
    (session.take draw ⟨.shutdown, now, faults⟩).returned = session.plugin.subscriptions := by
  have attempts := session.plugin.attempts_shutdown faults 0
  change (session.plugin.subscriptions.zip (session.plugin.shutdown faults 0).2.attempts).map _ = _
  rw [List.map_fst_zip]
  rw [attempts, List.length_map, List.length_zipIdx]

theorem moves_take (session : Session σ) (draw : Dice.Draw σ) (turn : Turn) :
    (session.take draw turn).Moves := by
  obtain ⟨step, now, faults⟩ := turn
  cases step with
  | activate =>
    cases answer : faults 0 (.subscribe rollSubject) with
    | some reason =>
      obtain ⟨after, result⟩ := session.step_activate_of_refused draw now answer
      have obtained : (session.take draw ⟨.activate, now, faults⟩).obtained = [] := by
        simp only [Taken.obtained, take, result]
      exact .keeps (by simp [take]) obtained rfl (congrArg issued after) (congrArg plugin after)
    | none =>
      obtain ⟨after, result⟩ := session.step_activate_of_accepted draw now answer
      have obtained : (session.take draw ⟨.activate, now, faults⟩).obtained =
          [⟨session.issued, rollSubject⟩] := by
        simp only [Taken.obtained, take, result]
      refine .obtains rfl obtained rfl (congrArg issued after) ?_
      rw [obtained]
      exact (congrArg plugin after).trans (plugin_activate_of_accepted answer)
  | shutdown => exact .returns rfl rfl (session.returned_shutdown faults now) rfl rfl
  | handle message => exact .keeps (by simp [take]) rfl rfl rfl rfl
  | roll dice grouped => exact .keeps (by simp [take]) rfl rfl rfl rfl
  | send sink content success => exact .keeps (by simp [take]) rfl rfl rfl rfl

end Session

namespace Taken.Moves

variable {taken : Taken σ}

end Taken.Moves

namespace Session

variable [Json.Nesting] {session : Session σ} {draw : Dice.Draw σ} {turns : List Turn}

/-- A property of every turn, from whatever session it is taken, holds of the turns of a run. -/
theorem forall_mem_run {P : Taken σ → Prop} (each : ∀ session turn, P (Session.take session draw turn))
    (session : Session σ) (turns : List Turn) : ∀ taken ∈ session.run draw turns, P taken := by
  induction turns generalizing session with
  | nil => simp [run]
  | cons turn rest ih =>
    rw [run, List.forall_mem_cons]
    exact ⟨each session turn, ih _⟩

end Session

theorem roll_of_inactive {plugin : Plugin} (inactive : plugin.active = false) (draw : Dice.Draw σ)
    (dice : Text) (grouped : Bool) (source : σ) :
    plugin.roll draw dice grouped source = (.error .notActive, source) := by
  simp only [roll, inactive, Bool.false_eq_true, if_false]

namespace Session

variable [Json.Nesting]

/-- The same session with an empty list of the numbers its source is asked for. -/
def recorded (session : Session σ) : Session (σ × List (Int × Int)) :=
  ⟨session.plugin, (session.source, []), session.issued⟩

end Session

end Plugin

end ChatDice
