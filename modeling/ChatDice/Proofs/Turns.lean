import ChatDice.Proofs.Lifecycle
import Mathlib.Data.List.Forall2

/-!
Runs of a session, turn by turn, on a bus that may refuse calls in each of them. Of two runs that
take the same steps at the same times, on buses that refuse the same subscriptions, all is the same
but the log: a refused reply, event or farewell has no part in what follows it.
-/

namespace ChatDice.Plugin

/-- A step with the time at which it is taken and the calls that the bus refuses in it. -/
structure Turn where
  step : Step
  now : Moment
  faults : Bus.Faults

/-- A turn that has been taken: the session before and after it, and its outcome. -/
structure Taken (σ : Type) where
  turn : Turn
  before : Session σ
  after : Session σ
  outcome : Outcome

variable {σ : Type}

section Runs

variable [Json.Nesting]

namespace Session

def take (session : Session σ) (draw : Dice.Draw σ) (turn : Turn) : Taken σ :=
  let (after, outcome) := session.step draw turn.faults turn.now turn.step
  ⟨turn, session, after, outcome⟩

/-- Takes turns one after another, each with the session that the one before it leaves. -/
def run (session : Session σ) (draw : Dice.Draw σ) : List Turn → List (Taken σ)
  | [] => []
  | turn :: rest =>
    let taken := session.take draw turn
    taken :: taken.after.run draw rest

/-- The session that some turns lead to. -/
def reached (session : Session σ) (draw : Dice.Draw σ) (turns : List Turn) : Session σ :=
  turns.foldl (fun session turn => (session.take draw turn).after) session

theorem reached_cons (session : Session σ) (draw : Dice.Draw σ) (turn : Turn) (rest : List Turn) :
    session.reached draw (turn :: rest) = (session.take draw turn).after.reached draw rest := rfl

theorem reached_append (session : Session σ) (draw : Dice.Draw σ) (first second : List Turn) :
    session.reached draw (first ++ second) = (session.reached draw first).reached draw second :=
  List.foldl_append

theorem run_append (session : Session σ) (draw : Dice.Draw σ) (first second : List Turn) :
    session.run draw (first ++ second) =
      session.run draw first ++ (session.reached draw first).run draw second := by
  induction first generalizing session with
  | nil => rfl
  | cons turn rest ih => rw [List.cons_append, run, run, ih, List.cons_append, reached_cons]

end Session

/-- The same step at the same time, on buses that refuse the same subscriptions. -/
structure Turn.Alike (first second : Turn) : Prop where
  step : first.step = second.step
  now : first.now = second.now
  subscribing : ∀ index subject,
    first.faults index (.subscribe subject) = second.faults index (.subscribe subject)

/-- What there is to a turn beside the log: the calls it attempts, how it ends, and the session it
leaves. -/
structure Shown (σ : Type) where
  calls : List Bus.Call
  result : Except StepError Answer
  after : Session σ

def Taken.shown (taken : Taken σ) : Shown σ :=
  ⟨taken.outcome.trace.calls, taken.outcome.result, taken.after⟩

namespace Session

theorem shown_take (session : Session σ) (draw : Dice.Draw σ) {first second : Turn}
    (alike : first.Alike second) :
    (session.take draw first).shown = (session.take draw second).shown := by
  obtain ⟨step, now, faults⟩ := first
  obtain ⟨step', now', others⟩ := second
  obtain ⟨rfl, rfl, subscribing⟩ := alike
  cases step with
  | activate =>
    have same := session.plugin.activate_congr session.issued (subscribing 0 rollSubject)
    simp only [take, Session.step, same]
    rfl
  | shutdown =>
    simp only [take, Session.step, Taken.shown, calls_shutdown]
    rfl
  | handle message =>
    have calls := session.handle_calls draw faults now message
    have again := session.handle_calls draw others now message
    simp only [take, Taken.shown, calls, again]
    rfl
  | roll dice grouped => rfl
  | send sink content success =>
    simp only [take, Session.step, Taken.shown, Delivery.calls_run]

/-- Which calls are refused, those that subscribe apart, shows in the log only. Two runs of the same
steps at the same times attempt the same calls in the same order, end each turn in the same way, and
leave the same session after it. -/
theorem shown_run_of_alike (session : Session σ) (draw : Dice.Draw σ) {first second : List Turn}
    (alike : List.Forall₂ Turn.Alike first second) :
    (session.run draw first).map Taken.shown = (session.run draw second).map Taken.shown := by
  induction alike generalizing session with
  | nil => rfl
  | cons head tail ih =>
    have shown := session.shown_take draw head
    have after := congrArg Shown.after shown
    change (Session.take session draw _).after = (Session.take session draw _).after at after
    rw [run, run, List.map_cons, List.map_cons, shown, after, ih]

end Session

end Runs

namespace Session

/-- A bus that takes subscriptions only. -/
def subscribingOnly : Bus.Faults := fun _ call =>
  match call with
  | .subscribe _ => none
  | _ => some "refused"

/-- A roll that is answered and told of, on a bus that takes every call and on one where the reply,
the event and the farewell are refused. -/
theorem shown_run_of_alike_subscribingOnly :
    let now : Moment := ⟨⟨2024, 1, 1⟩, 0, 0, 0, 0, none⟩
    let message : Message := ⟨Utf8.encode "\x7b\"dice\": \"2d6\"\x7d", some "inbox"⟩
    let steps := [Step.activate, .handle message, .shutdown]
    let session := Session.start ⟨.str "cytube", .bool true, .bool true⟩ (Dice.Script.cycle [3, 1] 0)
    let accepted := session.run Dice.Script.draw (steps.map (⟨·, now, .none⟩))
    let refused := session.run Dice.Script.draw (steps.map (⟨·, now, subscribingOnly⟩))
    accepted.map Taken.shown = refused.map Taken.shown ∧
      (refused.flatMap fun taken => taken.outcome.trace.attempts.map Bus.Attempt.failed) =
        [false, true, true, true] := by
  intro now message steps session accepted refused
  have alike (step : Step) : Turn.Alike ⟨step, now, .none⟩ ⟨step, now, subscribingOnly⟩ :=
    ⟨rfl, rfl, fun _ _ => rfl⟩
  refine ⟨shown_run_of_alike session Dice.Script.draw ?_, by decide +kernel⟩
  exact .cons (alike _) (.cons (alike _) (.cons (alike _) .nil))

end Session

end ChatDice.Plugin
