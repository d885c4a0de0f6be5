import ChatDice.Proofs.Deliveries

/-!
Activating and shutting down. An activation makes one call, and whether that is accepted decides
what it leaves behind; a shutdown makes one call for each subscription held, and leaves none
whatever is refused.
-/

namespace ChatDice

namespace Bus

/-- The call that gives a subscription back. -/
def Subscription.giveBack (subscription : Subscription) : Call := .unsubscribe subscription.subject

theorem Trace.attempts_append (first second : Trace) :
    (first ++ second).attempts = first.attempts ++ second.attempts := rfl

end Bus

namespace Plugin

theorem calls_activate (plugin : Plugin) (faults : Bus.Faults) (index fresh : Nat) :
    (plugin.activate faults index fresh).trace.calls = [.subscribe rollSubject] := by
  unfold activate
  simp only [Bus.attempt]
  cases faults index (.subscribe rollSubject) <;> rfl

theorem refusal_activate (plugin : Plugin) (faults : Bus.Faults) (index fresh : Nat) :
    (plugin.activate faults index fresh).refusal = faults index (.subscribe rollSubject) := by
  unfold activate
  simp only [Bus.attempt]
  cases faults index (.subscribe rollSubject) <;> rfl

theorem plugin_activate_of_refused {plugin : Plugin} {faults : Bus.Faults} {index fresh : Nat}
    {reason : Text} (refused : faults index (.subscribe rollSubject) = some reason) :
    (plugin.activate faults index fresh).plugin = plugin := by
  simp only [activate, Bus.attempt, refused]

theorem plugin_activate_of_accepted {plugin : Plugin} {faults : Bus.Faults} {index fresh : Nat}
    (accepted : faults index (.subscribe rollSubject) = none) :
    (plugin.activate faults index fresh).plugin =
      { plugin with
        active := true
        subscriptions := plugin.subscriptions ++ [⟨fresh, rollSubject⟩] } := by
  simp only [activate, Bus.attempt, accepted]

/-- Nothing but a refusal of its one call has a part in an activation. -/
theorem activate_congr (plugin : Plugin) {faults others : Bus.Faults} {index : Nat} (fresh : Nat)
    (same : faults index (.subscribe rollSubject) = others index (.subscribe rollSubject)) :
    plugin.activate faults index fresh = plugin.activate others index fresh := by
  simp only [activate, Bus.attempt, same]

theorem attempts_unsubscribe (faults : Bus.Faults) (index : Nat) (subscription : Bus.Subscription) :
    (unsubscribe faults index subscription).attempts =
      [(Bus.attempt faults index subscription.giveBack).1] := by
  simp only [unsubscribe, Bus.attempt, Bus.Subscription.giveBack]
  cases faults index (.unsubscribe subscription.subject) <;> rfl

/-- The attempt at each place is for the subscription at that place. -/
theorem attempts_unsubscribeAll (faults : Bus.Faults) (index : Nat)
    (subscriptions : List Bus.Subscription) :
    (unsubscribeAll faults index subscriptions).attempts =
      (subscriptions.zipIdx index).map fun entry =>
        (Bus.attempt faults entry.2 entry.1.giveBack).1 := by
  induction subscriptions generalizing index with
  | nil => rfl
  | cons subscription rest ih =>
    rw [unsubscribeAll, Bus.Trace.attempts_append, attempts_unsubscribe, ih]
    rfl

theorem attempts_shutdown (plugin : Plugin) (faults : Bus.Faults) (index : Nat) :
    (plugin.shutdown faults index).2.attempts =
      (plugin.subscriptions.zipIdx index).map fun entry =>
        (Bus.attempt faults entry.2 entry.1.giveBack).1 := by
  rw [← attempts_unsubscribeAll]
  exact List.append_nil _

theorem calls_shutdown (plugin : Plugin) (faults : Bus.Faults) (index : Nat) :
    (plugin.shutdown faults index).2.calls = plugin.subscriptions.map (·.giveBack) := by
  rw [Bus.Trace.calls, attempts_shutdown, List.map_map]
  change (plugin.subscriptions.zipIdx index).map ((·.giveBack) ∘ Prod.fst) = _
  rw [← List.map_map, List.zipIdx_map_fst]

end Plugin

end ChatDice
