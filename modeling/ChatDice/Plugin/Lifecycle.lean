import ChatDice.Plugin.Handler

/-!
The plugin between its start and its end. It is activated by subscribing to roll commands and
shut down by giving back every subscription, whether or not the bus accepts that.
-/

namespace ChatDice

/-- A subscription that the bus has given out; the number tells it from all others. -/
structure Bus.Subscription where
  id : Nat
  subject : Text
  deriving DecidableEq, Repr

structure Plugin where
  settings : Plugin.Settings
  active : Bool
  subscriptions : List Bus.Subscription
  deriving Repr

namespace Plugin

private def note (text : Text) : Logging.Record := ⟨loggerName, .info, text⟩

def ofSettings (settings : Settings) : Plugin := ⟨settings, false, []⟩

/-- What activating leads to: the plugin after it, its trace, and the refusal that ended it. -/
structure Activation where
  plugin : Plugin
  trace : Bus.Trace
  refusal : Option Text

/-- Subscribes to roll commands; `fresh` numbers the subscription that the bus would give out.
A refusal leaves the plugin as it is. -/
def activate (plugin : Plugin) (faults : Bus.Faults) (index fresh : Nat) : Activation :=
  let opening := note ("Initializing " ++ sectionName ++ " plugin v" ++ version)
  match Bus.attempt faults index (.subscribe rollSubject) with
  | (attempt, some reason) => ⟨plugin, ⟨[attempt], [opening]⟩, some reason⟩
  | (attempt, none) =>
    let closing := note ("Plugin initialized. Subscribed to: " ++ rollSubject)
    ⟨{ plugin with
        active := true
        subscriptions := plugin.subscriptions ++ [⟨fresh, rollSubject⟩] },
      ⟨[attempt], [opening, closing]⟩, none⟩

/-- Gives one subscription back. -/
def unsubscribe (faults : Bus.Faults) (index : Nat) (subscription : Bus.Subscription) : Bus.Trace :=
  match Bus.attempt faults index (.unsubscribe subscription.subject) with
  | (attempt, none) => ⟨[attempt], []⟩
  | (attempt, some reason) =>
    ⟨[attempt], [⟨loggerName, .warning, "Error unsubscribing: " ++ reason⟩]⟩

def unsubscribeAll (faults : Bus.Faults) : (index : Nat) → List Bus.Subscription → Bus.Trace
  | _, [] => .empty
  | index, subscription :: rest =>
    unsubscribe faults index subscription ++ unsubscribeAll faults (index + 1) rest

/-- The subscriptions that the bus takes back. -/
def released (faults : Bus.Faults) : (index : Nat) → List Bus.Subscription → List Bus.Subscription
  | _, [] => []
  | index, subscription :: rest =>
    match Bus.attempt faults index (.unsubscribe subscription.subject) with
    | (_, none) => subscription :: released faults (index + 1) rest
    | (_, some _) => released faults (index + 1) rest

/-- Gives back every subscription once, in the order obtained; none is held afterwards. -/
def shutdown (plugin : Plugin) (faults : Bus.Faults) (index : Nat) : Plugin × Bus.Trace :=
  ({ plugin with active := false, subscriptions := [] },
    .ofRecords [note ("Shutting down " ++ sectionName ++ " plugin")]
      ++ unsubscribeAll faults index plugin.subscriptions
      ++ .ofRecords [note "Plugin shutdown complete"])

/-- Why a direct roll gives no text. -/
inductive RollError
  | notActive
  | report (error : Dice.Report.Error)
  deriving DecidableEq, Repr

def RollError.message : RollError → Text
  | .notActive =>
    sectionName ++ " plugin not initialized. Call initialize() before using methods."
  | .report error => error.message

/-- Rolls without the bus and gives the text that a command would be answered with. -/
def roll {σ : Type} (plugin : Plugin) (draw : Dice.Draw σ) (dice : Text) (grouped : Bool) (source : σ) :
    Except RollError Text × σ :=
  if plugin.active then
    match Dice.parse dice with
    | .error failure => (.ok failure.message, source)
    | .ok spec =>
      let (roll, source) := spec.roll draw source
      let grouping := Dice.Grouping.ofOutcomes roll.outcomes
      match Dice.Report.render spec.query roll grouping (plugin.settings.showsGroups grouped) with
      | .ok text => (.ok text, source)
      | .error error => (.error (.report error), source)
  else (.error .notActive, source)

end Plugin

end ChatDice
