import ChatDice.Host.Run
import ChatDice.Plugin.Invocation

/-!
Runs whose handlers go on beside the host. Wherever the host waits, for the end of a call or for
messages, a message may reach the plugin and the handling of an earlier one may go on; this does not
end when the host begins to stop.
-/

namespace ChatDice.Host

variable {σ : Type}

/-- A message that is being handled, with the settings of the plugin and a source of randomness. -/
structure Handling (σ : Type) where
  settings : Plugin.Settings
  source : σ
  invocation : Plugin.Invocation

/-- The calls that a handling has made so far. -/
def Handling.attempts (handling : Handling σ) : List Bus.Attempt := handling.invocation.trace.attempts

/-- Lets a handling go on up to its next await. -/
def Handling.resume [Json.Nesting] (handling : Handling σ) (draw : Dice.Draw σ) (now : Moment)
    (faults : Bus.Faults) : Handling σ :=
  let (invocation, source) :=
    handling.invocation.resume handling.settings draw faults now handling.source
  { handling with invocation, source }

/-- What goes on beside the host: a message reaches the plugin, or the handling of one goes on. -/
inductive Happening (σ : Type)
  | arrives (message : Plugin.Message) (source : σ)
  | resumes (place : Nat) (now : Moment) (faults : Bus.Faults)

/-- What a happening makes of the handlings, and the calls made in it. Without a listener no message
reaches the plugin. -/
def Happening.take [Json.Nesting] (draw : Dice.Draw σ) (listener : Option Plugin.Settings)
    (handlings : List (Handling σ)) : Happening σ → List (Handling σ) × List Bus.Attempt
  | .arrives message source =>
    match listener with
    | some settings => (handlings ++ [⟨settings, source, .ofMessage message⟩], [])
    | none => (handlings, [])
  | .resumes place now faults =>
    match handlings[place]? with
    | some handling =>
      let resumed := handling.resume draw now faults
      (handlings.set place resumed, resumed.attempts.drop handling.attempts.length)
    | none => (handlings, [])

def Happening.takeAll [Json.Nesting] (draw : Dice.Draw σ) (listener : Option Plugin.Settings) :
    List (Handling σ) → List (Happening σ) → List (Handling σ) × List Bus.Attempt
  | handlings, [] => (handlings, [])
  | handlings, happening :: rest =>
    let (handlings, made) := happening.take draw listener handlings
    let (handlings, others) := takeAll draw listener handlings rest
    (handlings, made ++ others)

/-- Messages reach the plugin from the time that the host asks for a subscription. -/
def listening (plugin listener : Option Plugin.Settings) : Bus.Call → Option Plugin.Settings
  | .subscribe _ => plugin
  | _ => listener

/-- The calls of the host's own, each followed by those made beside it until the next of them. -/
def alongside [Json.Nesting] (draw : Dice.Draw σ) (plugin : Option Plugin.Settings)
    (beside : (index : Nat) → List (Happening σ)) : (index : Nat) →
      (listener : Option Plugin.Settings) → List (Handling σ) → List Bus.Attempt → List Bus.Attempt
  | _, _, _, [] => []
  | index, listener, handlings, attempt :: rest =>
    let listener := listening plugin listener attempt.call
    let (handlings, made) := Happening.takeAll draw listener handlings (beside index)
    attempt :: made ++ alongside draw plugin beside (index + 1) listener handlings rest

/-- A run beside its handlers: the host after it, the calls on the bus, and how its start ended. -/
structure Course where
  host : Host
  attempts : List Bus.Attempt
  ending : Ending

def Course.calls (course : Course) : List Bus.Call := course.attempts.map (·.call)

/-- The status of a run beside its handlers is that of its start. -/
def Course.exitCode (course : Course) : Nat := course.ending.exitCode

/-- The settings of the plugin that the host makes, if it can make one. -/
def pluginSettings? (host : Host) : Option Plugin.Settings :=
  host.newPlugin.toOption.map (·.settings)

/-- The calls by which a host starts, and stops on every way out. -/
def ownAttempts (host : Host) (faults : Bus.Faults) (interruption : Wait) : List Bus.Attempt :=
  let start := host.start faults 0 interruption
  start.trace.attempts ++ (start.host.stop faults start.trace.attempts.length).2.attempts

/-- Starts the host and stops it on every way out. What goes on beside it is given for each of its
calls, up to the next one. -/
def course [Json.Nesting] (host : Host) (draw : Dice.Draw σ) (faults : Bus.Faults) (interruption : Wait)
    (beside : (index : Nat) → List (Happening σ)) : Course :=
  let start := host.start faults 0 interruption
  { host := (start.host.stop faults start.trace.attempts.length).1
    attempts := alongside draw host.pluginSettings? beside 0 none []
      (host.ownAttempts faults interruption)
    ending := start.ending }

end ChatDice.Host
