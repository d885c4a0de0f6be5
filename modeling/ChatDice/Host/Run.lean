import ChatDice.Host
import ChatDice.Plugin.Handler

/-!
Whole runs of a host: it starts, handles messages while it waits, and stops when it is
interrupted. A host that fails to start ends the run, and so does an interruption on the way.
-/

namespace ChatDice.Host

variable {σ : Type} [Json.Nesting]

/-- What handling a message comes to for each subscription that it reaches. -/
abbrev Results := List (Except Plugin.HandlerError Unit)

/-- A message with what is given when it arrives: a source of randomness, the time, and the calls
that the bus refuses. -/
structure Arrival (σ : Type) where
  message : Plugin.Message
  source : σ
  now : Moment
  faults : Bus.Faults

/-- Handles an arrival for one plugin after another, each with the source as given. -/
def handleAll (draw : Dice.Draw σ) (arrival : Arrival σ) :
    (index : Nat) → List Plugin.Settings → Results × Bus.Trace
  | _, [] => ([], .empty)
  | index, settings :: rest =>
    let plan := (arrival.message.plan draw settings arrival.source).1
    let trace := plan.run arrival.faults arrival.now index
    let (results, traces) := handleAll draw arrival (index + trace.attempts.length) rest
    (plan.result :: results, trace ++ traces)

/-- An arrival reaches every open subscription, in the order in which they were given out. -/
def deliver (host : Host) (draw : Dice.Draw σ) (arrival : Arrival σ) : Results × Bus.Trace :=
  handleAll draw arrival 0 (host.live.map (·.2))

def deliverAll (host : Host) (draw : Dice.Draw σ) : List (Arrival σ) → List Results × Bus.Trace
  | [] => ([], .empty)
  | arrival :: rest =>
    let (results, trace) := host.deliver draw arrival
    let (others, traces) := host.deliverAll draw rest
    (results :: others, trace ++ traces)

/-- A run: the host after it, its trace, how its start ended, and the results of each arrival. -/
structure Run where
  host : Host
  trace : Bus.Trace
  ending : Ending
  delivered : List Results

/-- Only a failed start counts as a failure. -/
def Ending.exitCode : Ending → Nat
  | .failed _ => 1
  | .started => 0
  | .interrupted => 0

/-- The status of a run. -/
def Run.exitCode (run : Run) : Nat := run.ending.exitCode

/-- What is logged of the way a run ends. -/
def Ending.farewell : Ending → Bus.Trace
  | .failed _ => .empty
  | .started => .ofRecords [⟨loggerName, .info, "Received shutdown signal"⟩]
  | .interrupted => .ofRecords [⟨loggerName, .info, "Received shutdown signal"⟩]

/-- Starts the host, lets messages arrive while it waits for them, and stops it on every way out. Each
message is handled to its end when it arrives; nothing arrives at a host that does not wait. -/
def run (host : Host) (draw : Dice.Draw σ) (faults : Bus.Faults) (interruption : Wait)
    (arrivals : List (Arrival σ)) : Run :=
  let start := host.start faults 0 interruption
  let (delivered, handled) := match start.ending with
    | .started => start.host.deliverAll draw arrivals
    | _ => (arrivals.map fun _ => [], .empty)
  let (host, cleanup) := start.host.stop faults start.trace.attempts.length
  { host
    trace := start.trace ++ handled ++ start.ending.farewell ++ cleanup
    ending := start.ending
    delivered }

end ChatDice.Host
