import ChatDice.Datum.Shown
import ChatDice.Logging.Level

/-!
The message bus as its clients see it: calls that are made or refused. What happens on the bus
and in the log is kept as a trace, so that two runs can be compared.
-/

namespace ChatDice.Bus

/-- What a connection is opened with; the values are those of the configuration. -/
structure Parameters where
  servers : List Datum
  maxReconnectAttempts : Datum
  reconnectTimeWait : Datum
  connectTimeout : Datum
  deriving Repr

/-- A call on the bus. An answer to a request goes back on the request's reply subject. -/
inductive Call
  | connect (parameters : Parameters)
  | subscribe (subject : Text)
  | unsubscribe (subject : Text)
  | publish (subject payload : Text)
  | respond (payload : Text)
  | drain
  | close
  deriving Repr

/-- Which calls of one step are refused, and with what text; the number counts the step's calls
from zero. -/
abbrev Faults := (index : Nat) → Call → Option Text

/-- No call is refused. -/
def Faults.none : Faults := fun _ _ => Option.none

/-- A call that was made, and whether it failed. -/
structure Attempt where
  call : Call
  failed : Bool
  deriving Repr

/-- A call under given faults, with the text of its refusal. -/
def attempt (faults : Faults) (index : Nat) (call : Call) : Attempt × Option Text :=
  let refusal := faults index call
  (⟨call, refusal.isSome⟩, refusal)

/-- What a step leaves on the bus and in the log, each in order. -/
structure Trace where
  attempts : List Attempt
  records : List Logging.Record
  deriving Repr

namespace Trace

def empty : Trace := ⟨[], []⟩

def ofRecords (records : List Logging.Record) : Trace := ⟨[], records⟩

/-- One trace after another. -/
def append (first second : Trace) : Trace :=
  ⟨first.attempts ++ second.attempts, first.records ++ second.records⟩

instance : Append Trace := ⟨append⟩

end Trace

end ChatDice.Bus
