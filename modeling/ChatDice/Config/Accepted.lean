import ChatDice.Bus
import ChatDice.Config.Checked

/-!
Accepting a configuration: once all checks have passed, logging is set up, and the parameters of
the connection are read last.
-/

namespace ChatDice.Config

structure Accepted where
  entries : Entries
  parameters : Bus.Parameters
  deriving Repr

/-- The template of all log lines. -/
def logTemplate : Text := "[%(asctime).19s] [%(name)s] [%(levelname)s] %(message)s"

/-- A text names a log file; whatever else is true opens a handler that cannot write. -/
def logDestination : Datum → Logging.Destination
  | .str name => .file name
  | _ => .broken

/-- The root logger writes to the error stream, and to a log file if one is given. -/
def setUpLogging [Storage.WorkingDirectory] (journal : Logging.Journal) (checked : Checked) :
    Logging.Journal × Except Error Unit :=
  let journal := journal.configureRoot checked.level logTemplate
  match checked.logging.entry "log_file" .null with
  | .error error => (journal, .error (.notMapping error))
  | .ok logFile =>
    if logFile.truthy then
      let (journal, result) := journal.configure
        { logger := Logging.rootName
          destination := logDestination logFile
          template := .str logTemplate
          level := .int checked.level }
      (journal, result.mapError .logFile)
    else (journal, .ok ())

/-- What a connection is opened with; each value has a default. -/
def connectionParameters (connection : Datum) : Except Error Bus.Parameters := do
  let value (name : String) (default : Datum) : Except Error Datum :=
    (connection.entry name default).mapError .notMapping
  return {
    servers := [← value "url" (.str "nats://localhost:4222")]
    maxReconnectAttempts := ← value "max_reconnect_attempts" (.int (-1))
    reconnectTimeWait := ← value "reconnect_delay" (.int 2)
    connectTimeout := ← value "connection_timeout" (.int 5) }

/-- Loads, checks and accepts a configuration, and sets up logging by it. -/
def accept [Json.Nesting] [Storage.WorkingDirectory] [Packages] (journal : Logging.Journal)
    (name : Text) (override : Datum) : Logging.Journal × Except Error Accepted :=
  match load journal.storage name >>= (check · override) with
  | .error error => (journal, .error error)
  | .ok checked =>
    match setUpLogging journal checked with
    | (journal, .error error) => (journal, .error error)
    | (journal, .ok ()) =>
      (journal, (connectionParameters checked.connection).map fun parameters =>
        { entries := checked.entries, parameters })

end ChatDice.Config
