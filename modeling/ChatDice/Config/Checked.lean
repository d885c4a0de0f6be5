import ChatDice.Config.File

/-!
The checks on a loaded configuration, in their order: the version, the connection section, and
the log level. They read only, so a configuration that fails one of them leaves no trace.
-/

namespace ChatDice.Config

/-- A configuration that passed all checks. Its sections may still be no mappings. -/
structure Checked where
  entries : Entries
  connection : Datum
  logging : Datum
  level : Logging.Level
  deriving Repr

/-- A value in words; a whole number may be too long for that. -/
def shown (d : Datum) : Except Error Text := d.text.mapError .numeral

/-- The level of a name in any case. -/
def levelOf (name : Datum) : Except Error Logging.Level := do
  let name ← shown name
  match Logging.Level.ofName? name with
  | some level => return level
  | none => throw (.rejected (.unknownLevel name))

/-- The version counts as 1.0 where none is given. -/
def checkVersion [Packages] (entries : Entries) : Except Error Unit := do
  let written ← shown ((Datum.find? entries "version").getD (.str "1.0"))
  let version ← (Packages.readRelease written).mapError .version
  let least ← (Packages.readRelease leastVersion).mapError .version
  if Packages.precedes version least then throw (.rejected (.unsupported written))

/-- The connection section, which must not be empty or false. -/
def checkConnection (entries : Entries) : Except Error Datum :=
  let connection := (Datum.find? entries "nats").getD .null
  if connection.truthy then .ok connection else .error (.rejected .noConnection)

/-- The level that was asked for from outside, or else that of the logging section. -/
def checkLevel (logging override : Datum) : Except Error Logging.Level := do
  let name ← if override.truthy then pure override
    else (logging.entry "level" (.str "info")).mapError .notMapping
  levelOf name

def check [Packages] (entries : Entries) (override : Datum) : Except Error Checked := do
  checkVersion entries
  let connection ← checkConnection entries
  let logging := (Datum.find? entries "logging").getD (.map [])
  let level ← checkLevel logging override
  return { entries, connection, logging, level }

end ChatDice.Config
