import ChatDice.Datum.Shown
import ChatDice.Logging.Hierarchy

/-!
What loggers have written. A record goes to the handlers of its logger and of all loggers above it,
and whether it is let through is decided by the nearest of them that has a level.
-/

namespace ChatDice.Logging

/-- The template of a handler that was given none. -/
def defaultTemplate : Text := "%(message)s"

/-- The loggers, and what has been written so far. -/
structure Journal where
  hierarchy : Hierarchy
  storage : Storage
  memoryStream : Text
  errorStream : Text
  deriving Repr

namespace Journal

def ofStorage (storage : Storage) : Journal := ⟨.initial, storage, [], []⟩

def logger (journal : Journal) (name : Text) : Logger := journal.hierarchy.logger (canonicalName name)

def root (journal : Journal) : Logger := journal.logger rootName

/-- Takes a logger into use. -/
def use (journal : Journal) (name : Text) : Journal :=
  { journal with hierarchy := journal.hierarchy.use (canonicalName name) }

/-- Changes a logger, which is taken into use first. -/
def modifyLogger (journal : Journal) (name : Text) (change : Logger → Logger) : Journal :=
  let journal := journal.use name
  { journal with hierarchy := journal.hierarchy.modify (canonicalName name) change }

/-- Only records of positive levels are ever let through. -/
def admits (journal : Journal) (record : Record) : Bool :=
  0 < record.level && journal.hierarchy.effectiveLevel (canonicalName record.logger) ≤ record.level

/-- The time of a record as its line shows it. -/
def timeText (time : Moment) : Text :=
  let seconds : Moment := { time with microsecond := 0, offset := none }
  seconds.iso " " ++ "," ++ Numeral.padded 3 (time.microsecond / 1000)

/-- Attributes of a record that differ from run to run, so nothing of them is known. -/
def unknownAttributes : List Text :=
  ["pathname", "filename", "module", "lineno", "funcName", "created", "msecs", "relativeCreated",
    "thread", "process"]

/-- The attributes of a record that a template can name. -/
def attribute? (record : Record) (time : Moment) (key : Text) : Option Attribute :=
  if key = "name" then some (.text (canonicalName record.logger))
  else if key = "message" || key = "msg" then some (.text record.text)
  else if key = "levelname" then some (.text (Level.name record.level))
  else if key = "levelno" then some (.number record.level)
  else if key = "asctime" then some (.text (timeText time))
  else if key = "threadName" then some (.text "MainThread")
  else if key = "processName" then some (.text "MainProcess")
  else if key = "args" then some (.shown "()")
  else if key = "exc_info" || key = "exc_text" || key = "stack_info" then some (.shown "None")
  else if unknownAttributes.contains key then some (.shown [])
  else none

/-- All attributes of a record together, as far as they are the same from run to run. -/
def attributes (record : Record) : Attribute :=
  .shown ("\x7b'name': " ++ (canonicalName record.logger).quoted ++ ", 'msg': " ++ record.text.quoted
    ++ ", 'args': (), 'levelname': " ++ (Level.name record.level).quoted ++ ", 'levelno': "
    ++ Numeral.ofInt record.level ++ ", 'pathname': '")

/-- What stands for no character is replaced by a question mark in a file. -/
def fileBytes (t : Text) : List UInt8 :=
  Utf8.encode (t.map fun c => if c.isSurrogate then CodePoint.ofChar '?' else c)

/-- Writes at the end of a target. -/
def write (journal : Journal) (target : Target) (t : Text) : Journal :=
  match target with
  | .errorStream => { journal with errorStream := journal.errorStream ++ t }
  | .memoryStream => { journal with memoryStream := journal.memoryStream ++ t }
  | .file path => { journal with storage := journal.storage.append path (fileBytes t) }
  | .broken => journal

/-- Writes a record's line; a record that does not fit the template is lost. -/
def emit (record : Record) (time : Moment) (journal : Journal) (handler : Handler) : Journal :=
  match Template.render? (attribute? record time) (attributes record) handler.template with
  | some line => journal.write handler.target (line ++ "\n")
  | none => journal

/-- Logs a record. Where no handler is found, a warning or worse goes bare to the error stream. -/
def log (journal : Journal) (time : Moment) (record : Record) : Journal :=
  let journal := journal.use record.logger
  if journal.admits record then
    match journal.hierarchy.handlersFor (canonicalName record.logger) with
    | [] =>
      if Level.warning ≤ record.level then journal.write .errorStream (record.text ++ "\n") else journal
    | handlers => handlers.foldl (emit record time) journal
  else journal

end Journal

end ChatDice.Logging
