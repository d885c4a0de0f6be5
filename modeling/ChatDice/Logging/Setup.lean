import ChatDice.Logging.Journal

/-!
Configuring one logger: it gets one more handler and a new level. What is asked for comes from
configuration data and may be of any kind, so each part of it can be refused.
-/

namespace ChatDice.Logging

/-- Where the records of a logger shall go. -/
inductive Destination
  | errorStream
  | memoryStream
  | file (name : Text)
  | broken
  deriving DecidableEq, Repr

structure Setup where
  logger : Text
  destination : Destination
  template : Datum
  level : Datum
  deriving Repr

namespace Setup

/-- Why a setup is refused. -/
inductive Error
  | storage (error : Storage.Error)
  | template (given : Text)
  | templateKind (kind : Text)
  | unknownLevel (name : Text)
  | levelKind (shown : Text)
  | numeral (excess : Numeral.Excess)
  deriving DecidableEq, Repr

def Error.message : Error → Text
  | .storage error => error.message
  | .template given => "Invalid format '" ++ given ++ "' for '%' style"
  | .templateKind kind => "expected string or bytes-like object, got '" ++ kind ++ "'"
  | .unknownLevel name => "Unknown level: " ++ name.quoted
  | .levelKind shown => "Level not an integer or a valid string: " ++ shown
  | .numeral excess => excess.message

/-- The template that is asked for; a false value asks for the default one. -/
def template? (given : Datum) : Except Error Text :=
  if !given.truthy then .ok defaultTemplate
  else match given with
    | .str t => if Template.isValid t then .ok t else .error (.template t)
    | other => .error (.templateKind other.kind)

/-- The level that is asked for, as a number or as an exact name. -/
def threshold? (given : Datum) : Except Error Threshold :=
  match given with
  | .int n => .ok (.number n)
  | .bool b => .ok (.truth b)
  | .str name =>
    match Level.named? name with
    | some level => .ok (.number level)
    | none => .error (.unknownLevel name)
  | other =>
    match other.quoted with
    | .ok shown => .error (.levelKind shown)
    | .error excess => .error (.numeral excess)

end Setup

namespace Journal

variable [Storage.WorkingDirectory]

/-- Opens a destination; a file is created if it is missing. -/
def openTarget (journal : Journal) : Destination → Except Setup.Error (Target × Journal)
  | .errorStream => .ok (.errorStream, journal)
  | .memoryStream => .ok (.memoryStream, journal)
  | .broken => .ok (.broken, journal)
  | .file name =>
    match journal.storage.openToAppend name with
    | .ok (path, storage) => .ok (.file path, { journal with storage })
    | .error error => .error (.storage error)

def addHandler (journal : Journal) (name : Text) (handler : Handler) : Journal :=
  journal.modifyLogger name fun logger => { logger with handlers := logger.handlers ++ [handler] }

def setThreshold (journal : Journal) (name : Text) (threshold : Threshold) : Journal :=
  journal.modifyLogger name fun logger => { logger with threshold }

/-- Opens the destination, checks the template, adds the handler and sets the level, in this
order; what was done before a refusal stays done. -/
def configure (journal : Journal) (setup : Setup) : Journal × Except Setup.Error Unit :=
  match journal.openTarget setup.destination with
  | .error error => (journal, .error error)
  | .ok (target, journal) =>
    match Setup.template? setup.template with
    | .error error => (journal, .error error)
    | .ok template =>
      let journal := journal.addHandler setup.logger ⟨target, template⟩
      match Setup.threshold? setup.level with
      | .error error => (journal, .error error)
      | .ok threshold => (journal.setThreshold setup.logger threshold, .ok ())

/-- Gives the root a level and a handler on the error stream, unless it has a handler. -/
def configureRoot (journal : Journal) (level : Level) (template : Text) : Journal :=
  if journal.root.handlers.isEmpty then
    (journal.addHandler rootName ⟨.errorStream, template⟩).setThreshold rootName (.number level)
  else journal

end Journal

/-- How flushing a log file ends. A handle in an inconsistent state reports an invalid argument,
which is passed over. -/
def flushResult (failure : Option Nat) : Except Nat Unit :=
  match failure with
  | none => .ok ()
  | some code => if code = 22 then .ok () else .error code

end ChatDice.Logging
