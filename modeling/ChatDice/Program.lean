import ChatDice.Host
import ChatDice.Options

/-!
The program up to the point where it has a host: the command line is read, and the configuration
that it names is accepted.
-/

namespace ChatDice.Program

/-- Why the program ends before it has a host. The name of the configuration may be no text. -/
inductive Stop
  | options (stop : Options.Stop)
  | nameKind
  | config (error : Config.Error)

/-- The status that the program ends with. -/
def Stop.exitCode : Stop → Nat
  | .options stop => stop.exitCode
  | .nameKind => 1
  | .config _ => 1

def Stop.message : Stop → Text
  | .options stop => stop.message
  | .nameKind => "expected str, bytes or os.PathLike object, not list"
  | .config error => error.message

/-- The line on the error stream about a rejected configuration. -/
def rejectionLine (rejection : Config.Rejection) : Text := "ERROR: " ++ rejection.message

/-- The name of the configuration file. -/
def configName? (words : List Text) : Option Text := do
  match (← (Options.parse words).toOption).config with
  | .text name => return name
  | .empty => none

/-- A level that is asked for as it takes the place of the configured one. What has no item takes
no place. -/
def levelOverride : Option Options.Value → Datum
  | some (.text name) => .str name
  | some .empty => .list []
  | none => .null

/-- The name of the log file that the configuration asks for. -/
def logFileName? [Json.Nesting] [Storage.WorkingDirectory] [Config.Packages] (storage : Storage)
    (words : List Text) : Option Text := do
  let name ← configName? words
  let entries ← (Config.load storage name).toOption
  match (Datum.find? entries "logging").map Datum.unfolded with
  | some (.map logging) =>
    match Datum.find? logging "log_file" with
    | some (.str name) => some name
    | _ => none
  | _ => none

/-- A host for the configuration that the command line names. -/
def prepare [Json.Nesting] [Storage.WorkingDirectory] [Config.Packages] (journal : Logging.Journal)
    (words : List Text) : Logging.Journal × Except Stop Host :=
  match Options.parse words with
  | .error stop => (journal, .error (.options stop))
  | .ok options =>
    match options.config with
    | .empty => (journal, .error .nameKind)
    | .text name =>
      match Config.accept journal name (levelOverride options.logLevel) with
      | (journal, .error error) => (journal, .error (.config error))
      | (journal, .ok accepted) => (journal, .ok (.ofConfig accepted))

end ChatDice.Program
