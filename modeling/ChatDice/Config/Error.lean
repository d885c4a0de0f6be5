import ChatDice.Logging.Setup
import ChatDice.Version
import ChatDice.Yaml.Error

/-!
What can be wrong with a configuration. A rejection tells the user what to mend; every other
error is a fault that no check looks for.
-/

namespace ChatDice.Config

inductive Rejection
  | unreadable (name : Text) (error : Storage.Error)
  | malformed (name : Text)
  | notMapping (name : Text)
  | unsupported (version : Text)
  | noConnection
  | unknownLevel (name : Text)
  deriving DecidableEq, Repr

/-- The least version of a configuration, as it is written. -/
def leastVersion : Text := "2.0"

/-- How a file is malformed is left out. -/
def Rejection.message : Rejection → Text
  | .unreadable name error => "Cannot read config file " ++ name ++ ": " ++ error.message
  | .malformed name => "Cannot parse config file " ++ name ++ ":"
  | .notMapping name => "Config file " ++ name ++ " must contain a mapping"
  | .unsupported version =>
    "Configuration version " ++ version ++ " not supported (requires " ++ leastVersion ++ " or later)"
  | .noConnection => "Missing 'nats' section in configuration"
  | .unknownLevel name => "Unknown log level: " ++ name

inductive Error
  | rejected (rejection : Rejection)
  | unusableName (error : Storage.Error)
  | undecodable
  | tooDeep
  | numeral (excess : Numeral.Excess)
  | scalar (error : Yaml.Error)
  | version (error : Version.Error)
  | notMapping (error : Datum.NotMapping)
  | logFile (error : Logging.Setup.Error)
  deriving DecidableEq, Repr

/-- Bytes that are no text and too deep a nesting are told by their kind alone. -/
def Error.message : Error → Text
  | .rejected rejection => rejection.message
  | .unusableName error => error.message
  | .undecodable => []
  | .tooDeep => []
  | .numeral excess => excess.message
  | .scalar error => error.message
  | .version error => error.message
  | .notMapping error => error.message
  | .logFile error => error.message

end ChatDice.Config
