import ChatDice.Calendar
import ChatDice.Text.Quoted

/-!
Why a YAML text has no value. Malformed text is told apart from well-formed text with a scalar that
has no value.
-/

namespace ChatDice.Yaml

inductive Error
  | malformed
  | undecodable
  | tooDeep
  | noSuchCodePoint (number : Nat)
  | numeral (excess : Numeral.Excess)
  | emptyNumeral
  | notInteger (base : Nat) (text : Text)
  | notDecimal (text : Text)
  | beyondDecimal
  | notTruthValue (text : Text)
  | notTimestamp
  | timestampKind (kind : Text)
  | calendar (error : Date.Error)
  deriving DecidableEq, Repr

/-- The most code points of a quoted text that is no whole number. -/
def quotedLimit : Nat := 200

/-- What is said about a scalar without a value; how a text is malformed is left out. -/
def Error.message : Error → Text
  | .malformed => []
  | .undecodable => []
  | .tooDeep => []
  | .noSuchCodePoint number =>
    if number < 2 ^ 31 then "chr() arg not in range(0x110000)"
    else "Python int too large to convert to C int"
  | .numeral excess => excess.message
  | .emptyNumeral => "string index out of range"
  | .notInteger base t =>
    "invalid literal for int() with base " ++ Numeral.ofNat base ++ ": " ++ t.quoted.take quotedLimit
  | .notDecimal t => "could not convert string to float: " ++ t.quoted
  | .beyondDecimal => "int too large to convert to float"
  | .notTruthValue t => t.quoted
  | .notTimestamp => "'NoneType' object has no attribute 'groupdict'"
  | .timestampKind kind => "expected string or bytes-like object, got '" ++ kind ++ "'"
  | .calendar error => error.message

end ChatDice.Yaml
