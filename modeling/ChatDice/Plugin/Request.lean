import ChatDice.Json.Reader
import ChatDice.Text.Utf8

/-!
Roll requests as they arrive: bytes that should be the UTF-8 form of a JSON object.
-/

namespace ChatDice.Plugin

/-- A message from the bus, with the subject that asks for an answer, if any. -/
structure Message where
  data : List UInt8
  replySubject : Option Text
  deriving Repr

/-- Why a message holds no request. Too deep a nesting is no mere rejection: it ends the
handling. -/
inductive Message.Error
  | malformed
  | notObject (kind : Text)
  | tooDeep
  deriving DecidableEq, Repr

/-- The members of the object that a message holds. -/
def Message.members [Json.Nesting] (message : Message) : Except Message.Error (List (Text × Json)) :=
  match Utf8.decode message.data with
  | none => .error .malformed
  | some t =>
    match Json.read t with
    | .ok (.obj members) => .ok members
    | .ok other => .error (.notObject other.kind)
    | .error .malformed => .error .malformed
    | .error (.numeralTooLong _) => .error .malformed
    | .error .tooDeep => .error .tooDeep

/-- What is asked for, by whom, and how the answer shall come. -/
structure Request where
  channel : Json
  user : Json
  dice : Text
  groups : Bool
  isPrivate : Bool
  deriving Repr

/-- The notation stands under one of two names, the first one winning; what is no text counts as
an empty one. -/
def Request.ofMembers (members : List (Text × Json)) : Request :=
  { channel := (Json.find? members "channel").getD (.str "unknown")
    user := (Json.find? members "user").getD (.str "unknown")
    dice := match (Json.find? members "dice").orElse fun _ => Json.find? members "args" with
      | some (.str dice) => dice
      | _ => []
    groups := ((Json.find? members "groups").getD (.bool false)).truthy
    isPrivate := ((Json.find? members "private").getD (.bool false)).truthy }

end ChatDice.Plugin
