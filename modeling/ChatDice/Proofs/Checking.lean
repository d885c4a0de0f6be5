import ChatDice.Proofs.Accepting
import ChatDice.Proofs.Configuring

/-!
The order of the checks on a configuration. What is told is the first check that fails, whatever
else is wrong; nothing is set up by then. Once all checks have passed no rejection is left to come,
and what is accepted has set up the root logger.
-/

namespace ChatDice.Config

section Values

variable {rejection : Rejection}

end Values

section SettingUp

variable [Storage.WorkingDirectory]

end SettingUp

/-- The checks on a configuration. -/
inductive Check
  | file
  | version
  | connection
  | level
  deriving DecidableEq

namespace Check

/-- How many checks come before. -/
def place : Check → Nat
  | .file => 0
  | .version => 1
  | .connection => 2
  | .level => 3

variable [Json.Nesting] [Storage.WorkingDirectory] [Packages]
variable (storage : Storage) (name : Text) (override : Datum)

/-- A check that has nothing to object to. All but the first are about the entries in the file. -/
def Passes : Check → Prop
  | .file => ∃ entries, Holds storage name entries
  | .version => ∃ entries version, Holds storage name entries ∧ HasVersion entries version ∧
      Packages.precedes version Packages.least = false
  | .connection => ∃ entries, Holds storage name entries ∧ (connectionOf entries).truthy = true
  | .level => ∃ entries asked level, Holds storage name entries ∧ AsksLevel entries override asked ∧
      (Logging.Level.upperCase asked, level) ∈ Logging.Level.names

end Check

section

variable {storage : Storage} {name : Text} {override : Datum} {entries : Entries} {rejection : Rejection}

variable [Json.Nesting] [Packages]

variable [Storage.WorkingDirectory]

theorem Holds.unique {first second : Entries} (one : Holds storage name first)
    (other : Holds storage name second) : first = second :=
  Except.ok.inj ((load_eq_ok_iff.mpr one).symm.trans (load_eq_ok_iff.mpr other))

end

end ChatDice.Config
