import ChatDice.Config.Error
import ChatDice.Yaml.Document

/-!
What reads a configuration besides this program: a reader of YAML files, and one of version numbers
that knows their order. All that is relied on is that the least version is one.
-/

namespace ChatDice.Config

class Packages where
  /-- The data of the document in a file. -/
  readYaml : (bytes : List UInt8) → Except Yaml.Error Datum
  Release : Type
  readRelease : (written : Text) → Except Version.Error Release
  precedes : Release → Release → Bool
  least : Release
  readRelease_least : readRelease leastVersion = .ok least

/-- The packages that the program runs with. -/
instance (priority := low) Packages.installed : Packages where
  readYaml := Yaml.read
  Release := Version
  readRelease := Version.parse
  precedes := Version.precedes
  least := .ofRelease [2, 0]
  readRelease_least := by rfl

end ChatDice.Config
