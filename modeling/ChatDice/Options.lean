import ChatDice.Text.Quoted
import ChatDice.Text.Words

/-!
The options of the command line. An option may be cut short as long as it stays the only one
that fits, and its value may follow it directly after an equals sign. All words are classified
before the first of them takes effect.
-/

namespace ChatDice

/-- What an option is given: a text, or no item at all, which is what two hyphens after an equals
sign leave. -/
inductive Options.Value
  | text (text : Text)
  | empty
  deriving DecidableEq, Repr

structure Options where
  config : Options.Value
  logLevel : Option Options.Value
  deriving DecidableEq, Repr

namespace Options

def default : Options := ⟨.text "config.json", none⟩

/-- The levels that can be asked for. -/
def levelChoices : List Text := ["DEBUG", "INFO", "WARNING", "ERROR"]

inductive Name
  | help
  | config
  | logLevel
  deriving DecidableEq, Repr

/-- Every spelling of every option. -/
def spellings : List (Text × Name) :=
  [("-h", .help), ("--help", .help), ("--config", .config), ("--log-level", .logLevel)]

/-- An option as it stands in messages. -/
def Name.shown : Name → Text
  | .help => "-h/--help"
  | .config => "--config"
  | .logLevel => "--log-level"

/-- What is wrong with a command line. -/
inductive Misuse
  | ambiguous (given : Text) (matching : List Text)
  | missingValue (option : Name)
  | unwantedValue (option : Name) (value : Text)
  | notChoice (value : Text)
  | unrecognized (words : List Text)
  deriving DecidableEq, Repr

/-- Why a command line gives no options. -/
inductive Stop
  | help
  | misuse (misuse : Misuse)
  deriving DecidableEq, Repr

def Misuse.message : Misuse → Text
  | .ambiguous given matching =>
    "ambiguous option: " ++ given ++ " could match " ++ Text.join ", " matching
  | .missingValue option => "argument " ++ option.shown ++ ": expected one argument"
  | .unwantedValue option value =>
    "argument " ++ option.shown ++ ": ignored explicit argument " ++ value.quoted
  | .notChoice value =>
    "argument --log-level: invalid choice: " ++ value.quoted ++ " (choose from "
      ++ Text.join ", " (levelChoices.map Text.quoted) ++ ")"
  | .unrecognized words => "unrecognized arguments: " ++ Text.join " " words

/-- The synopsis of the command line. -/
def usage : Text :=
  "usage: dicebot.py [-h] [--config CONFIG]\n                  [--log-level \x7b"
    ++ Text.join "," levelChoices ++ "\x7d]\n"

/-- The help on all options. -/
def helpText : Text :=
  usage ++ "\nDicebot dice roller plugin host\n\noptions:\n"
    ++ "  -h, --help            show this help message and exit\n"
    ++ "  --config CONFIG       Path to JSON or YAML config file (default:\n"
    ++ "                        config.json)\n"
    ++ "  --log-level \x7b" ++ Text.join "," levelChoices ++ "\x7d\n"
    ++ "                        Logging level (overrides the config file)\n"

/-- The line that reports misuse. -/
def Misuse.line (misuse : Misuse) : Text := "dicebot.py: error: " ++ misuse.message

def Stop.message : Stop → Text
  | .help => []
  | .misuse wrong => wrong.line

/-- The status that the program ends with. -/
def Stop.exitCode : Stop → Nat
  | .help => 0
  | .misuse _ => 2

/-- A word of the command line. To an option something may be attached: what follows an equals
sign, or follows a short form at once. -/
inductive Word
  | plain (text : Text)
  | unknown (text : Text)
  | option (name : Name) (short : Bool) (attached : Option Text)
  deriving DecidableEq, Repr

private def hyphen : CodePoint := CodePoint.ofChar '-'

private def isShort (spelling : Text) : Bool := !spelling.startsWith "--"

/-- A word before its first equals sign, and what follows the sign. -/
def splitAtEquals (word : Text) : Text × Option Text :=
  let before := word.takeWhile (· != CodePoint.ofChar '=')
  match word.drop before.length with
  | [] => (word, none)
  | _ :: after => (before, some after)

/-- The options that a word may be meant for: by a beginning with two hyphens, or by the short
form with whatever follows it. -/
def candidates (word : Text) : List (Text × Word) :=
  if word.startsWith "--" then
    let (beginning, attached) := splitAtEquals word
    spellings.filterMap fun (spelling, name) =>
      if spelling.startsWith beginning then some (spelling, .option name (isShort spelling) attached)
      else none
  else
    spellings.filterMap fun (spelling, name) =>
      if spelling = word.take 2 then some (spelling, .option name true (some (word.drop 2)))
      else if spelling.startsWith word then some (spelling, .option name (isShort spelling) none)
      else none

/-- A hyphen and a decimal number without an exponent. A line feed at the end is passed over. -/
def isNegativeNumber (word : Text) : Bool :=
  let body := word.drop 1
  let body := if body.getLast? = some (CodePoint.ofChar '\n') then body.dropLast else body
  let fraction := body.dropWhile CodePoint.isDecimal
  (!body.isEmpty && fraction.isEmpty)
    || match fraction with
      | point :: digits =>
        point = CodePoint.ofChar '.' && !digits.isEmpty && digits.all CodePoint.isDecimal
      | [] => false

/-- What a word is, apart from the two hyphens that end the options. -/
def classify (word : Text) : Except Misuse Word :=
  if word.head? != some hyphen then .ok (.plain word)
  else match spellings.find? fun entry => entry.1 = word with
    | some (spelling, name) => .ok (.option name (isShort spelling) none)
    | none =>
      if word.length = 1 then .ok (.plain word)
      else
        let (before, attached) := splitAtEquals word
        match spellings.find? fun entry => entry.1 = before with
        | some (spelling, name) => .ok (.option name (isShort spelling) attached)
        | none =>
          match candidates word with
          | [(_, meant)] => .ok meant
          | [] =>
            if isNegativeNumber word || word.contains (CodePoint.ofChar ' ') then .ok (.plain word)
            else .ok (.unknown word)
          | several => .error (.ambiguous word (several.map (·.1)))

/-- Two hyphens end the options; they and all words after them are left over. -/
def classifyAll : List Text → Except Misuse (List Word)
  | [] => .ok []
  | word :: rest =>
    if word = "--" then .ok ((word :: rest).map .unknown)
    else do
      let first ← classify word
      return first :: (← classifyAll rest)

/-- What is attached to the short form of help is read as more short forms; from the first
character that is none on it is an unwanted value, and so is nothing after an equals sign. -/
def attachedToHelp (short : Bool) (attached : Text) : Stop :=
  let unwanted := if short then attached.dropWhile (· = CodePoint.ofChar 'h') else attached
  if unwanted.isEmpty && !attached.isEmpty then .help else .misuse (.unwantedValue .help unwanted)

/-- Two hyphens are no value but the end of the options. -/
def Value.ofText (given : Text) : Value := if given = "--" then .empty else .text given

/-- The text of a value that is none of the choices. Where there is no text, nothing is chosen. -/
def Value.notChoice? : Value → Option Text
  | .text given => if levelChoices.contains given then none else some given
  | .empty => none

/-- Stores the value of an option. -/
def store (options : Options) (name : Name) (given : Text) : Except Stop Options :=
  let value := Value.ofText given
  match name with
  | .help => .error .help
  | .config => .ok { options with config := value }
  | .logLevel =>
    match value.notChoice? with
    | some wrong => .error (.misuse (.notChoice wrong))
    | none => .ok { options with logLevel := some value }

/-- Lets the words take effect in order; `left` are the words left over so far. -/
def applyAll (options : Options) (left : List Text) : List Word → Except Stop Options
  | [] => if left.isEmpty then .ok options else .error (.misuse (.unrecognized left))
  | .plain t :: rest => applyAll options (left ++ [t]) rest
  | .unknown t :: rest => applyAll options (left ++ [t]) rest
  | .option .help _ none :: _ => .error .help
  | .option .help short (some t) :: _ => .error (attachedToHelp short t)
  | .option name _ (some t) :: rest => do applyAll (← options.store name t) left rest
  | .option name _ none :: rest =>
    match rest with
    | .plain value :: rest => do applyAll (← options.store name value) left rest
    | _ => .error (.misuse (.missingValue name))

def parse (words : List Text) : Except Stop Options :=
  match classifyAll words with
  | .error misuse => .error (.misuse misuse)
  | .ok words => applyAll default [] words

end Options

end ChatDice
