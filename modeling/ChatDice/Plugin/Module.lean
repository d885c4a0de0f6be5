import ChatDice.Plugin.Expression
import ChatDice.Plugin.KnownNames

/-!
What the statements of a plugin module make of it: its classes, and what each of its names stands
for. A class keeps the module that it was defined in, which is told by what that module calls itself
at that moment.
-/

namespace ChatDice.Plugin

/-- What a name can stand for. A class of the module is told by its number, a class that every
module knows by its name; of anything else only its truth may be known. -/
inductive Value
  | cls (number : Nat)
  | known (name : Text)
  | made (maker : Value)
  | text (text : Text)
  | number (n : Nat)
  | truth (b : Bool)
  | nothing
  | items (items : List Value)
  | table (entries : List (Value × Value))
  | other (truth : Bool)
  deriving Repr

namespace Value

def truthy : Value → Bool
  | .cls _ | .known _ => true
  | .made (.known maker) => !emptyMakers.contains maker
  | .made _ => true
  | .text t => !t.isEmpty
  | .number n => n != 0
  | .truth b => b
  | .nothing => false
  | .items parts => !parts.isEmpty
  | .table entries => !entries.isEmpty
  | .other t => t

/-- Whether two values are plainly the same. A truth value is the number 0 or 1; things with parts
are not looked into. -/
def same : Value → Value → Bool
  | .cls a, .cls b => a = b
  | .known a, .known b => a = b
  | .text a, .text b => a = b
  | .number a, .number b => a = b
  | .truth a, .truth b => a = b
  | .number a, .truth b => a = b.toNat
  | .truth a, .number b => a.toNat = b
  | .nothing, .nothing => true
  | _, _ => false

/-- What stands in a list or a table at an index. -/
def item (owner index : Value) : Value :=
  match owner, index with
  | .items parts, .number n => parts[n]?.getD (.other true)
  | .table entries, key => ((entries.find? fun entry => entry.1.same key).map (·.2)).getD (.other true)
  | _, _ => .other true

/-- The class of a value. -/
def maker : Value → Value
  | .cls _ | .known _ => .known "type"
  | .made maker => maker
  | .text _ => .known "str"
  | .number _ => .known "int"
  | .truth _ => .known "bool"
  | .nothing => .known "NoneType"
  | .items _ => .known "list"
  | .table _ => .known "dict"
  | .other _ => .known "object"

end Value

/-- A class: what it is called, and the name of the module that it was defined in. -/
structure Class where
  name : Text
  home : Value
  deriving Repr

/-- A module; the classes are numbered from 0, and each name stands there once. -/
structure Module where
  classes : List Class
  names : List (Text × Value)
  deriving Repr

/-- A name that stands for nothing. -/
structure Unbound where
  name : Text
  deriving DecidableEq, Repr

/-- No more than the first 200 code points of the name are told. -/
def Unbound.message (e : Unbound) : Text := "name '" ++ e.name.take 200 ++ "' is not defined"

namespace Module

/-- The name under which a module finds its own name. -/
def ownName : Text := "__name__"

/-- The module that imported classes come from. -/
def otherModule : Text := "elsewhere"

/-- The module of the classes that every module knows. -/
def knownModule : Text := "builtins"

/-- A plugin module before its first statement. -/
def initial : Module :=
  ⟨[], [(ownName, .text "plugin"), ("__doc__", .nothing), ("__package__", .text [])]⟩

/-- What a module binds a name to. -/
def bound? (module : Module) (name : Text) : Option Value :=
  (module.names.find? fun entry => entry.1 = name).map (·.2)

/-- What a name stands for in every module. -/
def known? (name : Text) : Option Value :=
  if knownClasses.contains name then some (.known name)
  else if name = "None" then some .nothing
  else if name = "True" then some (.truth true)
  else if name = "False" then some (.truth false)
  else if knownObjects.contains name then some (.other true)
  else ((classAliases.find? fun entry => entry.1 = name).map (·.2)).map .known

/-- A later binding replaces an earlier one. -/
def rebound (name : Text) (value : Value) : List (Text × Value) → List (Text × Value)
  | [] => [(name, value)]
  | (other, old) :: rest =>
    if other = name then (other, value) :: rest else (other, old) :: rebound name value rest

def bind (module : Module) (name : Text) (value : Value) : Module :=
  { module with names := rebound name value module.names }

/-- The name that the module gives itself. -/
def selfName (module : Module) : Value := (module.bound? ownName).getD .nothing

/-- The class that a value is. -/
def class? (module : Module) : Value → Option Class
  | .cls number => module.classes[number]?
  | .known name => some ⟨name, .text knownModule⟩
  | _ => none

/-- One more class, and the value that it is. -/
def withClass (module : Module) (name : Text) (home : Value) : Module × Value :=
  ({ module with classes := module.classes ++ [⟨name, home⟩] }, .cls module.classes.length)

/-- Defines a class under a name. -/
def define (module : Module) (name : Text) (home : Value) : Module :=
  let (module, value) := module.withClass name home
  module.bind name value

/-- What a value has under a name. -/
def member (module : Module) (owner : Value) (name : Text) : Value :=
  if name = "__class__" then owner.maker
  else match module.class? owner with
    | none => .other true
    | some found =>
      if name = ownName || name = "__qualname__" then .text found.name
      else if name = "__module__" then found.home
      else .other true

/-- Gives a class of the module another name or another module. -/
def setMember (module : Module) (owner : Value) (name : Text) (value : Value) : Module :=
  let changed (change : Class → Class) : Module :=
    match owner with
    | .cls number => { module with classes := module.classes.modify number change }
    | _ => module
  match value with
  | .text t =>
    if name = ownName then changed fun found => { found with name := t }
    else if name = "__module__" then changed fun found => { found with home := value }
    else module
  | _ => if name = "__module__" then changed fun found => { found with home := value } else module

/-- The module that a table of a class's members names. -/
def namedHome? : Value → Option Value
  | .table entries => (entries.find? fun entry => entry.1.same (.text "__module__")).map (·.2)
  | _ => none

/-- What a call gives. A class made from a name, its ancestors and its members is at home where the
members say, and else in the module itself. -/
def call (module : Module) (callee : Value) (arguments : List Value) : Module × Value :=
  match callee, arguments with
  | .known kind, [value] => (module, if kind = "type" then value.maker else .other true)
  | .known kind, [.text name, _, members] =>
    if kind = "type" then module.withClass name ((namedHome? members).getD module.selfName)
    else (module, .other true)
  | .known _, [] | .cls _, [] => (module, .made callee)
  | _, _ => (module, .other true)

/-- Keys and values in turn as entries. -/
def paired : List Value → List (Value × Value)
  | key :: value :: rest => (key, value) :: paired rest
  | _ => []

end Module

/-- An evaluation may add classes to the module, and ends at a name that stands for nothing. -/
abbrev Evaluation := StateT Module (Except Unbound)

mutual

def Expression.value : Expression → Evaluation Value
  | .name label => do
    match ((← get).bound? label).or (Module.known? label) with
    | some found => return found
    | none => throw ⟨label⟩
  | .number n => return .number n
  | .text t => return .text t
  | .items parts => return .items (← Expression.values parts)
  | .table keysAndValues => return .table (Module.paired (← Expression.values keysAndValues))
  | .member owner label => do
    let owner ← owner.value
    return (← get).member owner label
  | .call callee arguments => do
    let callee ← callee.value
    let arguments ← Expression.values arguments
    modifyGet fun module => (module.call callee arguments).swap
  | .item owner index => return (← owner.value).item (← index.value)
  | .either first second => do
    let value ← first.value
    if value.truthy then return value else second.value
  | .both first second => do
    let value ← first.value
    if value.truthy then second.value else return value
  | .negation operand => return .truth !(← operand.value).truthy
  | .choice condition yes no => do
    if (← condition.value).truthy then yes.value else no.value
  | .other => return .other true

def Expression.values : List Expression → Evaluation (List Value)
  | [] => return []
  | first :: rest => return (← first.value) :: (← Expression.values rest)

end

/-- A statement of a module. What is assigned goes to a name, or to what hangs on a value. -/
inductive Statement
  | importClass (name : Text)
  | defineClass (name : Text)
  | assign (target value : Expression)
  | defineFunction (name : Text)
  deriving Repr

namespace Module

/-- The module after one more statement. -/
def after (module : Module) : Statement → Except Unbound Module
  | .importClass name => .ok (module.define name (.text otherModule))
  | .defineClass name => .ok (module.define name module.selfName)
  | .assign target value => do
    let (value, module) ← value.value.run module
    match target with
    | .name name => return module.bind name value
    | .member owner name =>
      let (owner, module) ← owner.value.run module
      return module.setMember owner name value
    | _ => return module
  | .defineFunction name => .ok (module.bind name (.other true))

def ofStatements (statements : List Statement) : Except Unbound Module :=
  statements.foldlM after initial

end Module

end ChatDice.Plugin
