import ChatDice.Plugin.Discovery
import Mathlib.Data.List.Induction
import Mathlib.Data.List.Nodup

/-!
What the names of a plugin module stand for in the end. Each name leads back, statement by statement,
to the class statement that made its class; a module that has gone through the statements binds the
name to this class, and any other name to something that is no class of the module.
-/

namespace ChatDice.Plugin

namespace Statement

/-- The name that a statement gives to a class, to a function, or to what another name stands for. -/
def label? : Statement → Option Text
  | .importClass label => some label
  | .defineClass label => some label
  | .assign (.name label) (.name _) => some label
  | .assign _ _ => none
  | .defineFunction label => some label

def makesClass : Statement → Bool
  | .importClass _ => true
  | .defineClass _ => true
  | .assign _ _ => false
  | .defineFunction _ => false

/-- The class statement that a name leads back to, told by its place; the latest statement comes
first. A later statement for a name hides the earlier ones, and a second name leads to where the
first one led at that time. -/
def definition? : (latestFirst : List Statement) → Text → Option Nat
  | [], _ => none
  | .defineClass label :: earlier, name =>
    if label = name then some earlier.length else definition? earlier name
  | .importClass label :: earlier, name => if label = name then none else definition? earlier name
  | .defineFunction label :: earlier, name => if label = name then none else definition? earlier name
  | .assign (.name label) (.name target) :: earlier, name =>
    if label = name then definition? earlier target else definition? earlier name
  | .assign _ _ :: earlier, name => definition? earlier name

end Statement

open Statement

/-- The place of the class statement that a name leads to after all statements. -/
def definedAt? (statements : List Statement) (name : Text) : Option Nat :=
  definition? statements.reverse name

/-- The number of the class that the statement at a place makes. -/
def classNumber (statements : List Statement) (place : Nat) : Nat :=
  (statements.take place).countP makesClass

/-- After these statements a name stands for something, if only for what it does in every module. -/
def Stands (statements : List Statement) (name : Text) : Prop :=
  (∃ statement ∈ statements, statement.label? = some name) ∨
    (Module.initial.bound? name).isSome = true ∨ (Module.known? name).isSome = true

/-- What a plugin module calls itself. -/
def pluginName : Value := .text "plugin"

section

variable (statements : List Statement) (label target name : Text)

@[simp]
theorem definedAt?_defineClass :
    definedAt? (statements ++ [.defineClass label]) name =
      if label = name then some statements.length else definedAt? statements name := by
  simp [definedAt?, definition?]

@[simp]
theorem definedAt?_importClass :
    definedAt? (statements ++ [.importClass label]) name =
      if label = name then none else definedAt? statements name := by
  simp [definedAt?, definition?]

@[simp]
theorem definedAt?_defineFunction :
    definedAt? (statements ++ [.defineFunction label]) name =
      if label = name then none else definedAt? statements name := by
  simp [definedAt?, definition?]

@[simp]
theorem definedAt?_alias :
    definedAt? (statements ++ [.assign (.name label) (.name target)]) name =
      if label = name then definedAt? statements target else definedAt? statements name := by
  simp [definedAt?, definition?]

theorem stands_concat {statement : Statement} (labelled : statement.label? = some label) :
    Stands (statements ++ [statement]) name ↔ name = label ∨ Stands statements name := by
  simp only [Stands, List.mem_append, List.mem_singleton]
  constructor
  · rintro (⟨other, member | rfl, same⟩ | always)
    · exact .inr (.inl ⟨other, member, same⟩)
    · exact .inl (Option.some.inj (same.symm.trans labelled))
    · exact .inr (.inr always)
  · rintro (rfl | ⟨other, member, same⟩ | always)
    · exact .inl ⟨statement, .inr rfl, labelled⟩
    · exact .inl ⟨other, .inl member, same⟩
    · exact .inr always

end

namespace Module

theorem bound?_bind (module : Module) (name other : Text) (value : Value) :
    (module.bind name value).bound? other = if name = other then some value else module.bound? other := by
  have rebinds (names : List (Text × Value)) :
      ((rebound name value names).find? fun entry => decide (entry.1 = other)).map (·.2) =
        if name = other then some value else (names.find? fun entry => decide (entry.1 = other)).map (·.2) := by
    induction names with
    | nil => by_cases same : name = other <;> simp [rebound, same]
    | cons entry names ih =>
      obtain ⟨first, old⟩ := entry
      by_cases known : first = name
      · by_cases same : name = other <;> simp [rebound, known, same]
      · by_cases here : first = other
        · have differs : name ≠ other := fun same => known (here.trans same.symm)
          rw [rebound, if_neg known]
          simp [here, differs]
        · simpa [rebound, known, here] using ih
  exact rebinds module.names

theorem map_fst_rebound (name : Text) (value : Value) (names : List (Text × Value)) :
    (rebound name value names).map Prod.fst =
      if name ∈ names.map Prod.fst then names.map Prod.fst else names.map Prod.fst ++ [name] := by
  induction names with
  | nil => simp [rebound]
  | cons entry names ih =>
    obtain ⟨first, old⟩ := entry
    by_cases known : first = name
    · simp [rebound, known]
    · rw [rebound, if_neg known, List.map_cons, ih]
      by_cases later : name ∈ names.map Prod.fst <;> simp [later, Ne.symm known]

theorem nodup_rebound {names : List (Text × Value)} (distinct : (names.map Prod.fst).Nodup) (name : Text)
    (value : Value) : ((rebound name value names).map Prod.fst).Nodup := by
  rw [map_fst_rebound]
  split
  · exact distinct
  · rename_i new
    simpa only [List.concat_eq_append] using distinct.concat new

/-- Where each name stands once, an entry is the binding of its name. -/
theorem mem_names_iff {module : Module} (distinct : (module.names.map Prod.fst).Nodup) {name : Text}
    {value : Value} : (name, value) ∈ module.names ↔ module.bound? name = some value := by
  unfold bound?
  generalize module.names = names at distinct
  induction names with
  | nil => simp
  | cons entry names ih =>
    obtain ⟨first, old⟩ := entry
    obtain ⟨alone, others⟩ := List.nodup_cons.mp distinct
    by_cases here : first = name
    · subst here
      have absent : (first, value) ∉ names := fun member =>
        alone (List.mem_map.mpr ⟨_, member, rfl⟩)
      simp [absent, eq_comm]
    · have differs : ¬ name = first := fun same => here same.symm
      simpa [here, differs] using ih others

/-- What is no class of the module itself: a class that is at home elsewhere, or no class. -/
def Foreign (module : Module) : Value → Prop
  | .cls number => ∃ found, module.classes[number]? = some found ∧ found.home.same pluginName = false
  | _ => True

theorem foreign_known {name : Text} {value : Value} (known : known? name = some value) (module : Module) :
    module.Foreign value := by
  unfold known? at known
  split at known
  · cases known; trivial
  · split at known
    · cases known; trivial
    · split at known
      · cases known; trivial
      · split at known
        · cases known; trivial
        · split at known
          · cases known; trivial
          · obtain ⟨other, -, rfl⟩ := Option.map_eq_some_iff.mp known
            trivial

theorem Foreign.home {module : Module} {value : Value} {found : Class} (foreign : module.Foreign value)
    (isClass : module.class? value = some found) : found.home.same pluginName = false := by
  cases value with
  | cls number =>
    obtain ⟨other, there, home⟩ := foreign
    rw [class?, there] at isClass
    cases isClass
    exact home
  | known name =>
    cases isClass
    rfl
  | _ => cases isClass

/-- More classes leave what is no class of the module as it is. -/
theorem Foreign.mono {module : Module} {value : Value} (foreign : module.Foreign value)
    (more : List Class) (names : List (Text × Value)) :
    Foreign ⟨module.classes ++ more, names⟩ value := by
  cases value with
  | cls number =>
    obtain ⟨found, there, home⟩ := foreign
    exact ⟨found, List.getElem?_append_left (List.getElem?_eq_some_iff.mp there).1 ▸ there, home⟩
  | _ => trivial

/-- A value is the class that the statement at a place defines. -/
def IsDefinition (module : Module) (statements : List Statement) (value : Value) (place : Nat) : Prop :=
  ∃ label, statements[place]? = some (.defineClass label) ∧
    value = .cls (classNumber statements place) ∧
    module.classes[classNumber statements place]? = some ⟨label, pluginName⟩

theorem IsDefinition.mono {module : Module} {statements : List Statement} {value : Value} {place : Nat}
    (defines : module.IsDefinition statements value place) (statement : Statement)
    (more : List Class) (names : List (Text × Value)) :
    IsDefinition ⟨module.classes ++ more, names⟩ (statements ++ [statement]) value place := by
  obtain ⟨label, there, same, made⟩ := defines
  have inside := (List.getElem?_eq_some_iff.mp there).1
  have number : classNumber (statements ++ [statement]) place = classNumber statements place := by
    rw [classNumber, List.take_append_of_le_length (Nat.le_of_lt inside), classNumber]
  refine ⟨label, ?_, number ▸ same, ?_⟩
  · rw [List.getElem?_append_left inside, there]
  · rw [number, List.getElem?_append_left (List.getElem?_eq_some_iff.mp made).1, made]

/-- What a module is after statements that leave its own name alone. -/
structure Tracks (module : Module) (statements : List Statement) : Prop where
  distinct : (module.names.map Prod.fst).Nodup
  selfName : module.bound? ownName = some pluginName
  numbered : module.classes.length = statements.countP makesClass
  definition : ∀ name place, definedAt? statements name = some place →
    ∃ value, module.bound? name = some value ∧ module.IsDefinition statements value place
  foreign : ∀ name value, definedAt? statements name = none → module.bound? name = some value →
    module.Foreign value
  stands : ∀ name, ((module.bound? name).or (known? name)).isSome = true ↔ Stands statements name

theorem distinct_initial : (initial.names.map Prod.fst).Nodup := by decide +kernel

theorem tracks_initial : initial.Tracks [] where
  distinct := distinct_initial
  selfName := rfl
  numbered := rfl
  definition := nofun
  foreign name value _ bound := by
    have entry := (mem_names_iff distinct_initial).mpr bound
    simp only [initial, List.mem_cons, Prod.mk.injEq, List.not_mem_nil, or_false] at entry
    rcases entry with ⟨-, rfl⟩ | ⟨-, rfl⟩ | ⟨-, rfl⟩ <;> trivial
  stands name := by simp [Stands, Option.isSome_or]

/-- A statement that binds a name to a value, and may have made a class for it. -/
theorem Tracks.concat {module : Module} {statements : List Statement} (tracks : module.Tracks statements)
    {statement : Statement} {label : Text} (value : Value) (more : List Class) (place? : Option Nat)
    (labelled : statement.label? = some label) (spared : label ≠ ownName)
    (numbered : more.length = if statement.makesClass then 1 else 0)
    (leads : ∀ name, definedAt? (statements ++ [statement]) name =
      if label = name then place? else definedAt? statements name)
    (defines : ∀ place, place? = some place → IsDefinition
      ⟨module.classes ++ more, rebound label value module.names⟩ (statements ++ [statement]) value place)
    (foreign : place? = none → Foreign ⟨module.classes ++ more, rebound label value module.names⟩ value) :
    Tracks ⟨module.classes ++ more, rebound label value module.names⟩ (statements ++ [statement]) := by
  have binds (name : Text) : bound? ⟨module.classes ++ more, rebound label value module.names⟩ name =
      if label = name then some value else module.bound? name := bound?_bind module label name value
  refine ⟨nodup_rebound tracks.distinct label value, ?_, ?_, fun name place leadsTo => ?_,
    fun name other leadsNowhere bound => ?_, fun name => ?_⟩
  · rw [binds, if_neg spared, tracks.selfName]
  · simp only [List.length_append, List.countP_append, List.countP_singleton, tracks.numbered, numbered]
  · rw [leads] at leadsTo
    rw [binds]
    split at leadsTo <;> rename_i here
    · exact ⟨value, if_pos here, defines place leadsTo⟩
    · obtain ⟨other, bound, definition⟩ := tracks.definition name place leadsTo
      exact ⟨other, (if_neg here).trans bound, definition.mono statement more _⟩
  · rw [leads] at leadsNowhere
    rw [binds] at bound
    split at leadsNowhere <;> rename_i here
    · rw [if_pos here] at bound
      exact Option.some.inj bound ▸ foreign leadsNowhere
    · rw [if_neg here] at bound
      exact (tracks.foreign name other leadsNowhere bound).mono more _
  · rw [stands_concat statements label name labelled, ← tracks.stands, binds]
    split <;> rename_i here
    · simp [here]
    · simp [Ne.symm here]

theorem after_alias (module : Module) (label target : Text) :
    module.after (.assign (.name label) (.name target)) =
      match (module.bound? target).or (known? target) with
      | some value => .ok (module.bind label value)
      | none => .error ⟨target⟩ := by
  simp only [after, Expression.value]
  cases found : (module.bound? target).or (known? target) <;> simp [found] <;> rfl

theorem exists_alias {target value : Expression} {label : Text}
    (labelled : (Statement.assign target value).label? = some label) :
    ∃ old, target = .name label ∧ value = .name old := by
  cases target with
  | name other =>
    cases value with
    | name old =>
      cases labelled
      exact ⟨old, rfl, rfl⟩
    | _ => cases labelled
  | _ => cases labelled

theorem other_foreign : Value.same (.text otherModule) pluginName = false := by decide +kernel

/-- One more statement is followed, unless it is a second name for what stands for nothing. -/
theorem Tracks.after {module : Module} {statements : List Statement} (tracks : module.Tracks statements)
    {statement : Statement} {label : Text} (labelled : statement.label? = some label)
    (spared : label ≠ ownName) :
    (∃ next, module.after statement = .ok next ∧ next.Tracks (statements ++ [statement])) ∨
      ∃ target, statement = .assign (.name label) (.name target) ∧ ¬ Stands statements target ∧
        module.after statement = .error ⟨target⟩ := by
  cases statement with
  | importClass name =>
    cases labelled
    have made : Foreign ⟨module.classes ++ [⟨label, .text otherModule⟩],
        rebound label (.cls module.classes.length) module.names⟩ (.cls module.classes.length) :=
      ⟨⟨label, .text otherModule⟩, List.getElem?_concat_length, other_foreign⟩
    exact .inl ⟨_, rfl, tracks.concat _ _ none rfl spared rfl (by simp) nofun fun _ => made⟩
  | defineClass name =>
    cases labelled
    have number : classNumber (statements ++ [.defineClass label]) statements.length =
        module.classes.length := by
      rw [classNumber, List.take_left, tracks.numbered]
    have home : module.selfName = pluginName := by
      rw [Module.selfName, tracks.selfName, Option.getD_some]
    refine .inl ⟨_, rfl, ?_⟩
    rw [home]
    refine tracks.concat _ _ (some statements.length) rfl spared rfl (by simp) ?_ nofun
    rintro place ⟨⟩
    refine ⟨label, List.getElem?_concat_length, by rw [number], ?_⟩
    rw [number]
    exact List.getElem?_concat_length
  | defineFunction name =>
    cases labelled
    have next : Tracks ⟨module.classes ++ [], rebound label (.other true) module.names⟩
        (statements ++ [.defineFunction label]) :=
      tracks.concat _ _ none rfl spared rfl (by simp) nofun fun _ => trivial
    rw [List.append_nil] at next
    exact .inl ⟨_, rfl, next⟩
  | assign target value =>
    obtain ⟨old, rfl, rfl⟩ := exists_alias labelled
    rw [after_alias]
    cases stands : (module.bound? old).or (known? old) with
    | none =>
      refine .inr ⟨old, rfl, fun there => ?_, rfl⟩
      have present := (tracks.stands old).mpr there
      rw [stands] at present
      cases present
    | some value =>
      have defines (place : Nat) (leads : definedAt? statements old = some place) :
          module.IsDefinition statements value place := by
        obtain ⟨other, bound, definition⟩ := tracks.definition old place leads
        rw [bound, Option.some_or] at stands
        exact Option.some.inj stands ▸ definition
      have foreign (leads : definedAt? statements old = none) : module.Foreign value := by
        cases bound : module.bound? old with
        | none =>
          rw [bound, Option.none_or] at stands
          exact foreign_known stands module
        | some other =>
          rw [bound, Option.some_or] at stands
          exact Option.some.inj stands ▸ tracks.foreign old other leads bound
      have next := tracks.concat value [] (definedAt? statements old) labelled spared rfl (by simp)
        (fun place leads => (defines place leads).mono _ _ _) fun leads => (foreign leads).mono _ _
      rw [List.append_nil] at next
      exact .inl ⟨_, rfl, next⟩

/-- Every statement gives a name to something, and none to what the module answers for itself by: what
it is called, and what it holds. -/
def Plain (statements : List Statement) : Prop :=
  ∀ statement ∈ statements, ∃ label, statement.label? = some label ∧ label ∉ [ownName, "__dir__"]

/-- Some second name is given to what stands for nothing at that time. -/
def Dangles (statements : List Statement) : Prop :=
  ∃ before label target after, statements = before ++ .assign (.name label) (.name target) :: after ∧
    ¬ Stands before target

theorem dangles_concat_iff (statements : List Statement) (statement : Statement) :
    Dangles (statements ++ [statement]) ↔ Dangles statements ∨
      ∃ label target, statement = .assign (.name label) (.name target) ∧ ¬ Stands statements target := by
  constructor
  · rintro ⟨before, label, target, after, same, nowhere⟩
    rcases List.eq_nil_or_concat after with rfl | ⟨rest, last, rfl⟩
    · obtain ⟨rfl, last⟩ := List.append_inj' same rfl
      exact .inr ⟨label, target, List.singleton_inj.mp last, nowhere⟩
    · have parts : statements ++ [statement] =
          (before ++ .assign (.name label) (.name target) :: rest) ++ [last] := by simpa using same
      obtain ⟨rfl, -⟩ := List.append_inj' parts rfl
      exact .inl ⟨before, label, target, rest, rfl, nowhere⟩
  · rintro (⟨before, label, target, after, rfl, nowhere⟩ | ⟨label, target, rfl, nowhere⟩)
    · exact ⟨before, label, target, after ++ [statement], by simp, nowhere⟩
    · exact ⟨statements, label, target, [], rfl, nowhere⟩

theorem ofStatements_concat (statements : List Statement) (statement : Statement) :
    ofStatements (statements ++ [statement]) = ofStatements statements >>= (·.after statement) := by
  simp [ofStatements, List.foldlM_append]

/-- A module follows all its statements, or one of them is a second name for nothing. -/
theorem ofStatements_outcome {statements : List Statement} (plain : Plain statements) :
    (∃ module, ofStatements statements = .ok module ∧ module.Tracks statements ∧ ¬ Dangles statements) ∨
      ∃ error, ofStatements statements = .error error ∧ Dangles statements := by
  induction statements using List.reverseRecOn with
  | nil =>
    refine .inl ⟨initial, rfl, tracks_initial, ?_⟩
    rintro ⟨before, label, target, after, same, -⟩
    simp at same
  | append_singleton statements statement ih =>
    have earlier : Plain statements := fun other member => plain other (List.mem_append_left _ member)
    obtain ⟨label, labelled, spared⟩ := plain statement (List.mem_append_right _ (List.mem_singleton_self _))
    simp only [ofStatements_concat, dangles_concat_iff]
    rcases ih earlier with ⟨module, done, tracks, sound⟩ | ⟨error, failed, dangles⟩
    · rw [done]
      rcases tracks.after labelled (fun own => spared (own ▸ List.mem_cons_self)) with
        ⟨next, after, follows⟩ | ⟨target, rfl, nowhere, failed⟩
      · refine .inl ⟨next, after, follows, ?_⟩
        rintro (dangles | ⟨label, target, rfl, nowhere⟩)
        · exact sound dangles
        · have unbound := Option.not_isSome_iff_eq_none.mp ((tracks.stands target).not.mpr nowhere)
          rw [after_alias, unbound] at after
          cases after
      · exact .inr ⟨_, failed, .inr ⟨label, target, rfl, nowhere⟩⟩
    · rw [failed]
      exact .inr ⟨error, rfl, .inl dangles⟩

end Module

end ChatDice.Plugin
