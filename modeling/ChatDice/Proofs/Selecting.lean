import ChatDice.Proofs.Bindings
import Mathlib.Data.Option.Basic

/-!
Which class a plugin module offers. Of all names that have the right ending and lead to a class
statement of the module, the least one gives the class; what else the module holds, and in which order
it came to that, makes no difference. Loading again gives the same class.
-/

namespace ChatDice

namespace Text

theorem le_refl (t : Text) : le t t = true := by
  induction t with
  | nil => rfl
  | cons c t ih => simpa [le] using ih

theorem le_trans {s t u : Text} (first : le s t = true) (second : le t u = true) : le s u = true := by
  induction s generalizing t u with
  | nil => rfl
  | cons a s ih =>
    cases t with
    | nil => cases first
    | cons b t =>
      cases u with
      | nil => cases second
      | cons c u =>
        simp only [le] at *
        split at first <;> split at second <;> split <;> simp_all
        · exact ih first second
        · omega
        · omega

theorem le_total (s t : Text) : le s t = true ∨ le t s = true := by
  induction s generalizing t with
  | nil => exact .inl rfl
  | cons a s ih =>
    cases t with
    | nil => exact .inr rfl
    | cons b t =>
      by_cases same : a = b
      · simpa [le, same] using ih t
      · have different : a.val ≠ b.val := fun h => same (Fin.ext h)
        simp only [le, same, Ne.symm same, if_false, decide_eq_true_eq]
        omega

theorem le_antisymm {s t : Text} (first : le s t = true) (second : le t s = true) : s = t := by
  induction s generalizing t with
  | nil =>
    cases t with
    | nil => rfl
    | cons b t => cases second
  | cons a s ih =>
    cases t with
    | nil => cases first
    | cons b t =>
      by_cases same : a = b
      · subst same
        simp only [le, if_true] at first second
        rw [ih first second]
      · simp only [le, same, Ne.symm same, if_false, decide_eq_true_eq] at first second
        omega

end Text

namespace Plugin

open Statement

/-- One of some offers, with a name that none of the others goes below. -/
def Least (offers : List (Text × PluginClass)) (chosen : Text × PluginClass) : Prop :=
  chosen ∈ offers ∧ ∀ offer ∈ offers, Text.le chosen.1 offer.1 = true

theorem least_foldl (first : Text × PluginClass) (offers : List (Text × PluginClass)) :
    ∃ chosen, offers.foldl smaller (some first) = some chosen ∧ Least (first :: offers) chosen := by
  induction offers generalizing first with
  | nil => exact ⟨first, rfl, by simp [Least, Text.le_refl]⟩
  | cons offer offers ih =>
    by_cases before : Text.le first.1 offer.1 = true
    · obtain ⟨chosen, found, member, least⟩ := ih first
      refine ⟨chosen, by simpa [smaller, before] using found, ?_, fun other present => ?_⟩
      · rcases List.mem_cons.mp member with same | later
        · simp [same]
        · simp [later]
      · rcases List.mem_cons.mp present with same | present
        · exact same ▸ least first List.mem_cons_self
        rcases List.mem_cons.mp present with same | later
        · exact same ▸ Text.le_trans (least first List.mem_cons_self) before
        · exact least other (List.mem_cons_of_mem _ later)
    · have after := (Text.le_total first.1 offer.1).resolve_left before
      obtain ⟨chosen, found, member, least⟩ := ih offer
      refine ⟨chosen, by simpa [smaller, before] using found, List.mem_cons_of_mem _ member,
        fun other present => ?_⟩
      rcases List.mem_cons.mp present with same | later
      · exact same ▸ Text.le_trans (least offer List.mem_cons_self) after
      · exact least other later

namespace Module

variable {module : Module} {statements : List Statement}

/-- A name with the right ending leads to the class statement at a place. -/
def Candidate (statements : List Statement) (name : Text) (place : Nat) : Prop :=
  name.endsWith classEnding = true ∧ definedAt? statements name = some place

/-- The candidate whose name comes first. -/
def Selects (statements : List Statement) (name : Text) (place : Nat) : Prop :=
  Candidate statements name place ∧
    ∀ other elsewhere, Candidate statements other elsewhere → Text.le name other = true

/-- The class that the statement at a place defines, if it defines one. -/
def classAt? (statements : List Statement) (place : Nat) : Option PluginClass :=
  match statements[place]? with
  | some (.defineClass label) => some ⟨.cls (classNumber statements place), label⟩
  | _ => none

theorem IsDefinition.classAt? {value : Value} {place : Nat}
    (defines : module.IsDefinition statements value place) :
    ∃ found, classAt? statements place = some found ∧ found.value = value ∧
      module.class? value = some ⟨found.name, pluginName⟩ := by
  obtain ⟨label, there, rfl, made⟩ := defines
  exact ⟨⟨_, label⟩, by simp [Module.classAt?, there], rfl, made⟩

theorem selfName_of_tracks (tracks : module.Tracks statements) : module.selfName = pluginName := by
  rw [selfName, tracks.selfName, Option.getD_some]

theorem same_pluginName : pluginName.same pluginName = true := by decide +kernel

theorem offered?_eq_some_iff {entry : Text × Value} {name : Text} {found : PluginClass} :
    module.offered? entry = some (name, found) ↔ entry = (name, found.value) ∧ name.endsWith classEnding = true ∧
      ∃ home, module.class? found.value = some ⟨found.name, home⟩ ∧ home.same module.selfName = true := by
  obtain ⟨label, value⟩ := entry
  obtain ⟨chosen, own⟩ := found
  simp only [offered?, Option.guard_eq_some', Option.bind_eq_bind, Option.bind_eq_some_iff, Bool.and_eq_true,
    Option.pure_def, Option.some.injEq, Prod.mk.injEq, PluginClass.mk.injEq]
  constructor
  · rintro ⟨⟨made, home⟩, isClass, -, ⟨ending, local?⟩, rfl, rfl, rfl⟩
    exact ⟨⟨rfl, rfl⟩, ending, home, isClass, local?⟩
  · rintro ⟨⟨rfl, rfl⟩, ending, home, isClass, local?⟩
    exact ⟨⟨own, home⟩, isClass, (), ⟨ending, local?⟩, rfl, rfl, rfl⟩

/-- A module offers exactly the classes that its names with the right ending lead to. -/
theorem mem_offers_iff (tracks : module.Tracks statements) {name : Text} {found : PluginClass} :
    (name, found) ∈ module.names.filterMap module.offered? ↔
      ∃ place, Candidate statements name place ∧ classAt? statements place = some found := by
  have self := selfName_of_tracks tracks
  simp only [List.mem_filterMap, offered?_eq_some_iff, self]
  constructor
  · rintro ⟨entry, member, rfl, ending, home, isClass, same⟩
    have bound := (mem_names_iff tracks.distinct).mp member
    cases leads : definedAt? statements name with
    | none =>
      have foreign := (tracks.foreign name _ leads bound).home isClass
      rw [same] at foreign
      cases foreign
    | some place =>
      obtain ⟨value, bound', defines⟩ := tracks.definition name place leads
      obtain ⟨made, at?, rfl, isClass'⟩ := defines.classAt?
      obtain ⟨chosen, own⟩ := found
      obtain rfl : chosen = made.value := Option.some.inj (bound.symm.trans bound')
      cases isClass.symm.trans isClass'
      exact ⟨place, ⟨ending, leads⟩, at?⟩
  · rintro ⟨place, ⟨ending, leads⟩, at?⟩
    obtain ⟨value, bound, defines⟩ := tracks.definition name place leads
    obtain ⟨made, at'?, rfl, isClass⟩ := defines.classAt?
    cases at?.symm.trans at'?
    exact ⟨_, (mem_names_iff tracks.distinct).mpr bound, rfl, ending, pluginName, isClass, same_pluginName⟩

theorem exists_classAt?_of_candidate (tracks : module.Tracks statements) {name : Text} {place : Nat}
    (candidate : Candidate statements name place) : ∃ found, classAt? statements place = some found := by
  obtain ⟨value, -, defines⟩ := tracks.definition name place candidate.2
  obtain ⟨found, at?, -⟩ := defines.classAt?
  exact ⟨found, at?⟩

theorem Selects.unique {name other : Text} {place elsewhere : Nat} (first : Selects statements name place)
    (second : Selects statements other elsewhere) : name = other ∧ place = elsewhere := by
  obtain rfl := Text.le_antisymm (first.2 other elsewhere second.1) (second.2 name place first.1)
  exact ⟨rfl, Option.some.inj (first.1.2.symm.trans second.1.2)⟩

/-- Either the first candidate's class is found, or there is no candidate. -/
theorem pluginClass?_outcome (tracks : module.Tracks statements) :
    (∃ name place found, Selects statements name place ∧ classAt? statements place = some found ∧
      module.pluginClass? = some found) ∨
    (∀ name place, ¬ Candidate statements name place) ∧ module.pluginClass? = none := by
  have offers (name : Text) (found : PluginClass) := @mem_offers_iff _ _ tracks name found
  unfold pluginClass?
  generalize module.names.filterMap module.offered? = list at offers
  have offered {name : Text} {place : Nat} (candidate : Candidate statements name place) :
      ∃ found, (name, found) ∈ list := by
    obtain ⟨found, at?⟩ := exists_classAt?_of_candidate tracks candidate
    exact ⟨found, (offers name found).mpr ⟨place, candidate, at?⟩⟩
  cases list with
  | nil =>
    refine .inr ⟨fun name place candidate => ?_, rfl⟩
    obtain ⟨found, member⟩ := offered candidate
    cases member
  | cons first rest =>
    obtain ⟨⟨name, found⟩, chosen, member, least⟩ := least_foldl first rest
    obtain ⟨place, candidate, at?⟩ := (offers name found).mp member
    refine .inl ⟨name, place, found, ⟨candidate, fun other elsewhere another => ?_⟩, at?, ?_⟩
    · obtain ⟨made, present⟩ := offered another
      exact least (other, made) present
    · rw [List.foldl_cons, smaller, chosen, Option.map_some]

/-- The own name of the class of this module that a name leads to. -/
def className? (statements : List Statement) (name : Text) : Option Text := do
  let place ← definedAt? statements name
  let found ← classAt? statements place
  return found.name

theorem className?_of_candidate {name : Text} {place : Nat} (candidate : Candidate statements name place)
    {found : PluginClass} (at? : classAt? statements place = some found) :
    className? statements name = some found.name := by
  simp [className?, candidate.2, at?]

theorem candidate_of_className? {name own : Text} (ending : name.endsWith classEnding = true)
    (named : className? statements name = some own) : ∃ place, Candidate statements name place := by
  cases leads : definedAt? statements name with
  | none => simp [className?, leads] at named
  | some place => exact ⟨place, ending, leads⟩

end Module

/-- What a directory gives, by what became of its module. -/
def loaded (directory : Text) : Except Unbound Module → Except LoadError PluginClass
  | .error error => .error (.unbound error)
  | .ok module =>
    match module.pluginClass? with
    | some found => .ok found
    | none => .error (.noPluginClass directory)

/-- The search path after a number of calls, and what each of them gives. -/
def loadRepeatedly (directory : Text) (module : Except Unbound Module) : (calls : Nat) → List Text →
    List Text × List (Except LoadError PluginClass)
  | 0, searchPath => (searchPath, [])
  | calls + 1, searchPath =>
    let (searchPath, result) := loadClass searchPath directory module
    let (searchPath, results) := loadRepeatedly directory module calls searchPath
    (searchPath, result :: results)

variable (directory : Text) (module : Except Unbound Module)

/-- The search path has no part in what is found. -/
theorem loadClass_eq (searchPath : List Text) :
    loadClass searchPath directory module =
      (if directory ∈ searchPath then searchPath else directory :: searchPath, loaded directory module) := by
  unfold loadClass loaded
  cases module with
  | error error => simp
  | ok module => cases found : module.pluginClass? <;> simp [found]

theorem mem_loadClass_fst (searchPath : List Text) :
    directory ∈ (loadClass searchPath directory module).1 := by
  simp only [loadClass_eq]
  split
  · assumption
  · exact List.mem_cons_self

theorem count_loadClass_fst (searchPath : List Text) :
    (loadClass searchPath directory module).1.count directory = max 1 (searchPath.count directory) := by
  simp only [loadClass_eq]
  split
  · rename_i there
    exact (Nat.max_eq_right (List.count_pos_iff.mpr there)).symm
  · rename_i absent
    rw [List.count_cons_self, List.count_eq_zero.mpr absent]
    rfl

/-- Once the directory is there, the search path stays as it is. -/
theorem loadRepeatedly_of_mem (calls : Nat) {searchPath : List Text} (there : directory ∈ searchPath) :
    loadRepeatedly directory module calls searchPath =
      (searchPath, List.replicate calls (loaded directory module)) := by
  induction calls with
  | zero => rfl
  | succ calls ih =>
    simp only [loadRepeatedly, loadClass_eq, if_pos there, ih, List.replicate_succ]

theorem loadRepeatedly_succ (calls : Nat) (searchPath : List Text) :
    loadRepeatedly directory module (calls + 1) searchPath =
      ((loadClass searchPath directory module).1, List.replicate (calls + 1) (loaded directory module)) := by
  have later := loadRepeatedly_of_mem directory module calls (mem_loadClass_fst directory module searchPath)
  simp only [loadClass_eq] at later ⊢
  simp only [loadRepeatedly, loadClass_eq, later, List.replicate_succ]

section

open ChatDice.Plugin.Module

variable {directory} {statements : List Statement}

/-- What a plugin module gives: its first candidate's class, or nothing for want of a candidate, or
nothing for want of what a second name was to stand for. -/
inductive Gives (statements : List Statement) (directory : Text) : Except LoadError PluginClass → Prop
  | chosen {name : Text} {place : Nat} {found : PluginClass} (sound : ¬ Dangles statements)
      (selects : Selects statements name place) (at? : classAt? statements place = some found) :
      Gives statements directory (.ok found)
  | missing (sound : ¬ Dangles statements) (none : ∀ name place, ¬ Candidate statements name place) :
      Gives statements directory (.error (.noPluginClass directory))
  | unbound {error : Unbound} (dangles : Dangles statements) :
      Gives statements directory (.error (.unbound error))

theorem gives_loaded (plain : Plain statements) (directory : Text) :
    Gives statements directory (loaded directory (ofStatements statements)) := by
  rcases ofStatements_outcome plain with ⟨module, done, tracks, sound⟩ | ⟨error, failed, dangles⟩
  · rw [done, loaded]
    rcases pluginClass?_outcome tracks with ⟨name, place, found, selects, at?, chosen⟩ | ⟨none, nothing⟩
    · rw [chosen]
      exact .chosen sound selects at?
    · rw [nothing]
      exact .missing sound none
  · rw [failed]
    exact .unbound dangles

namespace Gives

variable {result : Except LoadError PluginClass} (gives : Gives statements directory result)
include gives

theorem unbound_iff : (∃ error, result = .error (.unbound error)) ↔ Dangles statements := by
  constructor
  · rintro ⟨error, rfl⟩
    cases gives with
    | unbound dangles => exact dangles
  · intro dangles
    cases gives with
    | chosen sound => exact absurd dangles sound
    | missing sound => exact absurd dangles sound
    | unbound => exact ⟨_, rfl⟩

theorem ok_iff (sound : ¬ Dangles statements) (found : PluginClass) :
    result = .ok found ↔
      ∃ name place, Selects statements name place ∧ classAt? statements place = some found := by
  constructor
  · rintro rfl
    cases gives with
    | chosen _ selects at? => exact ⟨_, _, selects, at?⟩
  · rintro ⟨name, place, selects, at?⟩
    cases gives with
    | chosen _ selects' at?' =>
      obtain ⟨-, rfl⟩ := selects.unique selects'
      exact congrArg Except.ok (Option.some.inj (at?'.symm.trans at?))
    | missing _ none => exact absurd selects.1 (none name place)
    | unbound dangles => exact absurd dangles sound

theorem noPluginClass_iff (sound : ¬ Dangles statements) :
    result = .error (.noPluginClass directory) ↔ ∀ name place, ¬ Candidate statements name place := by
  constructor
  · rintro rfl
    cases gives with
    | missing _ none => exact none
  · intro none
    cases gives with
    | chosen _ selects => exact absurd selects.1 (none _ _)
    | missing => rfl
    | unbound dangles => exact absurd dangles sound

end Gives

/-- Two modules whose names with the right ending lead to classes of the same own names. -/
def SameClasses (one other : List Statement) : Prop :=
  ∀ name, name.endsWith classEnding = true → className? one name = className? other name

theorem SameClasses.symm {others : List Statement} (same : SameClasses statements others) :
    SameClasses others statements :=
  fun name ending => (same name ending).symm

/-- A candidate of one module is one of the other as well. -/
theorem SameClasses.candidate {others : List Statement} (same : SameClasses statements others) {name : Text}
    {place : Nat} {found : PluginClass} (candidate : Candidate statements name place)
    (at? : classAt? statements place = some found) : ∃ elsewhere, Candidate others name elsewhere := by
  have named := className?_of_candidate candidate at?
  rw [same name candidate.1] at named
  exact candidate_of_className? candidate.1 named

/-- The order of the statements has no part in which class is found. -/
theorem SameClasses.map_name_eq {others : List Statement} {one other : Except LoadError PluginClass}
    (same : SameClasses statements others) (sound : ¬ Dangles statements) (sound' : ¬ Dangles others)
    (gives : Gives statements directory one) (gives' : Gives others directory other) :
    one.map (·.name) = other.map (·.name) := by
  cases gives with
  | unbound dangles => exact absurd dangles sound
  | missing _ none =>
    cases gives' with
    | unbound dangles => exact absurd dangles sound'
    | missing => rfl
    | chosen _ selects at? =>
      obtain ⟨place, candidate⟩ := same.symm.candidate selects.1 at?
      exact absurd candidate (none _ place)
  | @chosen name place found _ selects at? =>
    obtain ⟨elsewhere, candidate⟩ := same.candidate selects.1 at?
    cases gives' with
    | unbound dangles => exact absurd dangles sound'
    | missing _ none => exact absurd candidate (none _ elsewhere)
    | @chosen name' place' found' _ selects' at?' =>
      obtain ⟨back, candidate'⟩ := same.symm.candidate selects'.1 at?'
      obtain rfl : name = name' :=
        Text.le_antisymm (selects.2 name' back candidate') (selects'.2 name elsewhere candidate)
      have named := className?_of_candidate selects.1 at?
      rw [same name selects.1.1, className?_of_candidate selects'.1 at?'] at named
      exact congrArg Except.ok (Option.some.inj named).symm

/-- Loading ends at a second name for nothing, if there is one. Otherwise it gives the class of the
first candidate, and fails only for want of a candidate; the order of the statements makes no
difference, and later calls give the same and leave the directory on the search path. -/
theorem loadClass_selects (plain : Plain statements) (searchPath : List Text) (directory : Text) :
    let result := (loadClass searchPath directory (ofStatements statements)).2
    ((∃ error, result = .error (.unbound error)) ↔ Dangles statements) ∧
    (¬ Dangles statements →
      (∀ found, result = .ok found ↔
        ∃ name place, Selects statements name place ∧ classAt? statements place = some found) ∧
      (result = .error (.noPluginClass directory) ↔ ∀ name place, ¬ Candidate statements name place)) ∧
    (∀ others, Plain others → ¬ Dangles statements → ¬ Dangles others → SameClasses statements others →
      result.map (·.name) = (loadClass searchPath directory (ofStatements others)).2.map (·.name)) ∧
    ∀ calls, ∃ path,
      loadRepeatedly directory (ofStatements statements) (calls + 1) searchPath =
        (path, List.replicate (calls + 1) result) ∧
      path.count directory = max 1 (searchPath.count directory) := by
  intro result
  have same : result = loaded directory (ofStatements statements) :=
    congrArg Prod.snd (loadClass_eq directory _ searchPath)
  have gives : Gives statements directory result := same ▸ gives_loaded plain directory
  refine ⟨gives.unbound_iff, fun sound => ⟨gives.ok_iff sound, gives.noPluginClass_iff sound⟩,
    fun others plain' sound sound' classes => ?_, fun calls => ?_⟩
  · have gives' : Gives others directory (loadClass searchPath directory (ofStatements others)).2 := by
      rw [loadClass_eq]
      exact gives_loaded plain' directory
    exact classes.map_name_eq sound sound' gives gives'
  · refine ⟨(loadClass searchPath directory (ofStatements statements)).1, ?_, count_loadClass_fst _ _ _⟩
    rw [same, loadRepeatedly_succ]

/-- An imported class, two classes of the module itself, a second name for one of them, and a function. -/
def mixed : List Statement :=
  [.importClass "APlugin", .defineClass "DPlugin", .defineClass "Base",
    .assign (.name "BPlugin") (.name "Base"), .defineFunction "CPlugin"]

theorem plain_mixed : Plain mixed := by
  simp only [Plain, mixed, List.forall_mem_cons]
  exact ⟨⟨_, rfl, by decide +kernel⟩, ⟨_, rfl, by decide +kernel⟩, ⟨_, rfl, by decide +kernel⟩,
    ⟨_, rfl, by decide +kernel⟩, ⟨_, rfl, by decide +kernel⟩, nofun⟩

theorem loadClass_mixed : (loadClass ["src"] "pdir" (ofStatements mixed)).2 = .ok ⟨.cls 2, "Base"⟩ := by
  rfl

/-- The second name comes first among those that lead to a class of the module. -/
theorem loadClass_selects_mixed :
    Plain mixed ∧ ¬ Dangles mixed ∧
      (∃ name place, Selects mixed name place ∧ classAt? mixed place = some ⟨.cls 2, "Base"⟩) ∧
      ∃ path, loadRepeatedly "pdir" (ofStatements mixed) 3 ["src"] =
        (path, List.replicate 3 (.ok ⟨.cls 2, "Base"⟩)) ∧ path.count ("pdir" : Text) = 1 := by
  have selected := loadClass_selects plain_mixed ["src"] "pdir"
  simp only [loadClass_mixed] at selected
  obtain ⟨unbound, chosen, -, again⟩ := selected
  have sound : ¬ Dangles mixed := fun dangles => by
    obtain ⟨error, same⟩ := unbound.mpr dangles
    cases same
  exact ⟨plain_mixed, sound, ((chosen sound).1 _).mp rfl, again 2⟩

/-- A module that takes another name for itself disowns the class it has defined, and one that has a
second name for nothing is not read to its end. -/
theorem disowned_and_dangling :
    let disowned : List Statement := [.defineClass "BPlugin", .assign (.name ownName) (.name "BPlugin")]
    let dangling : List Statement := [.defineClass "BPlugin", .assign (.name "A") (.name "B")]
    Candidate disowned "BPlugin" 0 ∧
      (loadClass [] "pdir" (ofStatements disowned)).2 = .error (.noPluginClass "pdir") ∧
    Candidate dangling "BPlugin" 0 ∧
      (loadClass [] "pdir" (ofStatements dangling)).2 = .error (.unbound ⟨"B"⟩) := by
  refine ⟨⟨by decide +kernel, by decide +kernel⟩, rfl, ⟨by decide +kernel, by decide +kernel⟩, ?_⟩
  have missing : ((initial.define "BPlugin" initial.selfName).bound? "B").or (known? "B") = none :=
    Option.isNone_iff_eq_none.mp (by decide +kernel)
  have failed : ofStatements [.defineClass "BPlugin", .assign (.name "A") (.name "B")] = .error ⟨"B"⟩ := by
    have opened : ofStatements [.defineClass "BPlugin"] = .ok (initial.define "BPlugin" initial.selfName) := rfl
    have further (statement : Statement) : ofStatements [.defineClass "BPlugin", statement] =
        (initial.define "BPlugin" initial.selfName).after statement := by
      refine (ofStatements_concat [.defineClass "BPlugin"] statement).trans ?_
      rw [opened]
      rfl
    rw [further, after_alias, missing]
  rw [failed]
  rfl

end

end Plugin

end ChatDice
