import ChatDice.Json.Writer
import ChatDice.Proofs.Reading

/-!
What can be written. The reader lets no whole number over the limit pass, so that nothing but the
depth of its nesting keeps a value that was read from being written again.
-/

namespace ChatDice.Json

mutual

/-- In how many levels the arrays and objects of a value nest. -/
def depth : Json → Nat
  | .arr list => depthOfItems list + 1
  | .obj list => depthOfMembers list + 1
  | _ => 0

def depthOfItems : List Json → Nat
  | [] => 0
  | item :: rest => max item.depth (depthOfItems rest)

def depthOfMembers : List (Text × Json) → Nat
  | [] => 0
  | (_, value) :: rest => max value.depth (depthOfMembers rest)

end

mutual

/-- No whole number in a value is over the limit. -/
def spellable : Json → Bool
  | .int n => (Numeral.write n).isOk
  | .arr list => spellableItems list
  | .obj list => spellableMembers list
  | _ => true

def spellableItems : List Json → Bool
  | [] => true
  | item :: rest => item.spellable && spellableItems rest

def spellableMembers : List (Text × Json) → Bool
  | [] => true
  | (_, value) :: rest => value.spellable && spellableMembers rest

end

mutual

/-- Where all whole numbers fit, too deep a nesting is the only obstacle. -/
theorem obstacle?_of_spellable : (value : Json) → value.spellable = true → (levels : Nat) →
    value.obstacle? levels = if value.depth ≤ levels then none else some .tooDeep
  | .null, _, levels | .bool _, _, levels | .float _, _, levels | .str _, _, levels => by
    cases levels <;> rfl
  | .int n, fits, levels => by
    have written := Numeral.write_of_lt (Numeral.isOk_write_iff.mp fits)
    cases levels <;> simp [obstacle?, depth, written]
  | .arr list, fits, 0 => by simp [obstacle?, depth]
  | .obj list, fits, 0 => by simp [obstacle?, depth]
  | .arr list, fits, levels + 1 => by
    simp only [obstacle?, depth, obstacleInItems?_of_spellable list fits levels,
      Nat.add_le_add_iff_right]
  | .obj list, fits, levels + 1 => by
    simp only [obstacle?, depth, obstacleInMembers?_of_spellable list fits levels,
      Nat.add_le_add_iff_right]

theorem obstacleInItems?_of_spellable : (list : List Json) → spellableItems list = true →
    (levels : Nat) →
    obstacleInItems? levels list = if depthOfItems list ≤ levels then none else some .tooDeep
  | [], _, levels => by simp [obstacleInItems?, depthOfItems]
  | item :: rest, fits, levels => by
    obtain ⟨first, others⟩ := Bool.and_eq_true_iff.mp fits
    simp only [obstacleInItems?, depthOfItems, obstacle?_of_spellable item first levels,
      obstacleInItems?_of_spellable rest others levels, Nat.max_le]
    by_cases shallow : item.depth ≤ levels <;> simp [shallow]

theorem obstacleInMembers?_of_spellable : (list : List (Text × Json)) →
    spellableMembers list = true → (levels : Nat) →
    obstacleInMembers? levels list = if depthOfMembers list ≤ levels then none else some .tooDeep
  | [], _, levels => by simp [obstacleInMembers?, depthOfMembers]
  | (_, value) :: rest, fits, levels => by
    obtain ⟨first, others⟩ := Bool.and_eq_true_iff.mp fits
    simp only [obstacleInMembers?, depthOfMembers, obstacle?_of_spellable value first levels,
      obstacleInMembers?_of_spellable rest others levels, Nat.max_le]
    by_cases shallow : value.depth ≤ levels <;> simp [shallow]

end

theorem write_of_spellable {value : Json} (fits : value.spellable = true) (levels : Nat) :
    value.write levels = if value.depth ≤ levels then .ok value.render else .error .tooDeep := by
  rw [write, obstacle?_of_spellable value fits]
  by_cases shallow : value.depth ≤ levels <;> simp [shallow]

theorem render_of_write {value : Json} {levels : Nat} {t : Text} (done : value.write levels = .ok t) :
    t = value.render := by
  rw [write] at done
  split at done
  · cases done
    rfl
  · cases done

theorem spellable_int_iff {n : Int} :
    (Json.int n).spellable = true ↔ n.natAbs < 10 ^ Numeral.digitLimit := by
  rw [spellable]
  exact Numeral.isOk_write_iff

theorem spellable_arr_iff {list : List Json} :
    (Json.arr list).spellable = true ↔ ∀ item ∈ list, item.spellable = true := by
  rw [spellable]
  induction list with
  | nil => simp [spellableItems]
  | cons item rest ih => simp [spellableItems, ih]

theorem spellable_obj_iff {list : List (Text × Json)} :
    (Json.obj list).spellable = true ↔ ∀ member ∈ list, member.2.spellable = true := by
  rw [spellable]
  induction list with
  | nil => simp [spellableMembers]
  | cons member rest ih =>
    obtain ⟨name, value⟩ := member
    simp [spellableMembers, ih]

theorem spellable_of_legible {accepts : Text → Prop} {depth : Nat} {value : Json}
    (legible : Legible accepts depth value) : value.spellable = true := by
  induction legible with
  | null | bool | float | str => rfl
  | int small => exact spellable_int_iff.mpr small
  | arr inside ih => exact spellable_arr_iff.mpr ih
  | obj distinct names inside ih => exact spellable_obj_iff.mpr ih

/-- No value that is read has a whole number over the limit. -/
theorem spellable_of_readWithin {levels : Nat} {t : Text} {found : Json}
    (done : readWithin levels t = .ok found) : found.spellable = true := by
  have legible : Legible (fun _ => True) levels found :=
    legible_of_readWithin (fun _ _ => trivial) done
  exact spellable_of_legible legible

theorem mem_of_find? {members : List (Text × Json)} {name : Text} {value : Json}
    (found : find? members name = some value) : (name, value) ∈ members := by
  induction members with
  | nil => cases found
  | cons head rest ih =>
    rw [find?] at found
    split at found
    · rename_i same
      cases found
      rw [← same]
      exact List.mem_cons_self ..
    · exact List.mem_cons_of_mem head (ih found)

end ChatDice.Json
