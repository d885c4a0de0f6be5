import ChatDice.Storage

/-!
Files that are only written to at their ends. Opening a file to append makes sure that it is there, at the
path of its absolute name, and a write puts bytes behind those that the file holds; nothing that any file
holds is ever taken from it.
-/

namespace ChatDice.Storage

/-- The bytes of the file at a path. -/
def file? (storage : Storage) (path : Path) : Option (List UInt8) :=
  match storage.entry? path with
  | some (.file bytes) => some bytes
  | _ => none

theorem file?_eq_some_iff {storage : Storage} {path : Path} {bytes : List UInt8} :
    storage.file? path = some bytes ↔ storage.entry? path = some (.file bytes) := by
  unfold file?
  split <;> simp_all

/-- The entry of its own that a path has. -/
def own? (entries : List (Path × Entry)) (path : Path) : Option Entry :=
  (entries.find? fun entry => entry.1 = path).map (·.2)

theorem file?_eq (storage : Storage) {path : Path} (inside : path ≠ []) :
    storage.file? path = match own? storage.entries path with
      | some (.file bytes) => some bytes
      | _ => none := by
  have nonempty : path.isEmpty = false := by simpa using inside
  unfold file? entry? own?
  rw [nonempty]
  cases storage.entries.find? fun entry => decide (entry.1 = path) with
  | some found => rfl
  | none =>
    by_cases above : (storage.entries.any fun entry => path.isPrefixOf entry.1) = true
    · simp [above]
    · simp [above]

theorem own?_put (storage : Storage) (path : Path) (entry : Entry) (other : Path) :
    own? (storage.put path entry).entries other =
      if other = path then some entry else own? storage.entries other := by
  unfold put own?
  by_cases there : (storage.entries.any fun old => decide (old.1 = path)) = true
  · rw [if_pos there, List.find?_map, Option.map_map]
    have kept : ((fun old => decide (old.1 = other)) ∘ fun old : Path × Entry =>
        if old.1 = path then (path, entry) else old) = fun old => decide (old.1 = other) := by
      funext old
      by_cases here : old.1 = path <;> simp [here]
    rw [kept]
    cases found : storage.entries.find? fun old => decide (old.1 = other) with
    | none =>
      have absent : other ≠ path := by
        rintro rfl
        obtain ⟨old, member, same⟩ := List.any_eq_true.mp there
        exact List.find?_eq_none.mp found old member same
      simp [absent]
    | some old =>
      have same : old.1 = other := by simpa using List.find?_some found
      by_cases here : other = path <;> simp [same, here]
  · rw [if_neg there]
    by_cases here : other = path
    · subst here
      have missing : storage.entries.find? (fun old => decide (old.1 = other)) = none :=
        List.find?_eq_none.mpr fun old member same => there (List.any_eq_true.mpr ⟨old, member, same⟩)
      simp [List.find?_append, missing]
    · simp [List.find?_append, here, Ne.symm here]

/-- What is put at a path is there, and all other files are as before. -/
theorem file?_put (storage : Storage) {path : Path} (inside : path ≠ []) (bytes : List UInt8) (other : Path) :
    (storage.put path (.file bytes)).file? other =
      if other = path then some bytes else storage.file? other := by
  by_cases outer : other = []
  · subst outer
    rw [if_neg (Ne.symm inside)]
    rfl
  · rw [file?_eq _ outer, file?_eq _ outer, own?_put]
    by_cases here : other = path <;> simp [here]

/-- A write at the end of one file. -/
theorem file?_append (storage : Storage) (path : Path) (bytes : List UInt8) (other : Path) :
    (storage.append path bytes).file? other =
      (storage.file? other).map fun old => if other = path then old ++ bytes else old := by
  unfold append
  split
  · rename_i old found
    have present : storage.file? path = some old := file?_eq_some_iff.mpr found
    have inside : path ≠ [] := by
      rintro rfl
      cases present
    rw [file?_put storage inside]
    by_cases here : other = path
    · simp [here, present]
    · simp [here]
  · rename_i missing
    by_cases here : other = path
    · subst here
      have absent : storage.file? other = none := by
        unfold file?
        split
        · rename_i old found
          exact absurd found (missing old)
        · rfl
      rw [absent]
      rfl
    · simp [here]

section Names

variable [WorkingDirectory]

/-- Wherever components can be followed to, they lead to by themselves. -/
theorem follow_eq_ok {storage : Storage} {path reached : Path} {parts : List Text}
    (follows : storage.follow path parts = .ok reached) : reached = parts.foldl enter path := by
  induction parts generalizing path with
  | nil =>
    cases follows
    rfl
  | cons part parts ih =>
    unfold follow at follows
    split at follows
    · cases follows
    · cases follows
    · split at follows
      · cases follows
      · exact ih follows

theorem resolve_eq_ok {storage : Storage} {name : Text} {path : Path}
    (resolved : storage.resolve name = .ok path) : path = normalised name := by
  unfold resolve at resolved
  cases checked : checkName name with
  | error error =>
    rw [checked] at resolved
    cases resolved
  | ok =>
    rw [checked] at resolved
    cases follows : storage.follow (origin name) (Text.splitOn '/' name) with
    | error cause =>
      rw [follows] at resolved
      cases resolved
    | ok reached =>
      rw [follows] at resolved
      cases resolved
      exact follow_eq_ok follows

/-- The directories down to the working directory come first. -/
theorem lookup_eq {storage : Storage} {path : Path}
    (other : storage.lookup path ≠ some .directory) : storage.lookup path = storage.entry? path := by
  unfold lookup at other ⊢
  split at other
  · exact absurd rfl other
  · rename_i apart
    rw [if_neg apart]

/-- A file that is opened stands at the path of its absolute name afterwards, empty if it is new. -/
theorem openToAppend_eq_ok {storage next : Storage} {name : Text} {path : Path}
    (opened : storage.openToAppend name = .ok (path, next)) :
    path = normalised (absolute name) ∧ ∀ other, next.file? other =
      if other = path then some ((storage.file? path).getD []) else storage.file? other := by
  unfold openToAppend at opened
  cases resolved : storage.resolve (absolute name) with
  | error error =>
    rw [resolved] at opened
    cases opened
  | ok reached =>
    rw [resolved] at opened
    dsimp only [bind, Except.bind] at opened
    cases found : storage.lookup reached with
    | none =>
      rw [found] at opened
      cases opened
      refine ⟨resolve_eq_ok resolved, fun other => ?_⟩
      rw [lookup_eq (by simp [found])] at found
      have inside : path ≠ [] := by
        rintro rfl
        cases found
      have absent : storage.file? path = none := by simp [file?, found]
      rw [file?_put storage inside, absent, Option.getD_none]
    | some entry =>
      cases entry with
      | directory =>
        rw [found] at opened
        cases opened
      | file bytes =>
        rw [found] at opened
        cases opened
        refine ⟨resolve_eq_ok resolved, fun other => ?_⟩
        rw [lookup_eq (by simp [found])] at found
        have present := file?_eq_some_iff.mpr found
        by_cases here : other = path <;> simp [here, present]

end Names

/-- Every file holds what it held before, and perhaps more behind it. -/
def ExtendedBy (storage next : Storage) : Prop :=
  ∀ path old, storage.file? path = some old → ∃ more, next.file? path = some (old ++ more)

theorem ExtendedBy.refl (storage : Storage) : storage.ExtendedBy storage :=
  fun _ old found => ⟨[], by rw [found, List.append_nil]⟩

theorem ExtendedBy.trans {storage middle next : Storage} (first : storage.ExtendedBy middle)
    (second : middle.ExtendedBy next) : storage.ExtendedBy next := by
  intro path old found
  obtain ⟨more, grown⟩ := first path old found
  obtain ⟨rest, grown'⟩ := second path _ grown
  exact ⟨more ++ rest, by rw [grown', List.append_assoc]⟩

theorem extendedBy_openToAppend [WorkingDirectory] {storage next : Storage} {name : Text} {path : Path}
    (opened : storage.openToAppend name = .ok (path, next)) : storage.ExtendedBy next := by
  intro other old found
  rw [(openToAppend_eq_ok opened).2]
  split
  · rename_i here
    exact ⟨[], by rw [← here, found, Option.getD_some, List.append_nil]⟩
  · exact ⟨[], by rw [found, List.append_nil]⟩

end ChatDice.Storage
