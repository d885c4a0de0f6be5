import ChatDice.Config.File

/-!
How loading a configuration file ends: with the entries of a mapping, with a rejection that tells
what to mend, or with a fault that nothing looks for. The first two ends are the settled ones.
-/

namespace ChatDice

namespace Storage

section Names

variable [WorkingDirectory]

theorem read_eq (storage : Storage) (name : Text) :
    storage.read name = match checkName name with
      | .error error => .error error
      | .ok _ =>
        match storage.follow (origin name) (Text.splitOn '/' name) with
        | .error cause => .error (.unopened cause name)
        | .ok path =>
          match storage.lookup path with
          | some (.file bytes) => .ok bytes
          | some .directory => .error (.unopened .isDirectory name)
          | none => .error (.unopened .missing name) := by
  unfold read resolve
  cases checkName name with
  | error => rfl
  | ok _ =>
    cases storage.follow (origin name) (Text.splitOn '/' name) with
    | error => rfl
    | ok path =>
      dsimp only [bind, Except.bind, Except.mapError]
      rcases storage.lookup path with _ | bytes | _ <;> rfl

end Names

end Storage

namespace Config

/-- An end that is no fault: every error is a rejection. -/
def Settled {α : Type} (result : Except Error α) : Prop :=
  ∀ error, result = .error error → ∃ rejection, error = .rejected rejection

namespace Settled

variable {α β : Type}

@[simp]
theorem ok (value : α) : Settled (.ok value : Except Error α) := by
  intro error failed
  cases failed

@[simp]
theorem rejected (rejection : Rejection) : Settled (.error (.rejected rejection) : Except Error α) := by
  intro error failed
  cases failed
  exact ⟨rejection, rfl⟩

end Settled

theorem bind_eq_ok_iff {α β : Type} {first : Except Error α} {next : α → Except Error β} {result : β} :
    first >>= next = .ok result ↔ ∃ value, first = .ok value ∧ next value = .ok result := by
  cases first with
  | error error => exact iff_of_false nofun fun ⟨_, failed, _⟩ => nomatch failed
  | ok value =>
    refine ⟨fun done => ⟨value, rfl, done⟩, ?_⟩
    rintro ⟨other, same, done⟩
    cases same
    exact done

@[simp]
theorem mapError_ok {ε α : Type} (value : α) (change : ε → Error) :
    (Except.ok value : Except ε α).mapError change = .ok value := rfl

@[simp]
theorem mapError_error {ε α : Type} (error : ε) (change : ε → Error) :
    (Except.error error : Except ε α).mapError change = .error (change error) := rfl

theorem mapError_eq_ok_iff {ε α : Type} {result : Except ε α} {change : ε → Error} {value : α} :
    result.mapError change = .ok value ↔ result = .ok value := by
  cases result <;> simp

theorem eq_ok_of_toOption {ε α : Type} {result : Except ε α} {value : α}
    (done : result.toOption = some value) : result = .ok value := by
  cases result <;> simp_all [Except.toOption]

/-- A mapping's entries, or the rejection of whatever else the file holds. -/
def entriesOf (name : Text) (data : Datum) : Except Error Entries :=
  match data.unfolded with
  | .map entries => .ok entries
  | _ => .error (.rejected (.notMapping name))

theorem entriesOf_eq_ok_iff {name : Text} {data : Datum} {entries : Entries} :
    entriesOf name data = .ok entries ↔ data.unfolded = .map entries := by
  unfold entriesOf
  split <;> simp_all

section Yaml

variable [Packages]

theorem readYaml_eq_ok_iff {name : Text} {bytes : List UInt8} {data : Datum} :
    readYaml name bytes = .ok data ↔ Packages.readYaml bytes = .ok data :=
  mapError_eq_ok_iff

end Yaml

section Json

variable [Json.Nesting]

theorem readJson_eq (name : Text) (bytes : List UInt8) :
    readJson name bytes = match Utf8.decode bytes with
      | none => .error .undecodable
      | some t =>
        match Json.readWithin Json.Nesting.loaded t.unifiedBreaks with
        | .ok value => .ok (.ofJson value)
        | .error .malformed => .error (.rejected (.malformed name))
        | .error (.numeralTooLong digits) => .error (.numeral (.read digits))
        | .error .tooDeep => .error .tooDeep := by
  unfold readJson
  cases Utf8.decode bytes <;> rfl

theorem readJson_eq_ok_iff {name : Text} {bytes : List UInt8} {data : Datum} :
    readJson name bytes = .ok data ↔ ∃ t value, Utf8.decode bytes = some t ∧
      Json.readWithin Json.Nesting.loaded t.unifiedBreaks = .ok value ∧ data = .ofJson value := by
  rw [readJson_eq]
  cases Utf8.decode bytes with
  | none => simp
  | some t =>
    cases read : Json.readWithin Json.Nesting.loaded t.unifiedBreaks with
    | ok value => simp [read, eq_comm]
    | error error => cases error <;> simp [read]

end Json

section Files

variable [Storage.WorkingDirectory]

/-- The bytes of a file, or why there are none. -/
def bytesOf (storage : Storage) (name : Text) : Except Error (List UInt8) :=
  (storage.read name).mapError fun error =>
    if error.cause = .nullInName then .unusableName error else .rejected (.unreadable name error)

theorem bytesOf_eq_ok_iff {storage : Storage} {name : Text} {bytes : List UInt8} :
    bytesOf storage name = .ok bytes ↔ storage.read name = .ok bytes :=
  mapError_eq_ok_iff

end Files

variable [Json.Nesting] [Packages]

/-- What a file with this name holds if these are its bytes. -/
def FileHolds (name : Text) (bytes : List UInt8) (data : Datum) : Prop :=
  if isYaml name then Packages.readYaml bytes = .ok data
  else ∃ t value, Utf8.decode bytes = some t ∧
    Json.readWithin Json.Nesting.loaded t.unifiedBreaks = .ok value ∧ data = .ofJson value

theorem FileHolds.of_yaml {name : Text} {bytes : List UInt8} {data : Datum} (yaml : isYaml name = true)
    (read : Packages.readYaml bytes = .ok data) : FileHolds name bytes data := by
  rw [FileHolds, if_pos yaml]
  exact read

/-- The data in a file by the format that its name tells. -/
def parseFile (name : Text) (bytes : List UInt8) : Except Error Datum :=
  if isYaml name then readYaml name bytes else readJson name bytes

theorem parseFile_eq_ok_iff {name : Text} {bytes : List UInt8} {data : Datum} :
    parseFile name bytes = .ok data ↔ FileHolds name bytes data := by
  unfold parseFile FileHolds
  split
  · exact readYaml_eq_ok_iff
  · exact readJson_eq_ok_iff

variable [Storage.WorkingDirectory]

/-- A file with the name holds a mapping with these entries. -/
def Holds (storage : Storage) (name : Text) (entries : Entries) : Prop :=
  ∃ bytes data, storage.read name = .ok bytes ∧ FileHolds name bytes data ∧
    data.unfolded = .map entries

theorem load_eq (storage : Storage) (name : Text) :
    load storage name =
      bytesOf storage name >>= fun bytes => parseFile name bytes >>= entriesOf name := by
  unfold load
  refine congrArg (bytesOf storage name >>= ·) (funext fun bytes => ?_)
  dsimp only [parseFile]
  split
  all_goals
    refine congrArg (_ >>= ·) (funext fun data => ?_)
    unfold entriesOf
    cases data.unfolded <;> rfl

theorem load_eq_ok_iff {storage : Storage} {name : Text} {entries : Entries} :
    load storage name = .ok entries ↔ Holds storage name entries := by
  rw [load_eq]
  simp only [Holds, bind_eq_ok_iff, bytesOf_eq_ok_iff, parseFile_eq_ok_iff, entriesOf_eq_ok_iff]
  constructor
  · rintro ⟨bytes, read, data, held, mapping⟩
    exact ⟨bytes, data, read, held, mapping⟩
  · rintro ⟨bytes, data, read, held, mapping⟩
    exact ⟨bytes, read, data, held, mapping⟩

end Config

end ChatDice
