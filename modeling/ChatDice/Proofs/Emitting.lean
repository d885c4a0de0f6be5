import ChatDice.Logging.Journal
import ChatDice.Proofs.Appending

/-!
What logging one record does. It takes the logger into use, and if the record is let through, every handler
that it reaches writes its line at the end of its own target.
-/

namespace ChatDice.Logging

namespace Journal

theorem hierarchy_write (journal : Journal) (target : Target) (t : Text) :
    (journal.write target t).hierarchy = journal.hierarchy := by
  cases target <;> rfl

theorem hierarchy_emit (record : Record) (time : Moment) (journal : Journal) (handler : Handler) :
    (emit record time journal handler).hierarchy = journal.hierarchy := by
  unfold emit
  split
  · exact hierarchy_write _ _ _
  · rfl

theorem hierarchy_emitAll (record : Record) (time : Moment) (journal : Journal) (handlers : List Handler) :
    (handlers.foldl (emit record time) journal).hierarchy = journal.hierarchy := by
  induction handlers generalizing journal with
  | nil => rfl
  | cons handler handlers ih => rw [List.foldl_cons, ih, hierarchy_emit]

/-- Logging a record takes its logger into use, and does nothing else to the loggers. -/
theorem hierarchy_log (journal : Journal) (time : Moment) (record : Record) :
    (journal.log time record).hierarchy = (journal.use record.logger).hierarchy := by
  unfold log
  dsimp only
  split
  · split
    · split
      · exact hierarchy_write _ _ _
      · rfl
    · exact hierarchy_emitAll _ _ _ _
  · rfl

/-- What a handler writes to the file at a path. -/
def bytesTo (record : Record) (time : Moment) (path : Storage.Path) (handler : Handler) : List UInt8 :=
  if handler.target = .file path then
    match Template.render? (attribute? record time) (attributes record) handler.template with
    | some line => fileBytes (line ++ "\n")
    | none => []
  else []

theorem file?_emit (record : Record) (time : Moment) (journal : Journal) (handler : Handler)
    (path : Storage.Path) :
    (emit record time journal handler).storage.file? path =
      (journal.storage.file? path).map (· ++ bytesTo record time path handler) := by
  unfold emit bytesTo
  cases Template.render? (attribute? record time) (attributes record) handler.template with
  | none => simp
  | some line =>
    cases handler.target with
    | file other =>
      simp only [write, Storage.file?_append, Target.file.injEq]
      by_cases here : other = path
      · simp [here]
      · simp [here, Ne.symm here]
    | _ => simp [write]

theorem file?_emitAll (record : Record) (time : Moment) (journal : Journal) (handlers : List Handler)
    (path : Storage.Path) :
    (handlers.foldl (emit record time) journal).storage.file? path =
      (journal.storage.file? path).map (· ++ handlers.flatMap (bytesTo record time path)) := by
  induction handlers generalizing journal with
  | nil => simp
  | cons handler handlers ih =>
    rw [List.foldl_cons, ih, file?_emit, Option.map_map, List.flatMap_cons]
    simp [Function.comp_def]

/-- A record that is let through is written by all handlers that it reaches. -/
theorem file?_log (journal : Journal) (time : Moment) {record : Record}
    (admitted : (journal.use record.logger).admits record = true) (path : Storage.Path) :
    (journal.log time record).storage.file? path = (journal.storage.file? path).map
      (· ++ ((journal.use record.logger).hierarchy.handlersFor (canonicalName record.logger)).flatMap
        (bytesTo record time path)) := by
  unfold log
  dsimp only
  rw [if_pos admitted]
  split
  · rename_i none
    rw [none]
    split <;> simp [write, use]
  · exact file?_emitAll _ _ _ _ _

theorem storage_log_of_not_admits (journal : Journal) (time : Moment) {record : Record}
    (held : (journal.use record.logger).admits record = false) :
    (journal.log time record).storage = journal.storage := by
  unfold log
  dsimp only
  rw [if_neg (by simp [held])]
  rfl

theorem extendedBy_log (journal : Journal) (time : Moment) (record : Record) :
    journal.storage.ExtendedBy (journal.log time record).storage := by
  cases admitted : (journal.use record.logger).admits record with
  | true =>
    intro path old found
    exact ⟨_, by rw [file?_log journal time admitted, found, Option.map_some]⟩
  | false =>
    rw [storage_log_of_not_admits journal time admitted]
    exact .refl _

end Journal

end ChatDice.Logging
