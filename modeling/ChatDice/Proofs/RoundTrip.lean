import ChatDice.Proofs.Reading
import ChatDice.Proofs.Spelling

/-!
Writing and reading again. A value that the reader gave is read back from its text as it was, its
floating-point numbers apart, which may be rounded anew.
-/

namespace ChatDice

/-- The number that is read from the text of a number. -/
def Binary64.reread (x : Binary64) : Binary64 :=
  match Json.plain x.jsonText with
  | .ok (.float y, _) => y
  | _ => x

namespace Json

mutual

/-- The value with every floating-point number as it is read back. -/
def reread : Json → Json
  | .float x => .float x.reread
  | .arr list => .arr (rereadItems list)
  | .obj list => .obj (rereadMembers list)
  | value => value

def rereadItems : List Json → List Json
  | [] => []
  | item :: rest => item.reread :: rereadItems rest

def rereadMembers : List (Text × Json) → List (Text × Json)
  | [] => []
  | (name, value) :: rest => (name, value.reread) :: rereadMembers rest

end

mutual

/-- No floating-point number stands in a value. -/
def floatless : Json → Bool
  | .float _ => false
  | .arr list => floatlessItems list
  | .obj list => floatlessMembers list
  | _ => true

def floatlessItems : List Json → Bool
  | [] => true
  | item :: rest => item.floatless && floatlessItems rest

def floatlessMembers : List (Text × Json) → Bool
  | [] => true
  | (_, value) :: rest => value.floatless && floatlessMembers rest

end

mutual

theorem reread_of_floatless : (value : Json) → value.floatless = true → value.reread = value
  | .null, _ | .bool _, _ | .int _, _ | .str _, _ => rfl
  | .arr list, floatless => by
    rw [reread, rereadItems_of_floatless list floatless]
  | .obj list, floatless => by
    rw [reread, rereadMembers_of_floatless list floatless]

theorem rereadItems_of_floatless : (list : List Json) → floatlessItems list = true →
    rereadItems list = list
  | [], _ => rfl
  | item :: rest, floatless => by
    obtain ⟨first, others⟩ := Bool.and_eq_true_iff.mp floatless
    rw [rereadItems, reread_of_floatless item first, rereadItems_of_floatless rest others]

theorem rereadMembers_of_floatless : (list : List (Text × Json)) → floatlessMembers list = true →
    rereadMembers list = list
  | [], _ => rfl
  | (name, value) :: rest, floatless => by
    obtain ⟨first, others⟩ := Bool.and_eq_true_iff.mp floatless
    rw [rereadMembers, reread_of_floatless value first, rereadMembers_of_floatless rest others]

end

theorem plain_jsonText (x : Binary64) {rest : Text} (ends : Ends rest) :
    plain (x.jsonText ++ rest) = .ok (.float x.reread, rest) := by
  obtain ⟨y, found⟩ := x.exists_plain_jsonText
  have alone := found [] (by simp [Ends])
  rw [List.append_nil] at alone
  rw [found rest ends, Binary64.reread, alone]

/-- At so much nesting, a value is read from its text wherever nothing follows that could go on
with it. -/
def ReadsBack (depth : Nat) (v : Json) : Prop :=
  ∀ (fuel : Nat) (rest : Text), 2 * v.render.length ≤ fuel → Ends rest →
    value fuel depth (v.render ++ rest) = .ok (v.reread, rest)

theorem value_quote (fuel depth : Nat) (t : Text) :
    value (fuel + 1) depth (CodePoint.ofChar '"' :: t) =
      (stringRest [] t).map fun (s, rest) => (.str s, rest) := rfl

theorem value_bracket (fuel depth : Nat) (t : Text) :
    value (fuel + 1) (depth + 1) (CodePoint.ofChar '[' :: t) =
      match skipBlank t with
      | close :: after =>
        if close = CodePoint.ofChar ']' then .ok (.arr [], after)
        else items fuel depth [] (skipBlank t)
      | [] => .error .malformed := rfl

theorem value_brace (fuel depth : Nat) (t : Text) :
    value (fuel + 1) (depth + 1) (CodePoint.ofChar '{' :: t) =
      match skipBlank t with
      | close :: after =>
        if close = CodePoint.ofChar '}' then .ok (.obj [], after)
        else members fuel depth [] (skipBlank t)
      | [] => .error .malformed := rfl

/-- A word or a number starts with no mark of a text, an array or an object. -/
theorem value_of_plain {t rest : Text} {v : Json} (read : plain t = .ok (v, rest))
    (fuel depth : Nat) : value (fuel + 1) depth t = .ok (v, rest) := by
  cases t with
  | nil => cases read
  | cons c t =>
    have noQuote : c ≠ CodePoint.ofChar '"' := by
      rintro rfl
      cases read
    have noBracket : c ≠ CodePoint.ofChar '[' := by
      rintro rfl
      cases read
    have noBrace : c ≠ CodePoint.ofChar '{' := by
      rintro rfl
      cases read
    rw [← read]
    simp [value, noQuote, noBracket, noBrace]

theorem eq_of_isBlank {c : CodePoint} (blank : isBlank c = true) :
    c = 0x20 ∨ c = 0x09 ∨ c = 0x0A ∨ c = 0x0D := by
  simp only [isBlank, Bool.or_eq_true, beq_iff_eq] at blank
  rcases blank with ((same | same) | same) | same
  · exact .inl (Fin.ext same)
  · exact .inr (.inl (Fin.ext same))
  · exact .inr (.inr (.inl (Fin.ext same)))
  · exact .inr (.inr (.inr (Fin.ext same)))

/-- What starts with a value starts neither with a blank nor with the end of an array. -/
theorem head_of_value {fuel depth : Nat} {t rest : Text} {v : Json}
    (read : value fuel depth t = .ok (v, rest)) :
    ∃ c after, t = c :: after ∧ isBlank c = false ∧ c ≠ CodePoint.ofChar ']' := by
  cases fuel with
  | zero => cases read
  | succ fuel =>
    cases t with
    | nil => cases read
    | cons c after =>
      refine ⟨c, after, rfl, ?_, ?_⟩
      · apply Bool.eq_false_iff.mpr
        intro blank
        rcases eq_of_isBlank blank with rfl | rfl | rfl | rfl <;> cases read
      · rintro rfl
        cases read

theorem readsBack_of_plain {v : Json} (depth : Nat)
    (read : ∀ {rest : Text}, Ends rest → plain (v.render ++ rest) = .ok (v.reread, rest)) :
    ReadsBack depth v := by
  intro fuel rest enough ends
  cases fuel with
  | zero =>
    have empty : v.render = [] := List.length_eq_zero_iff.mp (by omega)
    have alone : plain (v.render ++ []) = .ok (v.reread, []) := read (by simp [Ends])
    rw [empty] at alone
    cases alone
  | succ fuel => exact value_of_plain (read ends) fuel depth

theorem readsBack_str {t : Text} (depth : Nat) (unpaired : t.Unpaired) : ReadsBack depth (.str t) := by
  intro fuel rest enough _
  cases fuel with
  | zero => simp [render, quoted, Text.ofString] at enough
  | succ fuel =>
    have read := stringRest_eq_ok_iff.mpr (literal_of_unpaired unpaired rest)
    have written : (Json.str t).render ++ rest =
        CodePoint.ofChar '"' :: (t.flatMap escape ++ CodePoint.ofChar '"' :: rest) := by
      simp [render, quoted, Text.ofString]
    rw [written, value_quote, read]
    rfl

/-- What stands after the first of several items, and what stands after the only one. -/
theorem renderItems_append (item : Json) (others : List Json) (rest : Text) :
    renderItems (item :: others) ++ CodePoint.ofChar ']' :: rest = item.render ++
      match others with
      | [] => CodePoint.ofChar ']' :: rest
      | next :: others => CodePoint.ofChar ',' :: CodePoint.ofChar ' ' ::
          (renderItems (next :: others) ++ CodePoint.ofChar ']' :: rest) := by
  cases others with
  | nil => rfl
  | cons next others =>
    rw [renderItems, List.append_assoc, List.append_assoc]
    · rfl
    · simp

theorem length_renderItems_cons (item next : Json) (others : List Json) :
    (renderItems (item :: next :: others)).length =
      item.render.length + 2 + (renderItems (next :: others)).length := by
  rw [renderItems, List.length_append, List.length_append]
  · rfl
  · simp

@[simp]
theorem ends_nil : Ends [] := by simp [Ends]

theorem ends_comma (rest : Text) : Ends (CodePoint.ofChar ',' :: rest) := by simp [Ends]

theorem ends_bracket (rest : Text) : Ends (CodePoint.ofChar ']' :: rest) := by simp [Ends]

theorem ends_brace (rest : Text) : Ends (CodePoint.ofChar '}' :: rest) := by simp [Ends]

/-- The items of an array start neither with a blank nor with the end of the array. -/
theorem head_renderItems {depth : Nat} {item : Json} (back : ReadsBack depth item)
    (others : List Json) (rest : Text) :
    ∃ c after, renderItems (item :: others) ++ CodePoint.ofChar ']' :: rest = c :: after ∧
      isBlank c = false ∧ c ≠ CodePoint.ofChar ']' := by
  rw [renderItems_append]
  cases others with
  | nil => exact head_of_value (back _ _ (Nat.le_refl _) (ends_bracket rest))
  | cons next others => exact head_of_value (back _ _ (Nat.le_refl _) (ends_comma _))

theorem skipBlank_renderItems {depth : Nat} {item : Json} (back : ReadsBack depth item)
    (others : List Json) (rest : Text) :
    skipBlank (renderItems (item :: others) ++ CodePoint.ofChar ']' :: rest) =
      renderItems (item :: others) ++ CodePoint.ofChar ']' :: rest := by
  obtain ⟨c, after, same, visible, -⟩ := head_renderItems back others rest
  simp [same, skipBlank, visible]

/-- Reading goes on behind the comma after an item. -/
theorem items_comma {fuel depth : Nat} {done : List Json} {t after : Text} {item : Json}
    (read : value fuel depth t = .ok (item, CodePoint.ofChar ',' :: CodePoint.ofChar ' ' :: after)) :
    items (fuel + 1) depth done t = items fuel depth (item :: done) (skipBlank after) := by
  rw [items, read]
  rfl

theorem items_bracket {fuel depth : Nat} {done : List Json} {t after : Text} {item : Json}
    (read : value fuel depth t = .ok (item, CodePoint.ofChar ']' :: after)) :
    items (fuel + 1) depth done t = .ok (.arr (done.reverse ++ [item]), after) := by
  rw [items, read, ← List.reverse_cons]
  rfl

theorem items_renderItems {depth : Nat} {item : Json} {others : List Json}
    (each : ∀ other ∈ item :: others, ReadsBack depth other) {fuel : Nat} (done : List Json)
    (rest : Text) (enough : 2 * (renderItems (item :: others)).length < fuel) :
    items fuel depth done (renderItems (item :: others) ++ CodePoint.ofChar ']' :: rest) =
      .ok (.arr (done.reverse ++ rereadItems (item :: others)), rest) := by
  induction others generalizing item fuel done with
  | nil =>
    obtain ⟨fuel, rfl⟩ := Nat.exists_eq_succ_of_ne_zero (Nat.ne_zero_of_lt enough)
    have back := each item (List.mem_cons_self ..)
    exact items_bracket (back _ _ (Nat.le_of_lt_succ enough) (ends_bracket rest))
  | cons next others ih =>
    obtain ⟨fuel, rfl⟩ := Nat.exists_eq_succ_of_ne_zero (Nat.ne_zero_of_lt enough)
    obtain ⟨back, further⟩ := List.forall_mem_cons.mp each
    rw [length_renderItems_cons] at enough
    rw [renderItems_append, items_comma (back _ _ (by omega) (ends_comma _)),
      skipBlank_renderItems (further next (List.mem_cons_self ..)), ih further _ (by omega)]
    simp [rereadItems]

theorem readsBack_arr {depth : Nat} {list : List Json} (each : ∀ item ∈ list, ReadsBack depth item) :
    ReadsBack (depth + 1) (.arr list) := by
  intro fuel rest enough _
  have length : (Json.arr list).render.length = (renderItems list).length + 2 := by
    simp [render, Text.ofString]
  have written : (Json.arr list).render ++ rest =
      CodePoint.ofChar '[' :: (renderItems list ++ CodePoint.ofChar ']' :: rest) := by
    simp [render, Text.ofString]
  obtain ⟨fuel, rfl⟩ := Nat.exists_eq_succ_of_ne_zero (show fuel ≠ 0 by omega)
  rw [written, value_bracket]
  cases list with
  | nil => rfl
  | cons item others =>
    have read := items_renderItems each [] rest (show _ < fuel by omega)
    have back := each item (List.mem_cons_self ..)
    obtain ⟨c, after, same, -, inside⟩ := head_renderItems back others rest
    rw [skipBlank_renderItems back, read, same]
    simp only [inside, if_false]
    rfl

theorem put_of_not_mem {members : List (Text × Json)} {name : Text}
    (new : name ∉ members.map Prod.fst) (value : Json) :
    put members name value = members ++ [(name, value)] := by
  induction members with
  | nil => rfl
  | cons head rest ih =>
    obtain ⟨other, further⟩ := List.ne_and_not_mem_of_not_mem_cons new
    rw [put, if_neg (Ne.symm other), ih further, List.cons_append]

theorem new_of_nodup {earlier later : List (Text × Json)} {name : Text} {value : Json}
    (distinct : ((earlier ++ (name, value) :: later).map Prod.fst).Nodup) :
    name ∉ earlier.map Prod.fst := by
  rw [List.map_append, List.map_cons] at distinct
  intro found
  exact (List.nodup_append.mp distinct).2.2 name found name (List.mem_cons_self ..) rfl

theorem renderMembers_append (name : Text) (value : Json) (others : List (Text × Json))
    (rest : Text) :
    renderMembers ((name, value) :: others) ++ CodePoint.ofChar '}' :: rest =
      CodePoint.ofChar '"' :: (name.flatMap escape ++ CodePoint.ofChar '"' :: CodePoint.ofChar ':' ::
        CodePoint.ofChar ' ' :: (value.render ++
          match others with
          | [] => CodePoint.ofChar '}' :: rest
          | next :: others => CodePoint.ofChar ',' :: CodePoint.ofChar ' ' ::
              (renderMembers (next :: others) ++ CodePoint.ofChar '}' :: rest))) := by
  cases others with
  | nil => simp [renderMembers, quoted, Text.ofString]
  | cons next others => simp [renderMembers, quoted, Text.ofString]

theorem length_renderMembers_cons (name : Text) (value : Json) (next : Text × Json)
    (others : List (Text × Json)) :
    (renderMembers ((name, value) :: next :: others)).length =
      (renderMembers [(name, value)]).length + 2 + (renderMembers (next :: others)).length := by
  simp [renderMembers, Text.ofString]
  omega

theorem length_render_lt_renderMembers (name : Text) (value : Json) :
    value.render.length < (renderMembers [(name, value)]).length := by
  simp [renderMembers, Text.ofString]
  omega

section Members

variable {fuel depth : Nat} {done : List (Text × Json)} {name : Text} {item : Json}

/-- Reading one member, up to what follows it. -/
theorem members_named {t left : Text} (unpaired : name.Unpaired)
    (read : value fuel depth (skipBlank t) = .ok (item, left)) :
    members (fuel + 1) depth done (CodePoint.ofChar '"' :: (name.flatMap escape ++
      CodePoint.ofChar '"' :: CodePoint.ofChar ':' :: CodePoint.ofChar ' ' :: t)) =
        match skipBlank left with
        | c :: rest =>
          if c = CodePoint.ofChar '}' then .ok (.obj (put done name item), rest)
          else if c = CodePoint.ofChar ',' then
            members fuel depth (put done name item) (skipBlank rest)
          else .error .malformed
        | [] => .error .malformed := by
  have named := stringRest_eq_ok_iff.mpr (literal_of_unpaired unpaired
    (CodePoint.ofChar ':' :: CodePoint.ofChar ' ' :: t))
  have colon : skipBlank (CodePoint.ofChar ':' :: CodePoint.ofChar ' ' :: t) =
    CodePoint.ofChar ':' :: CodePoint.ofChar ' ' :: t := rfl
  have blank : skipBlank (CodePoint.ofChar ' ' :: t) = skipBlank t := rfl
  have step := members.eq_def (fuel + 1) depth done (CodePoint.ofChar '"' :: (name.flatMap escape ++
    CodePoint.ofChar '"' :: CodePoint.ofChar ':' :: CodePoint.ofChar ' ' :: t))
  simp only [if_true, named, colon, blank, read] at step
  exact step

/-- Reading goes on behind the comma after a member. -/
theorem members_comma {t after : Text} (unpaired : name.Unpaired)
    (read : value fuel depth (skipBlank t) =
      .ok (item, CodePoint.ofChar ',' :: CodePoint.ofChar ' ' :: after)) :
    members (fuel + 1) depth done (CodePoint.ofChar '"' :: (name.flatMap escape ++
      CodePoint.ofChar '"' :: CodePoint.ofChar ':' :: CodePoint.ofChar ' ' :: t)) =
        members fuel depth (put done name item) (skipBlank after) := by
  rw [members_named unpaired read]
  rfl

theorem members_brace {t after : Text} (unpaired : name.Unpaired)
    (read : value fuel depth (skipBlank t) = .ok (item, CodePoint.ofChar '}' :: after)) :
    members (fuel + 1) depth done (CodePoint.ofChar '"' :: (name.flatMap escape ++
      CodePoint.ofChar '"' :: CodePoint.ofChar ':' :: CodePoint.ofChar ' ' :: t)) =
        .ok (.obj (put done name item), after) := by
  rw [members_named unpaired read]
  rfl

end Members

theorem skipBlank_render {depth : Nat} {v : Json} (back : ReadsBack depth v) {rest : Text}
    (ends : Ends rest) : skipBlank (v.render ++ rest) = v.render ++ rest := by
  obtain ⟨c, after, same, visible, -⟩ := head_of_value (back _ _ (Nat.le_refl _) ends)
  simp [same, skipBlank, visible]

theorem skipBlank_renderMembers (member : Text × Json) (others : List (Text × Json)) (rest : Text) :
    skipBlank (renderMembers (member :: others) ++ CodePoint.ofChar '}' :: rest) =
      renderMembers (member :: others) ++ CodePoint.ofChar '}' :: rest := by
  rw [renderMembers_append]
  rfl

theorem members_renderMembers {depth : Nat} {member : Text × Json} {others : List (Text × Json)}
    (each : ∀ other ∈ member :: others, other.1.Unpaired ∧ ReadsBack depth other.2) {fuel : Nat}
    (done : List (Text × Json)) (distinct : ((done ++ member :: others).map Prod.fst).Nodup)
    (rest : Text) (enough : 2 * (renderMembers (member :: others)).length < fuel) :
    members fuel depth done (renderMembers (member :: others) ++ CodePoint.ofChar '}' :: rest) =
      .ok (.obj (done ++ rereadMembers (member :: others)), rest) := by
  induction others generalizing member fuel done with
  | nil =>
    obtain ⟨name, item⟩ := member
    obtain ⟨⟨unpaired, back⟩, -⟩ := List.forall_mem_cons.mp each
    dsimp only at unpaired back
    obtain ⟨fuel, rfl⟩ := Nat.exists_eq_succ_of_ne_zero (Nat.ne_zero_of_lt enough)
    have short := length_render_lt_renderMembers name item
    have read := back fuel _ (by omega) (ends_brace rest)
    rw [← skipBlank_render back (ends_brace rest)] at read
    rw [renderMembers_append, members_brace unpaired read, put_of_not_mem (new_of_nodup distinct)]
    rfl
  | cons next others ih =>
    obtain ⟨name, item⟩ := member
    obtain ⟨⟨unpaired, back⟩, further⟩ := List.forall_mem_cons.mp each
    dsimp only at unpaired back
    obtain ⟨fuel, rfl⟩ := Nat.exists_eq_succ_of_ne_zero (Nat.ne_zero_of_lt enough)
    rw [length_renderMembers_cons] at enough
    have short := length_render_lt_renderMembers name item
    have read := back fuel _ (by omega) (ends_comma (CodePoint.ofChar ' ' ::
      (renderMembers (next :: others) ++ CodePoint.ofChar '}' :: rest)))
    rw [← skipBlank_render back (ends_comma _)] at read
    rw [renderMembers_append, members_comma unpaired read, put_of_not_mem (new_of_nodup distinct),
      skipBlank_renderMembers, ih further _ (by simpa using distinct) (by omega)]
    simp [rereadMembers]

theorem readsBack_obj {depth : Nat} {list : List (Text × Json)}
    (distinct : (list.map Prod.fst).Nodup)
    (each : ∀ member ∈ list, member.1.Unpaired ∧ ReadsBack depth member.2) :
    ReadsBack (depth + 1) (.obj list) := by
  intro fuel rest enough _
  have length : (Json.obj list).render.length = (renderMembers list).length + 2 := by
    simp [render, Text.ofString]
  have written : (Json.obj list).render ++ rest =
      CodePoint.ofChar '{' :: (renderMembers list ++ CodePoint.ofChar '}' :: rest) := by
    simp [render, Text.ofString]
  obtain ⟨fuel, rfl⟩ := Nat.exists_eq_succ_of_ne_zero (show fuel ≠ 0 by omega)
  rw [written, value_brace]
  cases list with
  | nil => rfl
  | cons member others =>
    have read := members_renderMembers each [] distinct rest (show _ < fuel by omega)
    rw [skipBlank_renderMembers, read, renderMembers_append]
    rfl

/-- What the reader can give is read back from its text. -/
theorem readsBack_of_legible {depth : Nat} {v : Json} (legible : Legible Text.Unpaired depth v) :
    ReadsBack depth v := by
  have word {name : Text} {value : Json} (member : (name, value) ∈ words) (rest : Text) :
      plain (name ++ rest) = .ok (value, rest) := plain_word member rest
  induction legible with
  | null =>
    have member : (("null" : Text), Json.null) ∈ words := by simp [words]
    exact readsBack_of_plain _ fun _ => word member _
  | bool value =>
    cases value with
    | false =>
      have member : (("false" : Text), Json.bool false) ∈ words := by simp [words]
      exact readsBack_of_plain _ fun _ => word member _
    | true =>
      have member : (("true" : Text), Json.bool true) ∈ words := by simp [words]
      exact readsBack_of_plain _ fun _ => word member _
  | int small => exact readsBack_of_plain _ fun ends => plain_ofInt small ends
  | float x => exact readsBack_of_plain _ fun ends => plain_jsonText x ends
  | str accepted => exact readsBack_str _ accepted
  | arr inside ih => exact readsBack_arr ih
  | obj distinct names inside ih =>
    exact readsBack_obj distinct fun member found => ⟨names member found, ih member found⟩

theorem readWithin_render {levels : Nat} {v : Json} (legible : Legible Text.Unpaired levels v) :
    readWithin levels v.render = .ok v.reread := by
  have back := readsBack_of_legible legible
  have ends : Ends [] := by simp
  have whole := back (2 * v.render.length + 2) [] (by omega) ends
  have start := skipBlank_render back ends
  rw [List.append_nil] at whole start
  rw [readWithin, start, whole]
  rfl

end Json
end ChatDice
