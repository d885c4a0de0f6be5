import ChatDice.Proofs.Literals
import ChatDice.Proofs.Numeral

/-!
What reading gives. The reader lets no whole number over the limit pass, no name twice in an object
and no nesting beyond the limit; all its texts come from quotation marks in what it reads.
-/

namespace ChatDice.Json

/-- A value as the reader gives it, nested in at most so many levels; all its texts are of one kind. -/
inductive Legible (accepts : Text → Prop) : (depth : Nat) → Json → Prop
  | null {depth : Nat} : Legible accepts depth .null
  | bool {depth : Nat} (value : Bool) : Legible accepts depth (.bool value)
  | int {depth : Nat} {n : Int} (small : n.natAbs < 10 ^ Numeral.digitLimit) :
      Legible accepts depth (.int n)
  | float {depth : Nat} (x : Binary64) : Legible accepts depth (.float x)
  | str {depth : Nat} {t : Text} (accepted : accepts t) : Legible accepts depth (.str t)
  | arr {depth : Nat} {list : List Json} (inside : ∀ item ∈ list, Legible accepts depth item) :
      Legible accepts (depth + 1) (.arr list)
  | obj {depth : Nat} {list : List (Text × Json)} (distinct : (list.map Prod.fst).Nodup)
      (names : ∀ member ∈ list, accepts member.1)
      (inside : ∀ member ∈ list, Legible accepts depth member.2) :
      Legible accepts (depth + 1) (.obj list)

theorem forall_mem_put (holds : Text × Json → Prop) {members : List (Text × Json)} {name : Text}
    {value : Json} (new : holds (name, value)) (old : ∀ member ∈ members, holds member) :
    ∀ member ∈ put members name value, holds member := by
  induction members with
  | nil =>
    intro member found
    rw [put, List.mem_singleton] at found
    subst member
    exact new
  | cons head rest ih =>
    obtain ⟨kept, tail⟩ := List.forall_mem_cons.mp old
    rw [put]
    split
    · exact List.forall_mem_cons.mpr ⟨new, tail⟩
    · exact List.forall_mem_cons.mpr ⟨kept, ih tail⟩

theorem names_put (members : List (Text × Json)) (name : Text) (value : Json) :
    (put members name value).map Prod.fst =
      if name ∈ members.map Prod.fst then members.map Prod.fst else members.map Prod.fst ++ [name] := by
  induction members with
  | nil => rfl
  | cons head rest ih =>
    rw [put]
    by_cases same : head.1 = name
    · simp [same]
    · simp only [same, if_false, List.map_cons, ih, List.mem_cons, Ne.symm same, false_or]
      split <;> rfl

theorem nodup_put {members : List (Text × Json)} (distinct : (members.map Prod.fst).Nodup)
    (name : Text) (value : Json) : ((put members name value).map Prod.fst).Nodup := by
  rw [names_put]
  split
  · exact distinct
  · rename_i new
    refine List.nodup_append.mpr ⟨distinct, by simp, fun other member same found => ?_⟩
    rw [List.mem_singleton.mp found]
    rintro rfl
    exact new member

theorem fractionPart_suffix (t : Text) : (fractionPart t).2 <:+ t := by
  unfold fractionPart
  split
  · split
    · exact (List.dropWhile_suffix _).trans ((List.suffix_cons _ _).trans (List.suffix_cons _ _))
    · exact List.suffix_rfl
  · exact List.suffix_rfl

theorem powerDigits_suffix {negative : Bool} {t rest : Text} {power : Int}
    (found : powerDigits negative t = some (power, rest)) : rest <:+ t := by
  unfold powerDigits at found
  simp only at found
  split at found
  · cases found
  · cases found
    exact List.dropWhile_suffix _

theorem powerPart_suffix (t : Text) : (powerPart t).2 <:+ t := by
  unfold powerPart
  split
  · rename_i mark rest
    split
    · simp only
      split
      · rename_i power after found
        refine List.IsSuffix.trans ?_ (List.suffix_cons mark rest)
        split at found
        · split at found
          · exact (powerDigits_suffix found).trans (List.suffix_cons _ _)
          · split at found
            · exact (powerDigits_suffix found).trans (List.suffix_cons _ _)
            · exact powerDigits_suffix found
        · cases found
      · exact List.suffix_rfl
    · exact List.suffix_rfl
  · exact List.suffix_rfl

theorem numeral?_suffix {t : Text} {parts : NumberParts} (found : numeral? t = some parts) :
    parts.rest <:+ t := by
  unfold numeral? at found
  extract_lets whole at found
  split at found
  · cases found
  · cases found
    exact (powerPart_suffix _).trans ((fractionPart_suffix _).trans (List.drop_suffix _ _))

theorem plain_suffix {t rest : Text} {value : Json} (found : plain t = .ok (value, rest)) :
    rest <:+ t := by
  unfold plain at found
  split at found
  · cases found
    exact List.drop_suffix _ _
  · split at found
    rename_i negative unsigned signed
    have unsignedSuffix : unsigned <:+ t := by
      split at signed
      · split at signed
        · cases signed
          exact List.suffix_cons _ _
        · cases signed
          exact List.suffix_rfl
      · cases signed
        exact List.suffix_rfl
    split at found
    · rename_i parts isNumeral
      cases read : number negative parts with
      | error e =>
        rw [read] at found
        cases found
      | ok value =>
        rw [read] at found
        cases found
        exact (numeral?_suffix isNumeral).trans unsignedSuffix
    · cases found

theorem skipBlank_suffix (t : Text) : skipBlank t <:+ t := List.dropWhile_suffix _

section Leaves

variable {accepts : Text → Prop} {depth : Nat}

theorem legible_of_number {negative : Bool} {parts : NumberParts} {value : Json}
    (found : number negative parts = .ok value) : Legible accepts depth value := by
  unfold number at found
  split at found
  · cases size : Numeral.read parts.whole with
    | error excess =>
      rw [size] at found
      cases found
    | ok n =>
      have small := Numeral.lt_of_read size
      rw [size] at found
      cases found
      cases negative with
      | false => exact .int small
      | true => exact .int (by rwa [if_pos rfl, Int.natAbs_neg])
  · cases found
    exact .float _

theorem legible_of_plain {t rest : Text} {value : Json} (found : plain t = .ok (value, rest)) :
    Legible accepts depth value := by
  unfold plain at found
  split at found
  · rename_i word same
    have member := List.mem_of_find?_eq_some same
    cases found
    simp only [words, List.mem_cons, List.not_mem_nil, or_false, Prod.mk.injEq] at member
    rcases member with ⟨-, rfl⟩ | ⟨-, rfl⟩ | ⟨-, rfl⟩ | ⟨-, rfl⟩ | ⟨-, rfl⟩ | ⟨-, rfl⟩ <;> constructor
  · split at found
    rename_i negative unsigned _
    split at found
    · rename_i parts _
      cases read : number negative parts with
      | error e =>
        rw [read] at found
        cases found
      | ok value =>
        rw [read] at found
        cases found
        exact legible_of_number read
    · cases found

end Leaves

section Readers

variable {accepts : Text → Prop} {whole : Text}

/-- With so much fuel, the readers give what is legible, and what they leave stands at the end of the
whole text. -/
private structure ReadsLegible (accepts : Text → Prop) (whole : Text) (fuel : Nat) : Prop where
  value : ∀ {depth : Nat} {t rest : Text} {found : Json}, t <:+ whole →
    value fuel depth t = .ok (found, rest) → Legible accepts depth found ∧ rest <:+ whole
  items : ∀ {depth : Nat} {done : List Json} {t rest : Text} {found : Json}, t <:+ whole →
    (∀ item ∈ done, Legible accepts depth item) → items fuel depth done t = .ok (found, rest) →
      Legible accepts (depth + 1) found ∧ rest <:+ whole
  members : ∀ {depth : Nat} {done : List (Text × Json)} {t rest : Text} {found : Json}, t <:+ whole →
    (done.map Prod.fst).Nodup →
    (∀ member ∈ done, accepts member.1 ∧ Legible accepts depth member.2) →
      members fuel depth done t = .ok (found, rest) →
        Legible accepts (depth + 1) found ∧ rest <:+ whole

variable (texts : ∀ {t s rest : Text}, t <:+ whole → Literal t s rest → accepts s)

variable {fuel depth : Nat} {t rest : Text} {found : Json}

include texts in
private theorem legible_of_value (ih : ReadsLegible accepts whole fuel) (within : t <:+ whole)
    (read : value (fuel + 1) depth t = .ok (found, rest)) :
    Legible accepts depth found ∧ rest <:+ whole := by
  unfold value at read
  split at read
  · cases read
  · rename_i c t
    have further : t <:+ whole := (List.suffix_cons c t).trans within
    split at read
    · cases inside : stringRest [] t with
      | error e =>
        rw [inside] at read
        cases read
      | ok parts =>
        rw [inside] at read
        cases read
        have literal := stringRest_eq_ok_iff.mp inside
        exact ⟨.str (texts further literal), literal.suffix.trans further⟩
    · split at read
      · cases depth with
        | zero => cases read
        | succ depth =>
          have deeper := (skipBlank_suffix t).trans further
          simp only at read
          split at read
          · split at read
            · rename_i close after opened
              split at read
              · cases read
                rw [opened] at deeper
                exact ⟨.arr (by simp), (List.suffix_cons _ _).trans deeper⟩
              · exact ih.items deeper (by simp) read
            · cases read
          · split at read
            · rename_i close after opened
              split at read
              · cases read
                rw [opened] at deeper
                exact ⟨.obj (by simp) (by simp) (by simp), (List.suffix_cons _ _).trans deeper⟩
              · exact ih.members deeper (by simp) (by simp) read
            · cases read
      · exact ⟨legible_of_plain read, (plain_suffix read).trans within⟩

private theorem legible_of_items (ih : ReadsLegible accepts whole fuel) {done : List Json}
    (within : t <:+ whole) (earlier : ∀ item ∈ done, Legible accepts depth item)
    (read : items (fuel + 1) depth done t = .ok (found, rest)) :
    Legible accepts (depth + 1) found ∧ rest <:+ whole := by
  rw [items] at read
  split at read
  · cases read
  · rename_i item left first
    obtain ⟨legible, further⟩ := ih.value within first
    have kept : ∀ other ∈ item :: done, Legible accepts depth other :=
      List.forall_mem_cons.mpr ⟨legible, earlier⟩
    have blank := (skipBlank_suffix left).trans further
    split at read
    · rename_i c after next
      rw [next] at blank
      have beyond := (List.suffix_cons c after).trans blank
      split at read
      · cases read
        exact ⟨.arr fun other member => kept other (List.mem_reverse.mp member), beyond⟩
      · split at read
        · exact ih.items ((skipBlank_suffix after).trans beyond) kept read
        · cases read
    · cases read

include texts in
private theorem legible_of_members (ih : ReadsLegible accepts whole fuel)
    {done : List (Text × Json)} (within : t <:+ whole) (distinct : (done.map Prod.fst).Nodup)
    (earlier : ∀ member ∈ done, accepts member.1 ∧ Legible accepts depth member.2)
    (read : members (fuel + 1) depth done t = .ok (found, rest)) :
    Legible accepts (depth + 1) found ∧ rest <:+ whole := by
  unfold members at read
  split at read
  · cases read
  · rename_i quote t
    have opened : t <:+ whole := (List.suffix_cons quote t).trans within
    split at read
    · split at read
      · cases read
      · rename_i name left named
        have literal := stringRest_eq_ok_iff.mp named
        have blank := (skipBlank_suffix left).trans (literal.suffix.trans opened)
        split at read
        · cases read
        · rename_i colon after next
          rw [next] at blank
          have beyond := (skipBlank_suffix after).trans ((List.suffix_cons colon after).trans blank)
          split at read
          · split at read
            · cases read
            · rename_i item left first
              obtain ⟨legible, further⟩ := ih.value beyond first
              have kept := forall_mem_put
                (fun member => accepts member.1 ∧ Legible accepts depth member.2)
                ⟨texts opened literal, legible⟩ earlier
              have blank := (skipBlank_suffix left).trans further
              split at read
              · rename_i c after next
                rw [next] at blank
                have beyond := (List.suffix_cons c after).trans blank
                split at read
                · cases read
                  exact ⟨.obj (nodup_put distinct name item)
                    (fun member inside => (kept member inside).1)
                    fun member inside => (kept member inside).2, beyond⟩
                · split at read
                  · exact ih.members ((skipBlank_suffix after).trans beyond)
                      (nodup_put distinct name item) kept read
                  · cases read
              · cases read
          · cases read
    · cases read

include texts in
private theorem readsLegible (fuel : Nat) : ReadsLegible accepts whole fuel := by
  -- The three readers call one another, so that one induction carries the statement for all of them.
  induction fuel with
  | zero =>
    refine ⟨?_, ?_, ?_⟩
    · intro depth t rest found _ read
      rw [value] at read
      cases read
    · intro depth done t rest found _ _ read
      rw [items] at read
      cases read
    · intro depth done t rest found _ _ _ read
      rw [members] at read
      cases read
  | succ fuel ih => exact ⟨legible_of_value texts ih, legible_of_items ih, legible_of_members texts ih⟩

end Readers

/-- Every value that is read is legible; its texts are as all texts that stand in quotation marks in
what is read. -/
theorem legible_of_readWithin {accepts : Text → Prop} {levels : Nat} {whole : Text} {found : Json}
    (texts : ∀ {t s rest : Text}, t <:+ whole → Literal t s rest → accepts s)
    (done : readWithin levels whole = .ok found) : Legible accepts levels found := by
  unfold readWithin at done
  split at done
  · cases done
  · rename_i whole
    split at done
    · cases done
      exact ((readsLegible texts _).value (skipBlank_suffix _) whole).1
    · cases done

end ChatDice.Json
