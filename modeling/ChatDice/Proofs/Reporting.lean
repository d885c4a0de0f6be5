import ChatDice.Dice.Report
import ChatDice.Proofs.Gathering
import ChatDice.Proofs.Rolling
import ChatDice.Proofs.Rounding

/-!
When the report of a roll fails. Every number in it is bounded by the maximum and the numerals that
parsing accepts, so only the maximum and the average can be too large.
-/

namespace ChatDice.Dice

/-- The maximum has a numeral, and the average a floating-point number. -/
structure Specification.Reportable (spec : Specification) : Prop where
  maximum : spec.maximum < (10 ^ Numeral.digitLimit : Nat)
  average : (spec.minimum + spec.maximum).natAbs < Binary64.halfLimit

namespace Report

/-- Steps one after another succeed only if each of them does. -/
theorem exists_of_bind_eq_ok {α β : Type} {first : Except Error α}
    {next : α → Except Error β} {result : β} (done : first >>= next = .ok result) :
    ∃ value, first = .ok value ∧ next value = .ok result := by
  cases first with
  | error e => cases done
  | ok value => exact ⟨value, rfl, done⟩

theorem number_of_lt {n : Int} (small : n.natAbs < 10 ^ Numeral.digitLimit) :
    number n = .ok (Numeral.ofInt n) := by
  rw [number, Numeral.write_of_lt small]

theorem number_of_le {n : Int} (large : 10 ^ Numeral.digitLimit ≤ n.natAbs) :
    number n = .error (.numeral .written) := by
  rw [number, Numeral.write_of_le large]

theorem lt_of_number {n : Int} {t : Text} (written : number n = .ok t) :
    n.natAbs < 10 ^ Numeral.digitLimit := by
  apply Nat.lt_of_not_le
  intro large
  rw [number_of_le large] at written
  cases written

theorem lt_of_numbers {l : List Int} {texts : List Text} (written : numbers l = .ok texts) :
    ∀ n ∈ l, n.natAbs < 10 ^ Numeral.digitLimit := by
  induction l generalizing texts with
  | nil => simp
  | cons n rest ih =>
    rw [numbers] at written
    obtain ⟨t, first, further⟩ := exists_of_bind_eq_ok written
    obtain ⟨others, tail, -⟩ := exists_of_bind_eq_ok further
    exact List.forall_mem_cons.mpr ⟨lt_of_number first, ih tail⟩

/-- A report shows outcomes and total, so that it bounds them, whatever source they came from. -/
theorem lt_of_render {query text : Text} {roll : Roll} {grouping : Grouping} {showGroups : Bool}
    (rendered : render query roll grouping showGroups = .ok text) :
    (∀ face ∈ roll.outcomes, face.natAbs < 10 ^ Numeral.digitLimit) ∧
      roll.total.natAbs < 10 ^ Numeral.digitLimit := by
  rw [render] at rendered
  obtain ⟨maximum, -, afterMaximum⟩ := exists_of_bind_eq_ok rendered
  obtain ⟨minimum, -, afterMinimum⟩ := exists_of_bind_eq_ok afterMaximum
  obtain ⟨average, -, afterAverage⟩ := exists_of_bind_eq_ok afterMinimum
  obtain ⟨outcomes, shown, afterOutcomes⟩ := exists_of_bind_eq_ok afterAverage
  obtain ⟨total, summed, -⟩ := exists_of_bind_eq_ok afterOutcomes
  exact ⟨lt_of_numbers shown, lt_of_number summed⟩

theorem numbers_of_lt {l : List Int} (small : ∀ n ∈ l, n.natAbs < 10 ^ Numeral.digitLimit) :
    numbers l = .ok (l.map Numeral.ofInt) := by
  induction l with
  | nil => rfl
  | cons n rest ih =>
    have tail := ih fun other member => small other (List.mem_cons_of_mem n member)
    rw [numbers, number_of_lt (small n (List.mem_cons_self ..)), tail]
    rfl

theorem eq_of_number {n : Int} {t : Text} (written : number n = .ok t) : t = Numeral.ofInt n := by
  rw [number_of_lt (lt_of_number written)] at written
  exact (Except.ok.inj written).symm

theorem eq_of_numbers {l : List Int} {texts : List Text} (written : numbers l = .ok texts) :
    texts = l.map Numeral.ofInt := by
  rw [numbers_of_lt (lt_of_numbers written)] at written
  exact (Except.ok.inj written).symm

theorem forall_mem_of_groupLines {P : Text → Prop}
    (each : ∀ {group line}, groupLine group = .ok line → P line) {grouping : Grouping}
    {lines : List Text} (written : groupLines grouping = .ok lines) : ∀ line ∈ lines, P line := by
  induction grouping generalizing lines with
  | nil =>
    cases written
    simp
  | cons group rest ih =>
    obtain ⟨line, first, further⟩ := exists_of_bind_eq_ok written
    obtain ⟨others, tail, done⟩ := exists_of_bind_eq_ok further
    cases done
    exact List.forall_mem_cons.mpr ⟨each first, ih tail⟩

theorem exists_of_groups {grouping : Grouping} {t : Text} (written : groups grouping = .ok t) :
    ∃ lines, groupLines grouping.repeated = .ok lines ∧ t = Text.join "\n" lines := by
  unfold groups at written
  cases found : groupLines grouping.repeated with
  | error error =>
    rw [found] at written
    cases written
  | ok lines =>
    rw [found] at written
    exact ⟨lines, rfl, (Except.ok.inj written).symm⟩

/-- What a report ends in: its groups, if they are shown. -/
inductive Ending (grouping : Grouping) : (showGroups : Bool) → Text → Prop
  | short : Ending grouping false []
  | grouped {listed : Text} (written : groups grouping = .ok listed) :
      Ending grouping true (Text.ofString "- Groups:\n" ++ listed)

/-- What a report is made of. -/
theorem exists_of_render {query text : Text} {roll : Roll} {grouping : Grouping} {showGroups : Bool}
    (rendered : render query roll grouping showGroups = .ok text) :
    ∃ average ending, averageText roll.average? = .ok average ∧ Ending grouping showGroups ending ∧
      text = Text.ofString "You rolled **" ++ query ++ "** (max is " ++ Numeral.ofInt roll.maximum
        ++ ", min is " ++ Numeral.ofInt roll.minimum ++ ", avg is " ++ average ++ "):\n- Results: **"
        ++ Text.join ", " (roll.outcomes.map Numeral.ofInt) ++ "**\n- Total: **"
        ++ Numeral.ofInt roll.total ++ "**\n" ++ ending := by
  unfold render at rendered
  obtain ⟨maximum, high, afterMaximum⟩ := exists_of_bind_eq_ok rendered
  obtain ⟨minimum, low, afterMinimum⟩ := exists_of_bind_eq_ok afterMaximum
  obtain ⟨average, middle, afterAverage⟩ := exists_of_bind_eq_ok afterMinimum
  obtain ⟨outcomes, shown, afterOutcomes⟩ := exists_of_bind_eq_ok afterAverage
  obtain ⟨total, summed, done⟩ := exists_of_bind_eq_ok afterOutcomes
  rw [eq_of_number high, eq_of_number low, eq_of_numbers shown, eq_of_number summed] at done
  dsimp only at done
  split at done
  · rename_i wanted
    obtain ⟨listed, written, done⟩ := exists_of_bind_eq_ok done
    cases done
    cases wanted
    exact ⟨average, _, middle, .grouped written, List.append_assoc ..⟩
  · rename_i unwanted
    cases done
    cases Bool.eq_false_iff.mpr unwanted
    exact ⟨average, [], middle, .short, (List.append_nil _).symm⟩

/-- The bullet of a face that came up so many times. -/
def bullet (count : Nat) (face : Int) : Text :=
  "  - **" ++ Numeral.ofNat count ++ "** " ++ Numeral.ofInt face ++ "s"

theorem groupLines_of_lt {groups : Grouping}
    (small : ∀ group ∈ groups, group.1.natAbs < 10 ^ Numeral.digitLimit) :
    groupLines groups = .ok (groups.map fun (face, positions) => bullet positions.length face) := by
  induction groups with
  | nil => rfl
  | cons group rest ih =>
    have tail := ih fun other member => small other (List.mem_cons_of_mem group member)
    rw [groupLines, groupLine, number_of_lt (small group (List.mem_cons_self ..)), tail]
    rfl

theorem groups_eq_join {outcomes : List Int}
    (small : ∀ face ∈ outcomes, face.natAbs < 10 ^ Numeral.digitLimit) :
    groups (Grouping.ofOutcomes outcomes) = .ok (Text.join "\n"
      ((Grouping.ofOutcomes outcomes).repeated.map fun (face, positions) =>
        bullet positions.length face)) := by
  have faces : ∀ group ∈ (Grouping.ofOutcomes outcomes).repeated,
      group.1.natAbs < 10 ^ Numeral.digitLimit := by
    intro group member
    exact small group.1 (Grouping.face_mem_outcomes group (List.mem_of_mem_filter member))
  rw [groups, groupLines_of_lt faces]
  rfl

theorem groups_of_lt {outcomes : List Int}
    (small : ∀ face ∈ outcomes, face.natAbs < 10 ^ Numeral.digitLimit) :
    ∃ text, groups (Grouping.ofOutcomes outcomes) = .ok text :=
  ⟨_, groups_eq_join small⟩

/-- A finite whole number is within the limit of a numeral. -/
theorem averageText_of_whole {n whole : Int} {x : Binary64} (finite : Binary64.half? n = some x)
    (isWhole : x.toInt? = some whole) :
    averageText (Binary64.half? n) = .ok (Numeral.ofInt whole) := by
  have bound := Binary64.natAbs_le_of_half? finite isWhole
  have small : whole.natAbs < 10 ^ Numeral.digitLimit :=
    calc
      whole.natAbs ≤ 2 ^ (53 + Binary64.largestExponent) := bound
      _ < 10 ^ (53 + Binary64.largestExponent) := Nat.pow_lt_pow_left (by decide) (by decide)
      _ ≤ 10 ^ Numeral.digitLimit := Nat.pow_le_pow_right (by decide) (by decide)
  rw [finite, averageText, isWhole]
  exact number_of_lt small

theorem averageText_of_fraction {n : Int} {x : Binary64} (finite : Binary64.half? n = some x)
    (notWhole : x.toInt? = none) : averageText (Binary64.half? n) = .ok x.text := by
  rw [finite, averageText, notWhole]

/-- Half of a whole number has a text as soon as it is a finite number at all. -/
theorem averageText_half? {n : Int} {x : Binary64} (finite : Binary64.half? n = some x) :
    ∃ text, averageText (Binary64.half? n) = .ok text := by
  cases isWhole : x.toInt? with
  | none => exact ⟨_, averageText_of_fraction finite isWhole⟩
  | some whole => exact ⟨_, averageText_of_whole finite isWhole⟩

variable {spec : Specification} {roll : Roll}

private theorem number_maximum (shows : roll.Shows spec) (inRange : spec.InRange)
    (small : spec.maximum < (10 ^ Numeral.digitLimit : Nat)) :
    number roll.maximum = .ok (Numeral.ofInt roll.maximum) :=
  number_of_lt (shows.natAbs_lt inRange (shows.minimum_le_maximum inRange) (Int.le_refl _) small)

private theorem number_minimum (shows : roll.Shows spec) (inRange : spec.InRange)
    (small : spec.maximum < (10 ^ Numeral.digitLimit : Nat)) :
    number roll.minimum = .ok (Numeral.ofInt roll.minimum) :=
  number_of_lt (shows.natAbs_lt inRange (Int.le_refl _) (shows.minimum_le_maximum inRange) small)

private theorem number_total (shows : roll.Shows spec) (inRange : spec.InRange)
    (small : spec.maximum < (10 ^ Numeral.digitLimit : Nat)) :
    number roll.total = .ok (Numeral.ofInt roll.total) :=
  number_of_lt (shows.natAbs_lt inRange shows.minimum_le_total (shows.total_le_maximum inRange) small)

private theorem render_of_large {query : Text} {grouping : Grouping} {showGroups : Bool}
    (shows : roll.Shows spec) (large : (10 ^ Numeral.digitLimit : Nat) ≤ spec.maximum) :
    render query roll grouping showGroups = .error (.numeral .written) := by
  rw [← shows.maximum_eq] at large
  rw [render, number_of_le (by omega)]
  rfl

private theorem render_of_average {query : Text} {grouping : Grouping} {showGroups : Bool}
    (shows : roll.Shows spec) (inRange : spec.InRange)
    (small : spec.maximum < (10 ^ Numeral.digitLimit : Nat)) (tooLarge : roll.average? = none) :
    render query roll grouping showGroups = .error .averageTooLarge := by
  rw [render, number_maximum shows inRange small, number_minimum shows inRange small, tooLarge]
  rfl

private theorem render_of_small {query : Text} {showGroups : Bool} {average : Binary64}
    (shows : roll.Shows spec) (inRange : spec.InRange)
    (small : spec.maximum < (10 ^ Numeral.digitLimit : Nat)) (finite : roll.average? = some average) :
    ∃ text, render query roll (Grouping.ofOutcomes roll.outcomes) showGroups = .ok text := by
  have faces := shows.natAbs_face_lt inRange
  obtain ⟨averageText, average⟩ := averageText_half? finite
  obtain ⟨groupsText, groups⟩ := groups_of_lt faces
  rw [render, number_maximum shows inRange small, number_minimum shows inRange small, Roll.average?,
    average, numbers_of_lt faces, number_total shows inRange small]
  cases showGroups with
  | false => exact ⟨_, rfl⟩
  | true =>
    rw [groups]
    exact ⟨_, rfl⟩

private theorem average?_eq_none_iff (shows : roll.Shows spec) :
    roll.average? = none ↔ Binary64.halfLimit ≤ (spec.minimum + spec.maximum).natAbs := by
  rw [Roll.average?, shows.minimum_eq, shows.maximum_eq]
  exact Binary64.half?_eq_none_iff

/-- The three ways in which the report of a roll can end. -/
theorem render_cases (query : Text) (showGroups : Bool) (shows : roll.Shows spec)
    (inRange : spec.InRange) :
    let report := render query roll (Grouping.ofOutcomes roll.outcomes) showGroups
    ((10 ^ Numeral.digitLimit : Nat) ≤ spec.maximum ∧ report = .error (.numeral .written)) ∨
    (spec.maximum < (10 ^ Numeral.digitLimit : Nat) ∧
      Binary64.halfLimit ≤ (spec.minimum + spec.maximum).natAbs ∧
      report = .error .averageTooLarge) ∨
    (spec.Reportable ∧ ∃ text, report = .ok text) := by
  intro report
  by_cases large : (10 ^ Numeral.digitLimit : Nat) ≤ spec.maximum
  · exact .inl ⟨large, render_of_large shows large⟩
  · have small := Int.not_le.mp large
    have finite_iff := average?_eq_none_iff shows
    cases found : roll.average? with
    | none =>
      exact .inr (.inl ⟨small, finite_iff.mp found, render_of_average shows inRange small found⟩)
    | some average =>
      have finite : ¬ Binary64.halfLimit ≤ (spec.minimum + spec.maximum).natAbs := by
        rw [← finite_iff, found]
        exact Option.some_ne_none average
      exact .inr (.inr ⟨⟨small, Nat.lt_of_not_le finite⟩,
        render_of_small shows inRange small found⟩)

end Report

/-- The report of a query that parses fails on the maximum exactly if that has too many digits,
else on the average exactly if that is too large, and else not at all: of themselves minimum,
outcomes, total and groups always have a text. -/
theorem report_outcome {σ : Type} {query : Text} {spec : Specification}
    (parsed : parse query = .ok spec) {draw : Draw σ} (faces : draw.GivesFaces spec.sides) (state : σ)
    (showGroups : Bool) :
    let roll := (spec.roll draw state).1
    let grouping := Grouping.ofOutcomes roll.outcomes
    let report := Report.render spec.query roll grouping showGroups
    (report = .error (.numeral .written) ↔ (10 ^ Numeral.digitLimit : Nat) ≤ spec.maximum) ∧
    (report = .error .averageTooLarge ↔
      spec.maximum < (10 ^ Numeral.digitLimit : Nat) ∧
        Binary64.halfLimit ≤ (spec.minimum + spec.maximum).natAbs) ∧
    ((∃ text, report = .ok text) ↔
      spec.maximum < (10 ^ Numeral.digitLimit : Nat) ∧
        (spec.minimum + spec.maximum).natAbs < Binary64.halfLimit) ∧
    (∃ texts, Report.numbers roll.outcomes = .ok texts) ∧
    (∃ text, Report.groups grouping = .ok text) ∧
    (spec.maximum < (10 ^ Numeral.digitLimit : Nat) →
      (∃ text, Report.number roll.minimum = .ok text) ∧
        ∃ text, Report.number roll.total = .ok text) := by
  intro roll grouping report
  have inRange := inRange_of_parse parsed
  have shows : roll.Shows spec := spec.roll_shows faces state
  have within := shows.natAbs_face_lt inRange
  have outcomes : ∃ texts, Report.numbers roll.outcomes = .ok texts := ⟨_, Report.numbers_of_lt within⟩
  have groups : ∃ text, Report.groups grouping = .ok text := Report.groups_of_lt within
  have others (small : spec.maximum < (10 ^ Numeral.digitLimit : Nat)) :
      (∃ text, Report.number roll.minimum = .ok text) ∧
        ∃ text, Report.number roll.total = .ok text :=
    ⟨⟨_, Report.number_minimum shows inRange small⟩, ⟨_, Report.number_total shows inRange small⟩⟩
  have ways := Report.render_cases spec.query showGroups shows inRange
  change _ ∧ report = _ ∨ _ ∧ _ ∧ report = _ ∨ _ ∧ ∃ text, report = .ok text at ways
  generalize report = ended at ways ⊢
  -- The three ways exclude each other, so that each decides all three equivalences.
  rcases ways with ⟨large, failed⟩ | ⟨small, tooLarge, failed⟩ | ⟨⟨small, finite⟩, text, succeeded⟩
  · subst ended
    have notSmall := Int.not_lt.mpr large
    exact ⟨iff_of_true rfl large, iff_of_false (by simp) fun both => notSmall both.1,
      iff_of_false (by simp) fun both => notSmall both.1, outcomes, groups, others⟩
  · subst ended
    exact ⟨iff_of_false (by simp) (Int.not_le.mpr small), iff_of_true rfl ⟨small, tooLarge⟩,
      iff_of_false (by simp) fun both => Nat.not_lt.mpr tooLarge both.2, outcomes, groups, others⟩
  · subst ended
    exact ⟨iff_of_false (by simp) (Int.not_le.mpr small),
      iff_of_false (by simp) fun both => Nat.not_le.mpr finite both.2,
      iff_of_true ⟨text, rfl⟩ ⟨small, finite⟩, outcomes, groups, others⟩

/-- Two dice with a modifier, shown with their groups. -/
theorem report_outcome_two_dice :
    parse "2d6+1" = .ok ⟨"2d6+1", 2, 6, 1⟩ ∧
    (Draw.lowest : Draw Unit).GivesFaces 6 ∧
    ∃ text, Report.render "2d6+1" ⟨2, 6, 1, [1, 1], 3⟩ (Grouping.ofOutcomes [1, 1]) true = .ok text := by
  have parsed : parse "2d6+1" = .ok ⟨"2d6+1", 2, 6, 1⟩ := by decide +kernel
  have faces : (Draw.lowest : Draw Unit).GivesFaces 6 := Draw.lowest_inBounds.givesFaces (by decide)
  have outcome := report_outcome parsed faces () true
  exact ⟨parsed, faces, outcome.2.2.1.mpr ⟨by decide +kernel, by decide +kernel⟩⟩

end ChatDice.Dice
