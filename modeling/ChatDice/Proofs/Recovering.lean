import ChatDice.Proofs.Echo

/-!
What can be read back from a report. The query stands in front of the figures as it came, and may
look like any part of a report; but the figures open with the only bracket from there on, and each
of them ends at a mark that it does not hold.
-/

namespace ChatDice

namespace Text

variable {mark : CodePoint} {before after otherBefore otherAfter : Text}

/-- A text is cut at the first place of a mark in one way only. -/
theorem cut_at_first (apart : mark ∉ before) (otherApart : mark ∉ otherBefore)
    (same : before ++ mark :: after = otherBefore ++ mark :: otherAfter) :
    before = otherBefore ∧ after = otherAfter := by
  induction before generalizing otherBefore with
  | nil =>
    cases otherBefore with
    | nil => exact ⟨rfl, (List.cons.inj same).2⟩
    | cons c rest =>
      have first := (List.cons.inj same).1
      exact absurd (first ▸ List.mem_cons_self ..) otherApart
  | cons c rest ih =>
    cases otherBefore with
    | nil =>
      have first := (List.cons.inj same).1
      exact absurd (first ▸ List.mem_cons_self ..) apart
    | cons d others =>
      obtain ⟨rfl, tail⟩ := List.cons.inj same
      obtain ⟨rfl, left⟩ := ih (List.not_mem_of_not_mem_cons apart)
        (List.not_mem_of_not_mem_cons otherApart) tail
      exact ⟨rfl, left⟩

/-- A text is cut at the last place of a mark in one way only. -/
theorem cut_at_last (apart : mark ∉ after) (otherApart : mark ∉ otherAfter)
    (same : before ++ mark :: after = otherBefore ++ mark :: otherAfter) :
    before = otherBefore ∧ after = otherAfter := by
  have reversed : after.reverse ++ mark :: before.reverse =
      otherAfter.reverse ++ mark :: otherBefore.reverse := by
    simpa using congrArg List.reverse same
  obtain ⟨tails, heads⟩ := cut_at_first (by simpa using apart) (by simpa using otherApart) reversed
  exact ⟨List.reverse_injective heads, List.reverse_injective tails⟩

theorem join_cons_cons (separator part next : Text) (rest : List Text) :
    join separator (part :: next :: rest) = part ++ (separator ++ join separator (next :: rest)) := by
  simp [join, List.intercalate]

/-- A mark that stands in no part and not in the separator does not stand between them. -/
theorem not_mem_join {mark : CodePoint} {separator : Text} {parts : List Text}
    (between : mark ∉ separator) (apart : ∀ part ∈ parts, mark ∉ part) :
    mark ∉ join separator parts := by
  induction parts with
  | nil => simp [join]
  | cons part rest ih =>
    obtain ⟨first, others⟩ := List.forall_mem_cons.mp apart
    cases rest with
    | nil => simpa [join] using first
    | cons next rest =>
      rw [join_cons_cons, List.mem_append, List.mem_append]
      rintro (found | found | found)
      · exact first found
      · exact between found
      · exact ih others found

/-- Parts that are not empty are told apart by a separator that starts with a mark none of them
holds. -/
theorem join_injective {blank : Text} {parts others : List Text}
    (held : ∀ part ∈ parts, part ≠ [] ∧ mark ∉ part)
    (otherHeld : ∀ part ∈ others, part ≠ [] ∧ mark ∉ part)
    (same : join (mark :: blank) parts = join (mark :: blank) others) : parts = others := by
  induction parts generalizing others with
  | nil =>
    cases others with
    | nil => rfl
    | cons other rest =>
      obtain ⟨filled, -⟩ := otherHeld other (List.mem_cons_self ..)
      cases rest with
      | nil => exact absurd (by simpa [join] using same.symm) filled
      | cons next rest => simp [join] at same
  | cons part rest ih =>
    obtain ⟨⟨filled, apart⟩, restHeld⟩ := List.forall_mem_cons.mp held
    cases others with
    | nil =>
      cases rest with
      | nil => exact absurd (by simpa [join] using same) filled
      | cons next rest => simp [join] at same
    | cons other otherRest =>
      obtain ⟨⟨-, otherApart⟩, otherRestHeld⟩ := List.forall_mem_cons.mp otherHeld
      cases rest with
      | nil =>
        cases otherRest with
        | nil => simpa [join] using same
        | cons next otherRest =>
          have alone : join (mark :: blank) [part] = part := by simp [join]
          rw [alone, join_cons_cons] at same
          exact absurd (by simp [same]) apart
      | cons next rest =>
        cases otherRest with
        | nil =>
          have alone : join (mark :: blank) [other] = other := by simp [join]
          rw [alone, join_cons_cons] at same
          exact absurd (by simp [← same]) otherApart
        | cons otherNext otherRest =>
          rw [join_cons_cons, join_cons_cons] at same
          obtain ⟨rfl, joined⟩ := cut_at_first apart otherApart same
          rw [ih restHeld otherRestHeld (List.append_cancel_left joined)]

end Text

/-- A digit, a mark of a numeral, or a letter of an infinity or of what is no number. -/
def CodePoint.isFigure (c : CodePoint) : Bool := c.isDigit || (Text.ofString "+-.aefin").contains c

/-- The text of a number. -/
def Text.Figures (t : Text) : Prop := ∀ c ∈ t, c.isFigure = true

namespace Text

theorem figures_of_digits {t : Text} (all : ∀ c ∈ t, c.isDigit = true) : t.Figures := by
  intro c member
  rw [CodePoint.isFigure, all c member, Bool.true_or]

theorem figures_of_all {t : Text} (all : t.all CodePoint.isFigure = true) : t.Figures :=
  List.all_eq_true.mp all

theorem figures_cons {c : CodePoint} {t : Text} (first : c.isFigure = true) (others : t.Figures) :
    Figures (c :: t) := List.forall_mem_cons.mpr ⟨first, others⟩

theorem figures_append {s t : Text} (left : s.Figures) (right : t.Figures) : (s ++ t).Figures :=
  List.forall_mem_append.mpr ⟨left, right⟩

theorem Figures.not_mem {t : Text} (figures : t.Figures) {c : CodePoint} (other : c.isFigure = false) :
    c ∉ t := by
  intro member
  rw [figures c member] at other
  cases other

end Text

namespace Numeral

theorem figures_ofInt (n : Int) : (ofInt n).Figures := by
  have digits := Text.figures_of_digits (isDigit_ofNat n.natAbs)
  unfold ofInt
  split
  · exact Text.figures_cons (by decide) digits
  · exact digits

end Numeral

theorem Json.figures_fraction {digits : Option Text} {t : Text} (spelled : IsFraction digits t) :
    t.Figures := by
  cases spelled with
  | none => exact Text.figures_of_all rfl
  | some all => exact Text.figures_cons (by decide) (Text.figures_of_digits all)

theorem Json.figures_power {size : Option Int} {t : Text} (spelled : IsPower size t) : t.Figures := by
  cases spelled with
  | none => exact Text.figures_of_all rfl
  | negative all | positive all =>
    exact Text.figures_cons (by decide) (Text.figures_cons (by decide) (Text.figures_of_digits all))

theorem Binary64.figures_text (x : Binary64) : x.text.Figures := by
  cases x with
  | nan => exact Text.figures_of_all (by decide)
  | infinite negative => cases negative <;> exact Text.figures_of_all (by decide)
  | finite negative significand exponent =>
    obtain ⟨whole, fraction, power, digits, size, same, isWhole, isFraction, isPower, -⟩ :=
      isNumeral_magnitude significand exponent
    have magnitude : (whole ++ (fraction ++ power)).Figures :=
      Text.figures_append (Text.figures_of_digits isWhole.digits)
        (Text.figures_append (Json.figures_fraction isFraction) (Json.figures_power isPower))
    rw [text, layout]
    simp only [same]
    split
    · exact Text.figures_cons (by decide) magnitude
    · exact magnitude

namespace Dice.Report

theorem figures_of_averageText {average : Option Binary64} {t : Text}
    (written : averageText average = .ok t) : t.Figures := by
  unfold averageText at written
  split at written
  · cases written
  · split at written
    · rw [eq_of_number written]
      exact Numeral.figures_ofInt _
    · cases written
      exact Binary64.figures_text _

/-- Outcomes are told apart in their list, even if there are none. -/
theorem join_outcomes_injective {outcomes others : List Int}
    (same : Text.join ", " (outcomes.map Numeral.ofInt) = Text.join ", " (others.map Numeral.ofInt)) :
    outcomes = others := by
  have held (l : List Int) : ∀ part ∈ l.map Numeral.ofInt, part ≠ [] ∧ CodePoint.ofChar ',' ∉ part := by
    intro part member
    obtain ⟨n, -, rfl⟩ := List.mem_map.mp member
    exact ⟨Numeral.ofInt_ne_nil n, (Numeral.figures_ofInt n).not_mem (by decide)⟩
  exact List.map_injective_iff.mpr Numeral.ofInt_injective
    (Text.join_injective (held outcomes) (held others) same)

theorem not_mem_join_outcomes {mark : CodePoint} (other : mark.isFigure = false)
    (between : mark ∉ Text.ofString ", ") (outcomes : List Int) :
    mark ∉ Text.join ", " (outcomes.map Numeral.ofInt) := by
  refine Text.not_mem_join between fun part member => ?_
  obtain ⟨n, -, rfl⟩ := List.mem_map.mp member
  exact (Numeral.figures_ofInt n).not_mem other

theorem bracket_not_mem_ofInt (n : Int) : CodePoint.ofChar '(' ∉ Numeral.ofInt n :=
  (Numeral.figures_ofInt n).not_mem (by decide)

theorem bracket_not_mem_groupLine {group : Int × List Nat} {line : Text}
    (written : groupLine group = .ok line) : CodePoint.ofChar '(' ∉ line := by
  obtain ⟨face, shown, done⟩ := exists_of_bind_eq_ok written
  cases done
  have count := (Text.figures_of_digits (Numeral.isDigit_ofNat group.2.length)).not_mem
    (show (CodePoint.ofChar '(').isFigure = false by decide)
  rw [eq_of_number shown]
  simp only [List.mem_append, not_or]
  exact ⟨⟨⟨⟨by decide, count⟩, by decide⟩, bracket_not_mem_ofInt group.1⟩, by decide⟩

theorem bracket_not_mem_groups {grouping : Grouping} {t : Text} (written : groups grouping = .ok t) :
    CodePoint.ofChar '(' ∉ t := by
  obtain ⟨lines, found, rfl⟩ := exists_of_groups written
  exact Text.not_mem_join (by decide) (forall_mem_of_groupLines bracket_not_mem_groupLine found)

theorem Ending.bracket_not_mem {grouping : Grouping} {showGroups : Bool} {ending : Text}
    (ends : Ending grouping showGroups ending) : CodePoint.ofChar '(' ∉ ending := by
  cases ends with
  | short => exact List.not_mem_nil
  | grouped written =>
    rw [List.mem_append, not_or]
    exact ⟨by decide, bracket_not_mem_groups written⟩

theorem Ending.eq_nil_iff {grouping : Grouping} {showGroups : Bool} {ending : Text}
    (ends : Ending grouping showGroups ending) : ending = [] ↔ showGroups = false := by
  cases ends with
  | short => simp
  | grouped written => simp [Text.ofString]

/-- A report from its list of outcomes on. -/
def lists (roll : Roll) (ending : Text) : Text :=
  Text.join ", " (roll.outcomes.map Numeral.ofInt) ++ CodePoint.ofChar '*' ::
    (Text.ofString "*\n- Total: **" ++ (Numeral.ofInt roll.total ++ CodePoint.ofChar '*' ::
      (Text.ofString "*\n" ++ ending)))

/-- A report behind the bracket that opens after the query. -/
def details (roll : Roll) (average ending : Text) : Text :=
  Text.ofString "max is " ++ (Numeral.ofInt roll.maximum ++ CodePoint.ofChar ',' ::
    (Text.ofString " min is " ++ (Numeral.ofInt roll.minimum ++ CodePoint.ofChar ',' ::
      (Text.ofString " avg is " ++ (average ++
        (Text.ofString "):\n- Results: **" ++ lists roll ending))))))

theorem bracket_not_mem_details {roll : Roll} {average ending : Text} (shown : average.Figures)
    (apart : CodePoint.ofChar '(' ∉ ending) : CodePoint.ofChar '(' ∉ details roll average ending := by
  have middle := shown.not_mem (show (CodePoint.ofChar '(').isFigure = false by decide)
  have outcomes := not_mem_join_outcomes (show (CodePoint.ofChar '(').isFigure = false by decide)
    (by decide) roll.outcomes
  simp only [details, lists, List.mem_append, List.mem_cons, not_or]
  exact ⟨by decide, bracket_not_mem_ofInt _, by decide, by decide, bracket_not_mem_ofInt _, by decide,
    by decide, middle, by decide, outcomes, by decide, by decide, bracket_not_mem_ofInt _, by decide,
    by decide, apart⟩

/-- A report is the query in its heading, a bracket that is the last one, and what follows it. -/
theorem exists_details_of_render {query text : Text} {roll : Roll} {grouping : Grouping}
    {showGroups : Bool} (rendered : render query roll grouping showGroups = .ok text) :
    ∃ average ending, averageText roll.average? = .ok average ∧ (ending = [] ↔ showGroups = false) ∧
      CodePoint.ofChar '(' ∉ details roll average ending ∧
      text = (Text.ofString "You rolled **" ++ query ++ Text.ofString "** ") ++
        CodePoint.ofChar '(' :: details roll average ending := by
  obtain ⟨average, ending, middle, ends, rfl⟩ := exists_of_render rendered
  -- Each fixed part is split at the mark that ends the figures before it.
  have query_bracket : Text.ofString "** (max is " =
    Text.ofString "** " ++ CodePoint.ofChar '(' :: Text.ofString "max is " := by decide
  have maximum_comma : Text.ofString ", min is " = CodePoint.ofChar ',' :: " min is " := by decide
  have minimum_comma : Text.ofString ", avg is " = CodePoint.ofChar ',' :: " avg is " := by decide
  have results_star : Text.ofString "**\n- Total: **" = CodePoint.ofChar '*' :: "*\n- Total: **" := by
    decide
  have total_star : Text.ofString "**\n" = CodePoint.ofChar '*' :: "*\n" := by decide
  refine ⟨average, ending, middle, ends.eq_nil_iff,
    bracket_not_mem_details (figures_of_averageText middle) ends.bracket_not_mem, ?_⟩
  simp only [query_bracket, maximum_comma, minimum_comma, results_star, total_star, details, lists,
    List.append_assoc, List.cons_append]

/-- From the text of a report all is known that it tells: the query, the extremes, the outcomes in
order, the total, and whether groups were asked for. -/
theorem recovered_of_render {query otherQuery text : Text} {roll otherRoll : Roll}
    {grouping otherGrouping : Grouping} {showGroups otherShowGroups : Bool}
    (rendered : render query roll grouping showGroups = .ok text)
    (otherRendered : render otherQuery otherRoll otherGrouping otherShowGroups = .ok text) :
    query = otherQuery ∧ roll.maximum = otherRoll.maximum ∧ roll.minimum = otherRoll.minimum ∧
      roll.outcomes = otherRoll.outcomes ∧ roll.total = otherRoll.total ∧
      showGroups = otherShowGroups := by
  obtain ⟨average, ending, middle, ended, bracket, rfl⟩ := exists_details_of_render rendered
  obtain ⟨otherAverage, otherEnding, otherMiddle, otherEnded, otherBracket, same⟩ :=
    exists_details_of_render otherRendered
  have apart {mark : CodePoint} (other : mark.isFigure = false) (n : Int) :=
    (Numeral.figures_ofInt n).not_mem other
  have comma : (CodePoint.ofChar ',').isFigure = false := by decide
  have star : (CodePoint.ofChar '*').isFigure = false := by decide
  obtain ⟨headings, behind⟩ := Text.cut_at_last bracket otherBracket same
  have queries := List.append_cancel_left (List.append_cancel_right headings)
  obtain ⟨maxima, afterMaxima⟩ :=
    Text.cut_at_first (apart comma _) (apart comma _) (List.append_cancel_left behind)
  obtain ⟨minima, afterMinima⟩ :=
    Text.cut_at_first (apart comma _) (apart comma _) (List.append_cancel_left afterMaxima)
  have maximum := Numeral.ofInt_injective maxima
  have minimum := Numeral.ofInt_injective minima
  have averages : average = otherAverage := by
    rw [Roll.average?, maximum, minimum] at middle
    exact Except.ok.inj (middle.symm.trans otherMiddle)
  subst averages
  have afterAverages := List.append_cancel_left (List.append_cancel_left afterMinima)
  obtain ⟨results, afterResults⟩ :=
    Text.cut_at_first (not_mem_join_outcomes star (by decide) _) (not_mem_join_outcomes star (by decide) _)
      (List.append_cancel_left afterAverages)
  obtain ⟨totals, afterTotals⟩ :=
    Text.cut_at_first (apart star _) (apart star _) (List.append_cancel_left afterResults)
  have endings := List.append_cancel_left afterTotals
  have groups : showGroups = false ↔ otherShowGroups = false := by
    rw [← ended, ← otherEnded, endings]
  exact ⟨queries, maximum, minimum, join_outcomes_injective results,
    Numeral.ofInt_injective totals, Bool.eq_iff_iff.mpr (by simpa using groups)⟩

/-- Two rolls of which neither amount nor sides nor modifier agree, for a query that looks like the
start of a report. -/
theorem recovered_of_render_imitated :
    let query : Text := "1d1** (max is 9, min is 9, avg is 9):\n- Results: **9**\n"
    let roll : Roll := ⟨1, 1, 4, [1], 5⟩
    let other : Roll := ⟨0, 7, 5, [1], 5⟩
    ∃ text, render query roll (Grouping.ofOutcomes [1]) true = .ok text ∧
      render query other [] true = .ok text ∧ roll.maximum = other.maximum ∧
      roll.minimum = other.minimum ∧ roll.outcomes = other.outcomes := by
  intro query roll other
  let text : Text := "You rolled **1d1** (max is 9, min is 9, avg is 9):\n- Results: **9**\n"
    ++ "** (max is 5, min is 5, avg is 5):\n- Results: **1**\n- Total: **5**\n- Groups:\n"
  have rendered : render query roll (Grouping.ofOutcomes [1]) true = .ok text := by decide +kernel
  have again : render query other [] true = .ok text := by decide +kernel
  obtain ⟨-, maximum, minimum, outcomes, -, -⟩ := recovered_of_render rendered again
  exact ⟨text, rendered, again, maximum, minimum, outcomes⟩

end Dice.Report

end ChatDice
