import ChatDice.Calendar
import ChatDice.Proofs.Reporting
import ChatDice.Proofs.Wire

/-!
What a report repeats. It is the query between texts without surrogates, so that surrogates which do
not meet in the query do not meet in the report either.
-/

namespace ChatDice

namespace Text

theorem surrogateFree_append {s t : Text} :
    (s ++ t).SurrogateFree ↔ s.SurrogateFree ∧ t.SurrogateFree := List.forall_mem_append

theorem Visible.surrogateFree {t : Text} (visible : t.Visible) : t.SurrogateFree := by
  intro c member
  have bounds := visible c member
  exact CodePoint.isSurrogate_of_lt (by omega)

theorem surrogateFree_of_all {t : Text} (all : t.all (fun c => !c.isSurrogate) = true) :
    t.SurrogateFree := by
  intro c member
  simpa using List.all_eq_true.mp all c member

theorem SurrogateFree.not_pair {c d : CodePoint}
    (character : c.isSurrogate = false ∨ d.isSurrogate = false) :
    ¬ (c.isHighSurrogate = true ∧ d.isLowSurrogate = true) := by
  rintro ⟨high, low⟩
  simp [CodePoint.isSurrogate_of_isHighSurrogate high,
    CodePoint.isSurrogate_of_isLowSurrogate low] at character

theorem SurrogateFree.unpaired {t : Text} (free : t.SurrogateFree) : t.Unpaired := by
  induction t with
  | nil => exact .nil
  | cons c t ih =>
    obtain ⟨character, others⟩ := List.forall_mem_cons.mp free
    exact List.isChain_cons.mpr ⟨fun d _ => SurrogateFree.not_pair (.inl character), ih others⟩

/-- A text stays unpaired between two texts without surrogates. -/
theorem unpaired_between {before t after : Text} (left : before.SurrogateFree) (inside : t.Unpaired)
    (right : after.SurrogateFree) : (before ++ (t ++ after)).Unpaired := by
  refine List.isChain_append.mpr ⟨left.unpaired, List.isChain_append.mpr ⟨inside, right.unpaired, ?_⟩, ?_⟩
  · intro c _ d first
    exact SurrogateFree.not_pair (.inr (right d (List.mem_of_mem_head? first)))
  · intro c last d _
    exact SurrogateFree.not_pair (.inl (left c (List.mem_of_mem_getLast? last)))

theorem surrogateFree_join {separator : Text} {parts : List Text} (between : separator.SurrogateFree)
    (each : ∀ part ∈ parts, part.SurrogateFree) : (join separator parts).SurrogateFree := by
  induction parts with
  | nil => simp [join, SurrogateFree]
  | cons part rest ih =>
    obtain ⟨first, others⟩ := List.forall_mem_cons.mp each
    cases rest with
    | nil => simpa [join] using first
    | cons next rest =>
      have joined : join separator (part :: next :: rest) =
          part ++ (separator ++ join separator (next :: rest)) := by simp [join, List.intercalate]
      rw [joined]
      exact surrogateFree_append.mpr ⟨first, surrogateFree_append.mpr ⟨between, ih others⟩⟩

/-- The first text stands in the second one, between texts without surrogates. -/
def EchoedIn (t whole : Text) : Prop :=
  ∃ before after, whole = before ++ (t ++ after) ∧ before.SurrogateFree ∧ after.SurrogateFree

theorem EchoedIn.after (before t : Text) (free : before.SurrogateFree) : t.EchoedIn (before ++ t) :=
  ⟨before, [], by simp, free, by simp [SurrogateFree]⟩

theorem EchoedIn.append {t whole : Text} (echoed : t.EchoedIn whole) (further : Text)
    (free : further.SurrogateFree) : t.EchoedIn (whole ++ further) := by
  obtain ⟨before, after, rfl, left, right⟩ := echoed
  exact ⟨before, after ++ further, by simp, left, surrogateFree_append.mpr ⟨right, free⟩⟩

theorem EchoedIn.unpaired {t whole : Text} (echoed : t.EchoedIn whole) (inside : t.Unpaired) :
    whole.Unpaired := by
  obtain ⟨before, after, rfl, left, right⟩ := echoed
  exact unpaired_between left inside right

end Text

namespace Dice.Report

theorem visible_of_number {n : Int} {t : Text} (written : number n = .ok t) : t.Visible := by
  rw [eq_of_number written]
  exact Json.visible_ofInt n

theorem visible_of_averageText {average : Option Binary64} {t : Text}
    (written : averageText average = .ok t) : t.Visible := by
  unfold averageText at written
  split at written
  · cases written
  · split at written
    · exact visible_of_number written
    · cases written
      refine Json.visible_layout (fun negative => ?_) (Text.visible_of_all (by decide)) _
      cases negative <;> exact Text.visible_of_all (by decide)

theorem visible_of_groupLine {group : Int × List Nat} {line : Text}
    (written : groupLine group = .ok line) : line.Visible := by
  obtain ⟨face, shown, done⟩ := exists_of_bind_eq_ok written
  cases done
  simp only [Text.visible_append]
  exact ⟨⟨⟨⟨Text.visible_of_all (by decide), Text.visible_of_digits (Numeral.isDigit_ofNat _)⟩,
    Text.visible_of_all (by decide)⟩, visible_of_number shown⟩, Text.visible_of_all (by decide)⟩

theorem surrogateFree_of_groups {grouping : Grouping} {t : Text}
    (written : groups grouping = .ok t) : t.SurrogateFree := by
  obtain ⟨lines, found, rfl⟩ := exists_of_groups written
  exact Text.surrogateFree_join (Text.surrogateFree_of_all (by decide)) fun line member =>
    (forall_mem_of_groupLines visible_of_groupLine found line member).surrogateFree

/-- A report repeats the query, and has no surrogates beside those of the query. -/
theorem echoedIn_of_render {query text : Text} {roll : Roll} {grouping : Grouping}
    {showGroups : Bool} (rendered : render query roll grouping showGroups = .ok text) :
    query.EchoedIn text := by
  obtain ⟨average, ending, middle, ends, rfl⟩ := exists_of_render rendered
  have fixed {t : Text} (all : t.all (fun c => !c.isSurrogate) = true) : t.SurrogateFree :=
    Text.surrogateFree_of_all all
  have figures (n : Int) : (Numeral.ofInt n).SurrogateFree := (Json.visible_ofInt n).surrogateFree
  have results : (Text.join ", " (roll.outcomes.map Numeral.ofInt)).SurrogateFree := by
    refine Text.surrogateFree_join (fixed (by decide)) fun outcome member => ?_
    obtain ⟨n, -, rfl⟩ := List.mem_map.mp member
    exact figures n
  have last : ending.SurrogateFree := by
    cases ends with
    | short => exact fixed rfl
    | grouped written =>
      exact Text.surrogateFree_append.mpr ⟨fixed (by decide), surrogateFree_of_groups written⟩
  exact Text.EchoedIn.after "You rolled **" query (fixed (by decide))
    |>.append "** (max is " (fixed (by decide))
    |>.append _ (figures roll.maximum)
    |>.append ", min is " (fixed (by decide))
    |>.append _ (figures roll.minimum)
    |>.append ", avg is " (fixed (by decide))
    |>.append average (visible_of_averageText middle).surrogateFree
    |>.append "):\n- Results: **" (fixed (by decide))
    |>.append _ results
    |>.append "**\n- Total: **" (fixed (by decide))
    |>.append _ (figures roll.total)
    |>.append "**\n" (fixed (by decide))
    |>.append ending last

end Dice.Report

theorem Dice.Failure.visible_message (failure : Failure) : failure.message.Visible := by
  cases failure <;> exact Text.visible_of_all (by decide)

theorem visible_padded (width n : Nat) : (Numeral.padded width n).Visible :=
  Text.visible_of_digits (Numeral.isDigit_padded width n)

theorem Moment.visible_offsetText (offset : Option Int) : (offsetText offset).Visible := by
  cases offset with
  | none => exact Text.visible_nil
  | some minutes =>
    have colon : (Text.ofString ":").Visible := Text.visible_of_all (by decide)
    simp only [offsetText, Text.visible_append, visible_padded, colon, and_true]
    split <;> exact Text.visible_of_all (by decide)

theorem Moment.visible_iso {separator : Text} (between : separator.Visible) (m : Moment) :
    (m.iso separator).Visible := by
  have hyphen : (Text.ofString "-").Visible := Text.visible_of_all (by decide)
  have colon : (Text.ofString ":").Visible := Text.visible_of_all (by decide)
  have point : (Text.ofString ".").Visible := Text.visible_of_all (by decide)
  simp only [iso, Date.iso, Text.visible_append, visible_padded, hyphen, colon, between,
    visible_offsetText, and_true, true_and]
  split
  · exact Text.visible_nil
  · exact Text.visible_append.mpr ⟨point, visible_padded 6 _⟩

end ChatDice
