import ChatDice.Proofs.Gathering
import ChatDice.Proofs.Recovering
import ChatDice.Proofs.Totals
import Mathlib.Data.Int.Interval

/-!
What the bullets of a report tell. There is one for each face that came up at least twice, with the
number of times, and so none exactly if all outcomes differ; their order is all that depends on the
order of the outcomes.
-/

namespace ChatDice

namespace Text

variable {mark : CodePoint} {separator : Text} {parts : List Text}

theorem join_eq_nil_iff (filled : ∀ part ∈ parts, part ≠ []) :
    join separator parts = [] ↔ parts = [] := by
  constructor
  · intro empty
    cases parts with
    | nil => rfl
    | cons part rest =>
      obtain ⟨first, -⟩ := List.forall_mem_cons.mp filled
      cases rest with
      | nil => exact absurd (by simpa [join] using empty) first
      | cons next rest =>
        rw [join_cons_cons] at empty
        exact absurd (List.append_eq_nil_iff.mp empty).1 first
  · rintro rfl
    rfl

/-- A mark that parts do not hold neither starts nor ends what is joined from them. -/
theorem ends_join (held : ∀ part ∈ parts, part ≠ [] ∧ mark ∉ part) :
    (join separator parts).head? ≠ some mark ∧ (join separator parts).getLast? ≠ some mark := by
  induction parts with
  | nil => simp [join]
  | cons part rest ih =>
    obtain ⟨⟨filled, apart⟩, others⟩ := List.forall_mem_cons.mp held
    have first : part.head? ≠ some mark := fun starts => apart (List.mem_of_head? starts)
    cases rest with
    | nil =>
      have last : part.getLast? ≠ some mark := fun ends => apart (List.mem_of_getLast? ends)
      simpa [join] using ⟨first, last⟩
    | cons next rest =>
      have further : join separator (next :: rest) ≠ [] :=
        (join_eq_nil_iff fun part member => (others part member).1).not.mpr (List.cons_ne_nil _ _)
      rw [join_cons_cons, List.head?_append_of_ne_nil _ filled, ← List.append_assoc,
        List.getLast?_append_of_ne_nil _ further]
      exact ⟨first, (ih others).2⟩

end Text

namespace Dice

open Grouping

/-- The faces that came up at least twice, in the order in which they first did. -/
def repeatedFaces (outcomes : List Int) : List Int :=
  outcomes.eraseDups.filter fun face => 2 ≤ outcomes.count face

/-- The faces that came up once. -/
def singleFaces (outcomes : List Int) : List Int :=
  outcomes.eraseDups.filter fun face => outcomes.count face = 1

variable {outcomes others : List Int}

theorem mem_repeatedFaces {face : Int} : face ∈ repeatedFaces outcomes ↔ 2 ≤ outcomes.count face := by
  rw [repeatedFaces, List.mem_filter, List.mem_eraseDups, decide_eq_true_eq, and_iff_right_iff_imp]
  exact fun twice => List.count_pos_iff.mp (Nat.lt_of_lt_of_le Nat.zero_lt_two twice)

theorem repeatedFaces_eq_nil_iff : repeatedFaces outcomes = [] ↔ outcomes.Nodup := by
  rw [List.nodup_iff_count_le_one, List.eq_nil_iff_forall_not_mem]
  refine forall_congr' fun face => ?_
  rw [mem_repeatedFaces]
  omega

theorem eraseDups_perm (perm : outcomes.Perm others) : outcomes.eraseDups.Perm others.eraseDups := by
  refine (List.perm_ext_iff_of_nodup (nodup_eraseDups _) (nodup_eraseDups _)).mpr fun face => ?_
  rw [List.mem_eraseDups, List.mem_eraseDups, perm.mem_iff]

theorem repeatedFaces_perm (perm : outcomes.Perm others) :
    (repeatedFaces outcomes).Perm (repeatedFaces others) := by
  simp only [repeatedFaces, perm.count_eq]
  exact (eraseDups_perm perm).filter _

theorem sum_count_eraseDups (outcomes : List Int) :
    (outcomes.eraseDups.map outcomes.count).sum = outcomes.length := by
  have length := (divides_tally outcomes).length_positions
  rw [List.length_flatMap, tally, List.map_map] at length
  simpa [Function.comp_def] using length

/-- Positive numbers from two on, and the number of ones. -/
private theorem sum_add_ones {faces : List Int} {count : Int → Nat}
    (positive : ∀ face ∈ faces, 0 < count face) :
    ((faces.filter fun face => 2 ≤ count face).map count).sum +
      (faces.filter fun face => count face = 1).length = (faces.map count).sum := by
  induction faces with
  | nil => rfl
  | cons face rest ih =>
    obtain ⟨first, further⟩ := List.forall_mem_cons.mp positive
    have rest := ih further
    by_cases once : count face = 1
    · rw [List.filter_cons_of_neg (by simp [once]), List.filter_cons_of_pos (by simp [once]),
        List.map_cons, List.sum_cons, List.length_cons]
      omega
    · have twice : 2 ≤ count face := by omega
      rw [List.filter_cons_of_pos (by simp [twice]), List.filter_cons_of_neg (by simp [once]),
        List.map_cons, List.map_cons, List.sum_cons, List.sum_cons]
      omega

theorem sum_repeated_add_single (outcomes : List Int) :
    ((repeatedFaces outcomes).map outcomes.count).sum + (singleFaces outcomes).length =
      outcomes.length := by
  rw [repeatedFaces, singleFaces, sum_add_ones, sum_count_eraseDups]
  exact fun face member => List.count_pos_iff.mpr (List.mem_eraseDups.mp member)

/-- More dice than faces show some face twice. -/
theorem not_nodup_of_lt {sides : Int} (within : ∀ face ∈ outcomes, 1 ≤ face ∧ face ≤ sides)
    (more : sides.toNat < outcomes.length) : ¬ outcomes.Nodup := by
  intro distinct
  have faces : outcomes.toFinset ⊆ Finset.Icc 1 sides := fun face member =>
    Finset.mem_Icc.mpr (within face (List.mem_toFinset.mp member))
  have card := Finset.card_le_card faces
  rw [List.toFinset_card_of_nodup distinct, Int.card_Icc, Int.add_sub_cancel] at card
  exact Nat.not_lt.mpr card more

namespace Report

/-- The bullets of outcomes. -/
def bullets (outcomes : List Int) : List Text :=
  (repeatedFaces outcomes).map fun face => bullet (outcomes.count face) face

/-- Every bullet is one line. -/
theorem line_of_mem_bullets {line : Text} (member : line ∈ bullets outcomes) :
    line ≠ [] ∧ CodePoint.ofChar '\n' ∉ line := by
  obtain ⟨face, -, rfl⟩ := List.mem_map.mp member
  have other : (CodePoint.ofChar '\n').isFigure = false := by decide
  have number := (Text.figures_of_digits (Numeral.isDigit_ofNat (outcomes.count face))).not_mem other
  have shown := (Numeral.figures_ofInt face).not_mem other
  simp only [bullet, ne_eq, List.mem_append, List.append_eq_nil_iff, not_or]
  exact ⟨fun empty => absurd empty.2 (by decide), ⟨⟨⟨by decide, number⟩, by decide⟩, shown⟩, by decide⟩

theorem groups_eq_bullets (small : ∀ face ∈ outcomes, face.natAbs < 10 ^ Numeral.digitLimit) :
    groups (ofOutcomes outcomes) = .ok (Text.join "\n" (bullets outcomes)) := by
  have faces : (ofOutcomes outcomes).repeated =
      (repeatedFaces outcomes).map fun face => (face, outcomes.idxsOf face) := by
    -- A face has as many positions as it came up times.
    rw [ofOutcomes_eq_tally, tally, repeated, List.filter_map, repeatedFaces]
    congr 1
    refine List.filter_congr fun face _ => ?_
    rw [Function.comp_apply, List.length_idxsOf]
    rfl
  rw [groups_eq_join small, faces, List.map_map, bullets]
  congr 2
  refine List.map_congr_left fun face _ => ?_
  change bullet (outcomes.idxsOf face).length face = _
  rw [List.length_idxsOf]

theorem bullets_perm (perm : outcomes.Perm others) : (bullets outcomes).Perm (bullets others) := by
  simp only [bullets, perm.count_eq]
  exact (repeatedFaces_perm perm).map _

theorem join_bullets_eq_nil_iff : Text.join "\n" (bullets outcomes) = [] ↔ outcomes.Nodup := by
  rw [Text.join_eq_nil_iff fun line member => (line_of_mem_bullets member).1, bullets,
    List.map_eq_nil_iff, repeatedFaces_eq_nil_iff]

/-- The bullets of outcomes, each on a line of its own: one for every face that came up at least
twice, in the order in which the faces first did, and none for the others. There is no bullet exactly
if no face came up again, which more dice than faces rule out. -/
theorem groups_repeated (small : ∀ face ∈ outcomes, face.natAbs < 10 ^ Numeral.digitLimit) :
    let faces := repeatedFaces outcomes
    let text := Text.join "\n" (bullets outcomes)
    groups (ofOutcomes outcomes) = .ok text ∧
    bullets outcomes = faces.map (fun face =>
      "  - **" ++ Numeral.ofNat (outcomes.count face) ++ "** " ++ Numeral.ofInt face ++ "s") ∧
    (∀ face, face ∈ faces ↔ 2 ≤ outcomes.count face) ∧
    (faces.Pairwise fun face later => outcomes.idxOf face < outcomes.idxOf later) ∧
    (∀ line ∈ bullets outcomes, CodePoint.ofChar '\n' ∉ line) ∧
    text.head? ≠ some (CodePoint.ofChar '\n') ∧ text.getLast? ≠ some (CodePoint.ofChar '\n') ∧
    (text = [] ↔ outcomes.Nodup) ∧
    (faces.map outcomes.count).sum + (singleFaces outcomes).length = outcomes.length ∧
    (∀ others, outcomes.Perm others →
      groups (ofOutcomes others) = .ok (Text.join "\n" (bullets others)) ∧
        (bullets outcomes).Perm (bullets others)) ∧
    ∀ {σ : Type} (spec : Specification) (draw : Draw σ) (state : σ),
      outcomes = (spec.roll draw state).1.outcomes → draw.GivesFaces spec.sides →
        spec.sides < spec.amount → text ≠ [] := by
  intro faces text
  obtain ⟨starts, ends⟩ : text.head? ≠ some (CodePoint.ofChar '\n') ∧
      text.getLast? ≠ some (CodePoint.ofChar '\n') :=
    Text.ends_join fun line member => line_of_mem_bullets member
  refine ⟨groups_eq_bullets small, rfl, fun face => mem_repeatedFaces,
    (pairwise_eraseDups outcomes).filter _, fun line member => (line_of_mem_bullets member).2, starts,
    ends, join_bullets_eq_nil_iff, sum_repeated_add_single outcomes, ?permuted, ?rolled⟩
  case permuted =>
    intro others perm
    exact ⟨groups_eq_bullets fun face member => small face (perm.mem_iff.mpr member),
      bullets_perm perm⟩
  case rolled =>
    rintro σ spec draw state rfl within more
    have shows := spec.roll_shows within state
    have positive := within state
    rw [ne_eq, join_bullets_eq_nil_iff]
    exact not_nodup_of_lt shows.faces (by rw [shows.dice]; omega)

/-- Four dice of three faces, two of which come up twice. -/
theorem groups_repeated_four_dice :
    (∀ face ∈ [3, 1, 3, (1 : Int)], face.natAbs < 10 ^ Numeral.digitLimit) ∧
    [3, 1, 3, 1] = (Specification.roll ⟨"4d3", 4, 3, 0⟩ Draw.listed [3, 1, 3, 1]).1.outcomes ∧
    Draw.listed.GivesFaces 3 ∧
    groups (ofOutcomes [3, 1, 3, 1]) = .ok "  - **2** 3s\n  - **2** 1s" ∧
    Text.join "\n" (bullets [3, 1, 3, 1]) ≠ [] := by
  have small : ∀ face ∈ [3, 1, 3, (1 : Int)], face.natAbs < 10 ^ Numeral.digitLimit := by
    decide +kernel
  have rolled : [3, 1, 3, 1] =
      (Specification.roll ⟨"4d3", 4, 3, 0⟩ Draw.listed [3, 1, 3, 1]).1.outcomes := by decide
  have faces : Draw.listed.GivesFaces 3 := Draw.listed_inBounds.givesFaces (by decide)
  obtain ⟨listed, -, -, -, -, -, -, -, -, -, nonempty⟩ := groups_repeated small
  have text : Text.join "\n" (bullets [3, 1, 3, 1]) = "  - **2** 3s\n  - **2** 1s" := by
    decide +kernel
  exact ⟨small, rolled, faces, text ▸ listed, nonempty _ _ _ rolled faces (by decide)⟩

end Report

end Dice

end ChatDice
