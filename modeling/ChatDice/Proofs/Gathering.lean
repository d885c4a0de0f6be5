import ChatDice.Dice.Grouping
import Mathlib.Data.List.Induction
import Mathlib.Data.List.Nodup
import Mathlib.Data.Set.Function

/-!
Gathering outcomes by face loses nothing: the groups divide the positions among the faces, and from
them the outcomes come back. Groups that divide positions in this way are gathered from the outcomes
that they make up, and from no others.
-/

namespace ChatDice.Dice

theorem eraseDups_concat (outcomes : List Int) (face : Int) :
    (outcomes ++ [face]).eraseDups =
      if face ∈ outcomes then outcomes.eraseDups else outcomes.eraseDups ++ [face] := by
  rw [List.eraseDups_append]
  split
  · rename_i known
    simp [List.removeAll, known]
  · rename_i new
    simp [List.removeAll, new, List.eraseDups_cons]

/-- Faces without repetition stand in the order of their first positions. -/
theorem pairwise_eraseDups (outcomes : List Int) :
    outcomes.eraseDups.Pairwise fun face later => outcomes.idxOf face < outcomes.idxOf later := by
  -- From the end: an outcome added there leaves all first positions as they are.
  induction outcomes using List.reverseRecOn with
  | nil => exact .nil
  | append_singleton outcomes face ih =>
    have earlier : outcomes.eraseDups.Pairwise fun first later =>
        (outcomes ++ [face]).idxOf first < (outcomes ++ [face]).idxOf later := by
      refine ih.imp_of_mem fun {first later} firstMember laterMember before => ?_
      rw [List.idxOf_append_of_mem (List.mem_eraseDups.mp firstMember),
        List.idxOf_append_of_mem (List.mem_eraseDups.mp laterMember)]
      exact before
    rw [eraseDups_concat]
    split
    · exact earlier
    · rename_i new
      refine List.pairwise_append.mpr ⟨earlier, List.pairwise_singleton _ _, fun first member => ?_⟩
      have known := List.mem_eraseDups.mp member
      simp only [List.mem_singleton, forall_eq]
      rw [List.idxOf_append_of_mem known, List.idxOf_append_of_notMem new]
      exact Nat.lt_of_lt_of_le (List.idxOf_lt_length_of_mem known) (Nat.le_add_right _ _)

theorem nodup_eraseDups (outcomes : List Int) : outcomes.eraseDups.Nodup :=
  (pairwise_eraseDups outcomes).imp fun before same => by simp [same] at before

namespace Grouping

theorem insert_of_notMem {groups : Grouping} {face : Int} (position : Nat)
    (new : face ∉ groups.map Prod.fst) :
    groups.insert face position = groups ++ [(face, [position])] := by
  induction groups with
  | nil => rfl
  | cons group rest ih =>
    obtain ⟨differs, further⟩ := not_or.mp (List.mem_cons.not.mp new)
    rw [insert, if_neg (Ne.symm differs), ih further, List.cons_append]

/-- A group with one more position if it is that of the face. -/
def extended (face : Int) (position : Nat) (group : Int × List Nat) : Int × List Nat :=
  if group.1 = face then (group.1, group.2 ++ [position]) else group

theorem insert_of_mem {groups : Grouping} {face : Int} (position : Nat)
    (distinct : (groups.map Prod.fst).Nodup) (known : face ∈ groups.map Prod.fst) :
    groups.insert face position = groups.map (extended face position) := by
  induction groups with
  | nil => cases known
  | cons group rest ih =>
    obtain ⟨alone, others⟩ := List.nodup_cons.mp distinct
    rw [insert, List.map_cons, extended]
    by_cases same : group.1 = face
    · have kept : ∀ other ∈ rest, extended face position other = other := by
        intro other member
        have differs : other.1 ≠ face := fun again =>
          alone (same.trans again.symm ▸ List.mem_map_of_mem member)
        rw [extended, if_neg differs]
      rw [if_pos same, if_pos same, List.map_congr_left kept, List.map_id']
    · have further := List.mem_of_ne_of_mem (Ne.symm same) known
      rw [if_neg same, if_neg same, ih others further]

/-- All faces that came up, each with its positions. -/
def tally (outcomes : List Int) : Grouping :=
  outcomes.eraseDups.map fun face => (face, outcomes.idxsOf face)

theorem map_fst_tally (outcomes : List Int) :
    (tally outcomes).map Prod.fst = outcomes.eraseDups := by
  rw [tally, List.map_map]
  exact List.map_id _

theorem mem_faces_tally {outcomes : List Int} {face : Int} :
    face ∈ (tally outcomes).map Prod.fst ↔ face ∈ outcomes := by
  rw [map_fst_tally, List.mem_eraseDups]

theorem nodup_faces_tally (outcomes : List Int) : ((tally outcomes).map Prod.fst).Nodup := by
  rw [map_fst_tally]
  exact nodup_eraseDups outcomes

/-- One more outcome is one more insertion. -/
theorem tally_concat (outcomes : List Int) (face : Int) :
    tally (outcomes ++ [face]) = (tally outcomes).insert face outcomes.length := by
  have positions (other : Int) : (outcomes ++ [face]).idxsOf other =
      outcomes.idxsOf other ++ if face = other then [outcomes.length] else [] := by
    simp [List.idxsOf_append]
  by_cases known : face ∈ outcomes
  · rw [insert_of_mem _ (nodup_faces_tally outcomes) (mem_faces_tally.mpr known), tally, tally,
      eraseDups_concat, if_pos known, List.map_map]
    refine List.map_congr_left fun other _ => ?_
    rw [Function.comp_apply, extended, positions]
    by_cases same : other = face
    · rw [if_pos same, if_pos same.symm]
    · rw [if_neg same, if_neg (Ne.symm same), List.append_nil]
  · have nowhere : outcomes.idxsOf face = [] :=
      List.idxsOf_eq_nil_iff.mpr fun other member =>
        beq_false_of_ne fun same => known (same ▸ member)
    rw [insert_of_notMem _ (mem_faces_tally.not.mpr known), tally, tally, eraseDups_concat,
      if_neg known, List.map_append]
    congr 1
    · refine List.map_congr_left fun other member => ?_
      have differs : face ≠ other := fun same => known (same ▸ List.mem_eraseDups.mp member)
      rw [positions, if_neg differs, List.append_nil]
    · simp [positions, nowhere]

theorem gather_tally (done rest : List Int) :
    gather (tally done) done.length rest = tally (done ++ rest) := by
  induction rest generalizing done with
  | nil => rw [gather, List.append_nil]
  | cons face rest ih =>
    -- What is done grows at its end, by the outcome that is first among the rest.
    have next := ih (done ++ [face])
    rw [tally_concat, List.length_append, List.append_assoc] at next
    exact next

theorem ofOutcomes_eq_tally (outcomes : List Int) : ofOutcomes outcomes = tally outcomes :=
  gather_tally [] outcomes

/-- Only faces that came up have a group. -/
theorem face_mem_outcomes {outcomes : List Int} :
    ∀ group ∈ ofOutcomes outcomes, group.1 ∈ outcomes := by
  intro group member
  rw [ofOutcomes_eq_tally] at member
  exact mem_faces_tally.mp (List.mem_map_of_mem member)

/-- The face has the position in its group. -/
def Lists (groups : Grouping) (face : Int) (position : Nat) : Prop :=
  ∃ positions, (face, positions) ∈ groups ∧ position ∈ positions

/-- Groups that divide the positions below a count among faces. -/
structure Divides (groups : Grouping) (count : Nat) : Prop where
  distinct : (groups.map Prod.fst).Nodup
  filled : ∀ group ∈ groups, group.2 ≠ []
  increasing : ∀ group ∈ groups, group.2.Pairwise (· < ·)
  /-- The faces stand in the order of their first positions. -/
  inOrder : groups.Pairwise fun group later => group.2.head? < later.2.head?
  disjoint : groups.Pairwise fun group later => group.2.Disjoint later.2
  covers : ∀ position, (∃ group ∈ groups, position ∈ group.2) ↔ position < count

theorem mem_tally {outcomes : List Int} {face : Int} {positions : List Nat} :
    (face, positions) ∈ tally outcomes ↔ face ∈ outcomes ∧ positions = outcomes.idxsOf face := by
  rw [tally, List.mem_map]
  constructor
  · rintro ⟨other, member, same⟩
    obtain ⟨rfl, rfl⟩ := Prod.mk.inj same
    exact ⟨List.mem_eraseDups.mp member, rfl⟩
  · rintro ⟨member, rfl⟩
    exact ⟨face, List.mem_eraseDups.mpr member, rfl⟩

theorem lists_tally_iff {outcomes : List Int} {face : Int} {position : Nat} :
    (tally outcomes).Lists face position ↔ outcomes[position]? = some face := by
  constructor
  · rintro ⟨positions, group, listed⟩
    obtain ⟨-, rfl⟩ := mem_tally.mp group
    obtain ⟨inside, same⟩ := List.mem_idxsOf_iff_exists_getElem_pos.mp listed
    exact List.getElem?_eq_some_iff.mpr ⟨inside, eq_of_beq same⟩
  · intro found
    obtain ⟨inside, same⟩ := List.getElem?_eq_some_iff.mp found
    refine ⟨_, mem_tally.mpr ⟨List.mem_of_getElem? found, rfl⟩, ?_⟩
    exact List.mem_idxsOf_iff_exists_getElem_pos.mpr ⟨inside, beq_iff_eq.mpr same⟩

theorem head?_idxsOf {outcomes : List Int} {face : Int} (member : face ∈ outcomes) :
    (outcomes.idxsOf face).head? = some (outcomes.idxOf face) := by
  have some : 0 < (outcomes.idxsOf face).length := by
    rw [List.length_idxsOf]
    exact List.count_pos_iff.mpr member
  rw [List.head?_eq_getElem?, List.getElem?_eq_getElem some, List.getElem_zero_idxsOf_eq_idxOf]

theorem divides_tally (outcomes : List Int) : (tally outcomes).Divides outcomes.length := by
  refine ⟨nodup_faces_tally outcomes, ?filled, ?increasing, ?inOrder, ?disjoint, ?covers⟩
  case filled =>
    rintro ⟨face, positions⟩ member rfl
    obtain ⟨known, same⟩ := mem_tally.mp member
    have first := head?_idxsOf known
    rw [← same] at first
    cases first
  case increasing =>
    rintro ⟨face, positions⟩ member
    obtain ⟨-, rfl⟩ := mem_tally.mp member
    exact List.pairwise_idxsOf
  case inOrder =>
    refine List.pairwise_map.mpr ((pairwise_eraseDups outcomes).imp_of_mem ?_)
    intro face later member laterMember before
    rw [head?_idxsOf (List.mem_eraseDups.mp member), head?_idxsOf (List.mem_eraseDups.mp laterMember)]
    exact before
  case disjoint =>
    refine List.pairwise_map.mpr ((nodup_eraseDups outcomes).imp ?_)
    intro face later differs position listed again
    obtain ⟨_, same⟩ := List.mem_idxsOf_iff_exists_getElem_pos.mp listed
    obtain ⟨_, sameAgain⟩ := List.mem_idxsOf_iff_exists_getElem_pos.mp again
    exact differs ((eq_of_beq same).symm.trans (eq_of_beq sameAgain))
  case covers =>
    intro position
    constructor
    · rintro ⟨⟨face, positions⟩, member, listed⟩
      obtain ⟨-, rfl⟩ := mem_tally.mp member
      exact (List.mem_idxsOf_iff_exists_getElem_pos.mp listed).1
    · intro inside
      obtain ⟨positions, member, listed⟩ := lists_tally_iff.mpr (List.getElem?_eq_getElem inside)
      exact ⟨_, member, listed⟩

/-- Outcomes with a face put at each of some positions. -/
def place (face : Int) (positions : List Nat) (outcomes : List Int) : List Int :=
  positions.foldl (fun outcomes position => outcomes.set position face) outcomes

/-- Outcomes with the face of every group put at its positions. -/
def placeAll (groups : Grouping) (outcomes : List Int) : List Int :=
  groups.foldl (fun outcomes (face, positions) => place face positions outcomes) outcomes

/-- As many outcomes as there are positions, with every face at its own. -/
def rebuilt (groups : Grouping) : List Int :=
  groups.placeAll (List.replicate (groups.flatMap Prod.snd).length 0)

theorem length_place (face : Int) (positions : List Nat) (outcomes : List Int) :
    (place face positions outcomes).length = outcomes.length := by
  induction positions generalizing outcomes with
  | nil => rfl
  | cons position rest ih => exact (ih _).trans List.length_set

theorem getElem?_place_of_notMem {positions : List Nat} {position : Nat}
    (elsewhere : position ∉ positions) (face : Int) (outcomes : List Int) :
    (place face positions outcomes)[position]? = outcomes[position]? := by
  induction positions generalizing outcomes with
  | nil => rfl
  | cons first rest ih =>
    obtain ⟨differs, further⟩ := not_or.mp (List.mem_cons.not.mp elsewhere)
    exact (ih further _).trans (List.getElem?_set_ne (Ne.symm differs))

theorem getElem?_place_of_mem {positions : List Nat} {position : Nat} (listed : position ∈ positions)
    (face : Int) {outcomes : List Int} (inside : position < outcomes.length) :
    (place face positions outcomes)[position]? = some face := by
  induction positions generalizing outcomes with
  | nil => cases listed
  | cons first rest ih =>
    change (place face rest (outcomes.set first face))[position]? = some face
    by_cases further : position ∈ rest
    · exact ih further (by rwa [List.length_set])
    · obtain rfl : position = first := (List.mem_cons.mp listed).resolve_right further
      rw [getElem?_place_of_notMem further, List.getElem?_set_self inside]

theorem length_placeAll (groups : Grouping) (outcomes : List Int) :
    (groups.placeAll outcomes).length = outcomes.length := by
  induction groups generalizing outcomes with
  | nil => rfl
  | cons group rest ih => exact (ih _).trans (length_place _ _ _)

theorem getElem?_placeAll_of_notMem {groups : Grouping} {position : Nat}
    (elsewhere : ∀ group ∈ groups, position ∉ group.2) (outcomes : List Int) :
    (groups.placeAll outcomes)[position]? = outcomes[position]? := by
  induction groups generalizing outcomes with
  | nil => rfl
  | cons group rest ih =>
    obtain ⟨first, others⟩ := List.forall_mem_cons.mp elsewhere
    exact (ih others _).trans (getElem?_place_of_notMem first _ _)

/-- What one group places stays, since no later one has the position as well. -/
theorem getElem?_placeAll_of_mem {groups : Grouping} {group : Int × List Nat} {position : Nat}
    (disjoint : groups.Pairwise fun group later => group.2.Disjoint later.2) (member : group ∈ groups)
    (listed : position ∈ group.2) {outcomes : List Int} (inside : position < outcomes.length) :
    (groups.placeAll outcomes)[position]? = some group.1 := by
  induction groups generalizing outcomes with
  | nil => cases member
  | cons first rest ih =>
    obtain ⟨apart, others⟩ := List.pairwise_cons.mp disjoint
    change (placeAll rest (place first.1 first.2 outcomes))[position]? = some group.1
    rcases List.mem_cons.mp member with rfl | further
    · rw [getElem?_placeAll_of_notMem fun later laterMember again =>
        apart later laterMember listed again]
      exact getElem?_place_of_mem listed _ inside
    · exact ih others further (by rwa [length_place])

namespace Divides

variable {groups others : Grouping} {count : Nat}

/-- Every position below the count is listed once in all. -/
theorem positions_perm (divides : groups.Divides count) :
    (groups.flatMap Prod.snd).Perm (List.range count) := by
  have nodup : (groups.flatMap Prod.snd).Nodup := List.nodup_flatMap.mpr
    ⟨fun group member => (divides.increasing group member).imp Nat.ne_of_lt, divides.disjoint⟩
  refine (List.perm_ext_iff_of_nodup nodup List.nodup_range).mpr fun position => ?_
  rw [List.mem_flatMap, divides.covers, List.mem_range]

theorem length_positions (divides : groups.Divides count) :
    (groups.flatMap Prod.snd).length = count := by
  rw [divides.positions_perm.length_eq, List.length_range]

theorem length_rebuilt (divides : groups.Divides count) : groups.rebuilt.length = count := by
  rw [rebuilt, length_placeAll, List.length_replicate, divides.length_positions]

theorem lists_iff (divides : groups.Divides count) {face : Int} {position : Nat} :
    groups.Lists face position ↔ groups.rebuilt[position]? = some face := by
  have placed {group : Int × List Nat} (member : group ∈ groups) (listed : position ∈ group.2) :
      groups.rebuilt[position]? = some group.1 := by
    refine getElem?_placeAll_of_mem divides.disjoint member listed ?_
    rw [List.length_replicate, divides.length_positions]
    exact (divides.covers position).mp ⟨group, member, listed⟩
  constructor
  · rintro ⟨positions, member, listed⟩
    exact placed member listed
  · intro found
    obtain ⟨inside, -⟩ := List.getElem?_eq_some_iff.mp found
    rw [divides.length_rebuilt] at inside
    obtain ⟨group, member, listed⟩ := (divides.covers position).mpr inside
    obtain rfl := Option.some.inj ((placed member listed).symm.trans found)
    exact ⟨group.2, member, listed⟩

/-- Lists in strict order are the same as soon as they have the same members. -/
private theorem eq_of_mem_iff {α : Type} {before : α → α → Prop}
    (asymmetric : ∀ a b, before a b → ¬ before b a) {l m : List α} (ordered : l.Pairwise before)
    (otherOrdered : m.Pairwise before) (same : ∀ a, a ∈ l ↔ a ∈ m) : l = m := by
  have distinct {k : List α} (ordered : k.Pairwise before) : k.Nodup := by
    refine ordered.imp fun {a b} first again => ?_
    subst again
    exact asymmetric a a first first
  exact List.Perm.eq_of_pairwise (fun a b _ _ first second => absurd second (asymmetric a b first))
    ordered otherOrdered
    ((List.perm_ext_iff_of_nodup (distinct ordered) (distinct otherOrdered)).mpr same)

private theorem not_before_of_before {first second : Option Nat} (before : first < second) :
    ¬ second < first := by
  cases first with
  | none => exact Option.not_lt_none
  | some n =>
    cases second with
    | none => exact absurd before Option.not_lt_none
    | some m =>
      rw [Option.some_lt_some] at before ⊢
      exact Nat.lt_asymm before

theorem mem_positions_iff (divides : groups.Divides count) {face : Int} {positions : List Nat}
    (member : (face, positions) ∈ groups) (position : Nat) :
    position ∈ positions ↔ groups.Lists face position := by
  constructor
  · exact fun listed => ⟨positions, member, listed⟩
  · rintro ⟨other, otherMember, listed⟩
    have same := List.inj_on_of_nodup_map divides.distinct member otherMember rfl
    rwa [(Prod.mk.inj same).2]

private theorem mem_of_lists_iff (divides : groups.Divides count) (otherDivides : others.Divides count)
    (same : ∀ face position, groups.Lists face position ↔ others.Lists face position)
    {group : Int × List Nat} (member : group ∈ groups) : group ∈ others := by
  obtain ⟨face, positions⟩ := group
  -- A position of the group leads to the other group of the face; that both are increasing makes them
  -- the same.
  obtain ⟨position, listed⟩ := List.exists_mem_of_ne_nil _ (divides.filled _ member)
  obtain ⟨otherPositions, otherMember, -⟩ := (same face position).mp ⟨positions, member, listed⟩
  have equal : positions = otherPositions :=
    eq_of_mem_iff (fun _ _ => Nat.lt_asymm) (divides.increasing _ member)
      (otherDivides.increasing _ otherMember) fun position => by
        rw [divides.mem_positions_iff member, same, otherDivides.mem_positions_iff otherMember]
  exact equal ▸ otherMember

/-- Groups that divide positions are told apart by what they list. -/
theorem eq_of_lists_iff (divides : groups.Divides count) (otherDivides : others.Divides count)
    (same : ∀ face position, groups.Lists face position ↔ others.Lists face position) :
    groups = others := by
  refine eq_of_mem_iff (fun _ _ => not_before_of_before) divides.inOrder otherDivides.inOrder
    fun group => ⟨mem_of_lists_iff divides otherDivides same, ?_⟩
  exact mem_of_lists_iff otherDivides divides fun face position => (same face position).symm

end Divides

theorem divides_ofOutcomes (outcomes : List Int) : (ofOutcomes outcomes).Divides outcomes.length := by
  rw [ofOutcomes_eq_tally]
  exact divides_tally outcomes

theorem lists_ofOutcomes_iff {outcomes : List Int} {face : Int} {position : Nat} :
    (ofOutcomes outcomes).Lists face position ↔ outcomes[position]? = some face := by
  rw [ofOutcomes_eq_tally]
  exact lists_tally_iff

theorem rebuilt_ofOutcomes (outcomes : List Int) : (ofOutcomes outcomes).rebuilt = outcomes := by
  refine List.ext_getElem? fun position => Option.ext fun face => ?_
  rw [← (divides_ofOutcomes outcomes).lists_iff, lists_ofOutcomes_iff]

theorem ofOutcomes_rebuilt {groups : Grouping} {count : Nat} (divides : groups.Divides count) :
    ofOutcomes groups.rebuilt = groups := by
  have again := divides_ofOutcomes groups.rebuilt
  rw [divides.length_rebuilt] at again
  refine again.eq_of_lists_iff divides fun face position => ?_
  rw [lists_ofOutcomes_iff, divides.lists_iff]

/-- Gathering outcomes by face is undone by placing every face at its positions: faces come in the
order of their first occurrence, each with the positions where it stands, and every grouping that
divides positions in this way is gathered from the outcomes that it makes up. -/
theorem gathering_lossless :
    (∀ outcomes : List Int,
      let groups := ofOutcomes outcomes
      groups.Divides outcomes.length ∧
      (groups.Pairwise fun group later => outcomes.idxOf group.1 < outcomes.idxOf later.1) ∧
      (∀ face position, groups.Lists face position ↔ outcomes[position]? = some face) ∧
      groups.rebuilt = outcomes) ∧
    (∀ (groups : Grouping) (count : Nat), groups.Divides count →
      groups.rebuilt.length = count ∧ ofOutcomes groups.rebuilt = groups) ∧
    Set.BijOn ofOutcomes Set.univ {groups | ∃ count, groups.Divides count} := by
  refine ⟨fun outcomes => ⟨divides_ofOutcomes outcomes, ?inOrder, fun face position =>
    lists_ofOutcomes_iff, rebuilt_ofOutcomes outcomes⟩, fun groups count divides =>
    ⟨divides.length_rebuilt, ofOutcomes_rebuilt divides⟩, ?bijection⟩
  case inOrder =>
    rw [ofOutcomes_eq_tally]
    exact List.pairwise_map.mpr (pairwise_eraseDups outcomes)
  case bijection =>
    refine ⟨fun outcomes _ => ⟨_, divides_ofOutcomes outcomes⟩, ?injective, ?surjective⟩
    case injective =>
      intro outcomes _ others _ same
      rw [← rebuilt_ofOutcomes outcomes, same, rebuilt_ofOutcomes]
    case surjective =>
      rintro groups ⟨count, divides⟩
      exact ⟨groups.rebuilt, Set.mem_univ _, ofOutcomes_rebuilt divides⟩

/-- A face that comes up again behind another one. -/
theorem gathering_lossless_interleaved :
    Divides [(4, [0, 2, 3]), (-1, [1])] 4 ∧
    rebuilt [(4, [0, 2, 3]), (-1, [1])] = [4, -1, 4, 4] ∧
    ofOutcomes [4, -1, 4, 4] = [(4, [0, 2, 3]), (-1, [1])] := by
  have divides : Divides [(4, [0, 2, 3]), (-1, [1])] 4 := by
    refine ⟨by decide, by decide, by decide, by simp, by simp, fun position => ?_⟩
    simp
    omega
  exact ⟨divides, rfl, (gathering_lossless.2.1 _ 4 divides).2⟩

end Grouping

end ChatDice.Dice
