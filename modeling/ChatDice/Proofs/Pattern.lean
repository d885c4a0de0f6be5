import ChatDice.Text

/-!
Patterns over texts, with repetition of single code points. A pattern can match at one place in
several ways. They are tried in a fixed order, and a search gives the first one at the first place
that has any.
-/

namespace ChatDice

inductive Pattern
  | one (accepts : CodePoint → Bool)
  /-- As few code points as possible. -/
  | lazily (accepts : CodePoint → Bool)
  /-- As many code points as possible. -/
  | greedily (accepts : CodePoint → Bool)
  /-- The body is tried before its absence. -/
  | optional (body : Pattern)
  | group (name : Text) (body : Pattern)
  | andThen (first second : Pattern)

namespace Pattern

/-- One way to match: the text taken, what each group takes, and the text after it. -/
structure Way where
  taken : Text
  groups : List (Text × Text)
  rest : Text
  deriving DecidableEq

def Way.followedBy (first second : Way) : Way :=
  ⟨first.taken ++ second.taken, first.groups ++ second.groups, second.rest⟩

/-- The beginnings of a text that are accepted throughout, with what follows them, the shortest
first. -/
def runs (accepts : CodePoint → Bool) : Text → List (Text × Text)
  | [] => [([], [])]
  | c :: rest =>
    ([], c :: rest) ::
      if accepts c then (runs accepts rest).map fun run => (c :: run.1, run.2) else []

/-- The ways to match at the start of a text, in the order in which they are tried. -/
def ways : Pattern → Text → List Way
  | one accepts, t =>
    match t with
    | [] => []
    | c :: rest => if accepts c then [⟨[c], [], rest⟩] else []
  | lazily accepts, t => (runs accepts t).map fun run => ⟨run.1, [], run.2⟩
  | greedily accepts, t => (runs accepts t).reverse.map fun run => ⟨run.1, [], run.2⟩
  | optional body, t => body.ways t ++ [⟨[], [], t⟩]
  | group name body, t =>
    (body.ways t).map fun way => { way with groups := way.groups ++ [(name, way.taken)] }
  | andThen first second, t =>
    (first.ways t).flatMap fun way => (second.ways way.rest).map way.followedBy

def searchFrom (pattern : Pattern) (start : Nat) : Text → Option (Nat × Way)
  | [] => (pattern.ways []).head?.map fun way => (start, way)
  | c :: rest =>
    match (pattern.ways (c :: rest)).head? with
    | some way => some (start, way)
    | none => pattern.searchFrom (start + 1) rest

/-- The first place at which a pattern matches, with the first way to match there. -/
def search (pattern : Pattern) (t : Text) : Option (Nat × Way) := pattern.searchFrom 0 t

theorem getLast?_runs (accepts : CodePoint → Bool) (t : Text) :
    (runs accepts t).getLast? = some (t.takeWhile accepts, t.dropWhile accepts) := by
  induction t with
  | nil => rfl
  | cons c rest ih =>
    by_cases accepted : accepts c = true
    · simp [runs, accepted, List.getLast?_cons, List.getLast?_map, ih]
    · simp [runs, accepted]

theorem head?_greedily (accepts : CodePoint → Bool) (t : Text) :
    ((greedily accepts).ways t).head? = some ⟨t.takeWhile accepts, [], t.dropWhile accepts⟩ := by
  simp [ways, getLast?_runs]

theorem head?_group {name : Text} {body : Pattern} {t : Text} :
    ((group name body).ways t).head? =
      (body.ways t).head?.map fun way => { way with groups := way.groups ++ [(name, way.taken)] } := by
  simp [ways]

theorem head?_optional {body : Pattern} {t : Text} :
    ((optional body).ways t).head? = some (((body.ways t).head?).getD ⟨[], [], t⟩) := by
  cases found : body.ways t <;> simp [ways, found]

theorem head?_andThen {first second : Pattern} {t : Text} :
    ((andThen first second).ways t).head? =
      (first.ways t).findSome? fun way => (second.ways way.rest).head?.map way.followedBy := by
  simp [ways, List.head?_flatMap]

/-- If what comes first is best done in a way after which the second matches, that way is kept. -/
theorem head?_andThen_of_head? {first second : Pattern} {t : Text} {a b : Way}
    (before : (first.ways t).head? = some a) (after : (second.ways a.rest).head? = some b) :
    ((andThen first second).ways t).head? = some (a.followedBy b) := by
  rw [head?_andThen]
  cases found : first.ways t with
  | nil => simp [found] at before
  | cons way others =>
    have same : way = a := by simpa [found] using before
    simp [same, after]

theorem head?_andThen_of_none {first second : Pattern} {t : Text}
    (before : (first.ways t).head? = none) : ((andThen first second).ways t).head? = none := by
  rw [head?_andThen, List.head?_eq_none_iff.mp before]
  rfl

/-- A run that starts with a code point of a narrower class is taken as a whole. -/
theorem head?_one_greedily {first accepts : CodePoint → Bool}
    (narrower : ∀ c, first c = true → accepts c = true) (t : Text) :
    ((andThen (one first) (greedily accepts)).ways t).head? =
      if t.head?.any first then some ⟨t.takeWhile accepts, [], t.dropWhile accepts⟩ else none := by
  cases t with
  | nil => rfl
  | cons c rest =>
    by_cases starts : first c = true
    · have before : ((one first).ways (c :: rest)).head? = some ⟨[c], [], rest⟩ := by
        simp [ways, starts]
      rw [head?_andThen_of_head? before (head?_greedily accepts rest)]
      simp [starts, narrower c starts, Way.followedBy]
    · have before : ((one first).ways (c :: rest)).head? = none := by
        simp [ways, starts]
      rw [head?_andThen_of_none before]
      simp [starts]

theorem append_of_mem_runs {accepts : CodePoint → Bool} {t : Text} {run : Text × Text}
    (member : run ∈ runs accepts t) : run.1 ++ run.2 = t := by
  induction t generalizing run with
  | nil =>
    rw [runs, List.mem_singleton] at member
    subst run
    rfl
  | cons c rest ih =>
    rw [runs] at member
    rcases List.mem_cons.mp member with stop | further
    · subst run
      rfl
    · split at further
      · obtain ⟨shorter, shorterMember, same⟩ := List.mem_map.mp further
        subst run
        exact congrArg (c :: ·) (ih shorterMember)
      · cases further

theorem accepted_of_mem_runs {accepts : CodePoint → Bool} {t : Text} {run : Text × Text}
    (member : run ∈ runs accepts t) : ∀ c ∈ run.1, accepts c = true := by
  induction t generalizing run with
  | nil =>
    rw [runs, List.mem_singleton] at member
    subst run
    simp
  | cons c rest ih =>
    rw [runs] at member
    rcases List.mem_cons.mp member with stop | further
    · subst run
      simp
    · split at further
      · rename_i accepted
        obtain ⟨shorter, shorterMember, same⟩ := List.mem_map.mp further
        subst run
        exact List.forall_mem_cons.mpr ⟨accepted, ih shorterMember⟩
      · cases further

theorem mem_ways_one {accepts : CodePoint → Bool} {t : Text} {way : Way}
    (member : way ∈ (one accepts).ways t) :
    ∃ c, accepts c = true ∧ way.taken = [c] ∧ way.groups = [] := by
  cases t with
  | nil => cases member
  | cons c rest =>
    rw [ways] at member
    split at member
    · rename_i accepted
      rw [List.mem_singleton] at member
      subst way
      exact ⟨c, accepted, rfl, rfl⟩
    · cases member

theorem mem_ways_greedily {accepts : CodePoint → Bool} {t : Text} {way : Way}
    (member : way ∈ (greedily accepts).ways t) :
    (∀ c ∈ way.taken, accepts c = true) ∧ way.groups = [] := by
  obtain ⟨run, runMember, same⟩ := List.mem_map.mp member
  subst way
  exact ⟨accepted_of_mem_runs (List.mem_reverse.mp runMember), rfl⟩

theorem mem_ways_lazily {accepts : CodePoint → Bool} {t : Text} {way : Way}
    (member : way ∈ (lazily accepts).ways t) :
    (∀ c ∈ way.taken, accepts c = true) ∧ way.groups = [] := by
  obtain ⟨run, runMember, same⟩ := List.mem_map.mp member
  subst way
  exact ⟨accepted_of_mem_runs runMember, rfl⟩

theorem mem_ways_group {name : Text} {body : Pattern} {t : Text} {way : Way}
    (member : way ∈ (group name body).ways t) :
    ∃ inner ∈ body.ways t,
      way.taken = inner.taken ∧ way.groups = inner.groups ++ [(name, inner.taken)] := by
  obtain ⟨inner, innerMember, same⟩ := List.mem_map.mp member
  subst way
  exact ⟨inner, innerMember, rfl, rfl⟩

theorem mem_ways_andThen {first second : Pattern} {t : Text} {way : Way}
    (member : way ∈ (andThen first second).ways t) :
    ∃ before ∈ first.ways t, ∃ after ∈ second.ways before.rest, way = before.followedBy after := by
  obtain ⟨before, beforeMember, within⟩ := List.mem_flatMap.mp member
  obtain ⟨after, afterMember, same⟩ := List.mem_map.mp within
  exact ⟨before, beforeMember, after, afterMember, same.symm⟩

/-- A way takes a beginning of the text. -/
theorem taken_append_rest {pattern : Pattern} {t : Text} {way : Way} (member : way ∈ pattern.ways t) :
    way.taken ++ way.rest = t := by
  induction pattern generalizing t way with
  | one accepts =>
    cases t with
    | nil => cases member
    | cons c rest =>
      rw [ways] at member
      split at member
      · rw [List.mem_singleton] at member
        subst way
        rfl
      · cases member
  | lazily accepts =>
    obtain ⟨run, runMember, same⟩ := List.mem_map.mp member
    subst way
    exact append_of_mem_runs runMember
  | greedily accepts =>
    obtain ⟨run, runMember, same⟩ := List.mem_map.mp member
    subst way
    exact append_of_mem_runs (List.mem_reverse.mp runMember)
  | optional body ih =>
    rcases List.mem_append.mp member with taken | skipped
    · exact ih taken
    · rw [List.mem_singleton] at skipped
      subst way
      rfl
  | group name body ih =>
    obtain ⟨inner, innerMember, same⟩ := List.mem_map.mp member
    subst way
    have whole : inner.taken ++ inner.rest = t := ih innerMember
    exact whole
  | andThen first second firstIh secondIh =>
    obtain ⟨before, beforeMember, after, afterMember, same⟩ := mem_ways_andThen member
    subst way
    calc
      before.taken ++ after.taken ++ after.rest = before.taken ++ (after.taken ++ after.rest) :=
        List.append_assoc ..
      _ = before.taken ++ before.rest := by rw [secondIh afterMember]
      _ = t := firstIh beforeMember

private theorem mem_ways_of_searchFrom {pattern : Pattern} {first place : Nat} {t : Text} {way : Way}
    (found : pattern.searchFrom first t = some (place, way)) :
    first ≤ place ∧ way ∈ pattern.ways (t.drop (place - first)) := by
  induction t generalizing first with
  | nil =>
    rw [searchFrom] at found
    obtain ⟨_, best, same⟩ := Option.map_eq_some_iff.mp found
    cases same
    exact ⟨Nat.le_refl _, by simpa using List.mem_of_head? best⟩
  | cons c rest ih =>
    rw [searchFrom] at found
    split at found
    · rename_i best
      cases found
      exact ⟨Nat.le_refl _, by simpa using List.mem_of_head? best⟩
    · obtain ⟨beyond, member⟩ := ih found
      refine ⟨Nat.le_of_succ_le beyond, ?_⟩
      rw [show place - first = place - (first + 1) + 1 by omega, List.drop_succ_cons]
      exact member

/-- A search gives a way to match at the place that it gives. -/
theorem mem_ways_of_search {pattern : Pattern} {t : Text} {place : Nat} {way : Way}
    (found : pattern.search t = some (place, way)) : way ∈ pattern.ways (t.drop place) :=
  (mem_ways_of_searchFrom found).2

end Pattern

end ChatDice
