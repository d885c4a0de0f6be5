import ChatDice.Proofs.Segments

/-!
Invocations that are interleaved. Their segments may come in any order, with activations and
shutdowns between them and with calls that the bus refuses; each invocation still makes the calls
that it makes when the messages are handled one after another, in the order of their first segments.
-/

namespace ChatDice.Plugin

open Dice

variable {σ : Type}

/-- The calls are the same, or events that differ by the time that they give. -/
inductive SameButTime : Bus.Call → Bus.Call → Prop
  | same (call : Bus.Call) : SameButTime call call
  | event (request : Request) (told : List (Text × Json)) (now later : Moment) :
      SameButTime (request.announce now told) (request.announce later told)

/-- Whenever the delivery is made, its call is the same but for the time that it gives. -/
def Delivery.Steady (delivery : Delivery) : Prop :=
  ∀ now later, Option.Rel SameButTime (delivery.call now).toOption (delivery.call later).toOption

theorem Delivery.steady_of_const {delivery : Delivery}
    (const : ∀ now later, delivery.call now = delivery.call later) : delivery.Steady := by
  intro now later
  rw [const now later]
  cases (delivery.call later).toOption with
  | none => exact .none
  | some call => exact .some (.same call)

/-- Deliveries made each at its own time attempt the calls that they attempt at any one time. -/
theorem same_made {entries : List (Delivery × Moment)}
    (steady : ∀ delivery ∈ entries.map Prod.fst, delivery.Steady) (later : Moment) :
    List.Forall₂ SameButTime (made entries)
      ((entries.map Prod.fst).filterMap fun delivery => (delivery.call later).toOption) := by
  have pairs : List.Forall₂ (fun entry delivery => entry.1 = delivery ∧ delivery.Steady) entries
      (entries.map Prod.fst) := by
    rw [List.forall₂_map_right_iff, List.forall₂_same]
    exact fun entry member => ⟨rfl, steady entry.1 (List.mem_map_of_mem member)⟩
  refine List.rel_filterMap ?_ pairs
  rintro ⟨delivery, now⟩ _ ⟨rfl, steady⟩
  exact steady now later

/-- What can come next: a segment of an invocation, or a step that starts or stops the plugin. -/
inductive Action (count : Nat)
  | resume (place : Fin count)
  | activate
  | shutdown

/-- An action with the time at which it is taken and the calls that the bus refuses in it. -/
structure Slot (count : Nat) where
  action : Action count
  now : Moment
  faults : Bus.Faults

/-- A session with the invocations of its handler. -/
structure Traffic (σ : Type) (count : Nat) where
  session : Session σ
  invocations : Fin count → Invocation

variable {count : Nat}

namespace Traffic

def start (session : Session σ) (messages : Fin count → Message) : Traffic σ count :=
  ⟨session, fun place => .ofMessage (messages place)⟩

end Traffic

/-- The invocation that an action resumes. -/
def Action.place? : Action count → Option (Fin count)
  | .resume place => some place
  | _ => none

/-- The invocations that a schedule resumes, in the order of their first segments. -/
def opened (slots : List (Slot count)) : List (Fin count) :=
  (slots.filterMap fun slot => slot.action.place?).eraseDups

theorem opened_concat_of_none {slots : List (Slot count)} {slot : Slot count}
    (other : slot.action.place? = none) : opened (slots ++ [slot]) = opened slots := by
  simp [opened, other]

theorem opened_concat_of_some {slots : List (Slot count)} {slot : Slot count} {place : Fin count}
    (resumes : slot.action.place? = some place) :
    (place ∈ opened slots ∧ opened (slots ++ [slot]) = opened slots) ∨
    (place ∉ opened slots ∧ opened (slots ++ [slot]) = opened slots ++ [place]) := by
  have further : (slots ++ [slot]).filterMap (fun slot => slot.action.place?) =
      slots.filterMap (fun slot => slot.action.place?) ++ [place] := by
    simp [resumes]
  rw [opened, opened, further, List.eraseDups_append, List.mem_eraseDups]
  generalize slots.filterMap (fun slot => slot.action.place?) = places
  by_cases again : place ∈ places
  · have removed : [place].removeAll places = [] := by simp [List.removeAll, again]
    rw [removed, List.eraseDups_nil, List.append_nil]
    exact .inl ⟨again, rfl⟩
  · have kept : [place].removeAll places = [place] := by simp [List.removeAll, again]
    rw [kept]
    exact .inr ⟨again, rfl⟩

theorem mem_opened_iff {slots : List (Slot count)} {place : Fin count} :
    place ∈ opened slots ↔ ∃ slot ∈ slots, slot.action = .resume place := by
  rw [opened, List.mem_eraseDups, List.mem_filterMap]
  refine exists_congr fun slot => and_congr_right fun _ => ?_
  cases slot.action with
  | resume other => simp [Action.place?]
  | activate => simp [Action.place?]
  | shutdown => simp [Action.place?]

theorem nodup_opened (slots : List (Slot count)) : (opened slots).Nodup := by
  induction slots using List.reverseRecOn with
  | nil => exact List.nodup_nil
  | append_singleton slots slot ih =>
    cases resumes : slot.action.place? with
    | none => rwa [opened_concat_of_none resumes]
    | some place =>
      rcases opened_concat_of_some resumes with ⟨-, same⟩ | ⟨first, longer⟩
      · rwa [same]
      · rw [longer, ← List.concat_eq_append]
        exact ih.concat first

section Messages

variable [Json.Nesting]

theorem Request.steady_event {request : Request} (fits : request.Spellable) {spec : Specification}
    (parsed : parse request.dice = .ok spec) {settings : Settings} {roll : Roll} {text : Text}
    (reported : request.report spec settings roll = .ok text) :
    (eventDelivery request spec roll).Steady := by
  intro now later
  have inRange := inRange_of_parse parsed
  rw [request.call_eventDelivery fits inRange reported now,
    request.call_eventDelivery fits inRange reported later]
  by_cases shallow : request.eventDepth ≤ Json.Nesting.written
  · rw [if_pos shallow, if_pos shallow]
    exact .some (.event request (tellings spec roll) now later)
  · rw [if_neg shallow, if_neg shallow]
    exact .none

/-- Every delivery of a plan can be made at any time. -/
theorem Message.steady_of_plan (message : Message) (draw : Draw σ) (settings : Settings) (source : σ) :
    ∀ delivery ∈ (message.plan draw settings source).1.deliveries, delivery.Steady := by
  intro delivery planned
  rcases message.kinds with ⟨members, holds⟩ | malformed | tooDeep
  · have fits := Request.spellable_of_holds holds
    rw [plan_of_holds holds] at planned
    unfold Request.plan at planned
    split at planned
    · rw [List.mem_singleton.mp planned]
      exact Delivery.steady_of_const fun _ _ => rfl
    · rename_i spec parsed
      dsimp only at planned
      split at planned
      · cases planned
      · rename_i text reported
        rcases List.mem_cons.mp planned with rfl | event
        · exact Delivery.steady_of_const fun _ _ => rfl
        · split at event
          · rw [List.mem_singleton.mp event]
            exact Request.steady_event fits parsed reported
          · cases event
  · rw [deliveries_of_malformed malformed] at planned
    split at planned
    · rw [List.mem_singleton.mp planned]
      exact Delivery.steady_of_const fun _ _ => rfl
    · cases planned
  · simp [plan, members_of_tooDeep tooDeep] at planned

namespace Traffic

def take (traffic : Traffic σ count) (draw : Draw σ) (slot : Slot count) : Traffic σ count :=
  match slot.action with
  | .resume place =>
    let (resumed, source) := (traffic.invocations place).resume traffic.session.plugin.settings draw
      slot.faults slot.now traffic.session.source
    { session := { traffic.session with source }
      invocations := Function.update traffic.invocations place resumed }
  | .activate =>
    { traffic with session := (traffic.session.step draw slot.faults slot.now .activate).1 }
  | .shutdown =>
    { traffic with session := (traffic.session.step draw slot.faults slot.now .shutdown).1 }

/-- The traffic that a schedule leads to. -/
def after (traffic : Traffic σ count) (draw : Draw σ) (slots : List (Slot count)) : Traffic σ count :=
  slots.foldl (fun traffic slot => traffic.take draw slot) traffic

theorem after_concat (traffic : Traffic σ count) (draw : Draw σ) (slots : List (Slot count))
    (slot : Slot count) :
    traffic.after draw (slots ++ [slot]) = (traffic.after draw slots).take draw slot :=
  List.foldl_append

end Traffic

/-- The handling of a message by itself, at any time and on any bus. -/
def handling (messages : Fin count → Message) (now : Fin count → Moment) (faults : Fin count → Bus.Faults)
    (place : Fin count) : Turn :=
  ⟨.handle (messages place), now place, faults place⟩

/-- An invocation goes the way of a turn that handles its message by itself. -/
structure Invocation.Tracks (invocation : Invocation) (draw : Draw σ) (settings : Settings)
    (message : Message) (taken : Taken σ) : Prop where
  unchanged : taken.before.plugin.settings = settings
  handled : ∃ now faults, taken = taken.before.take draw ⟨.handle message, now, faults⟩
  follows : invocation.Follows settings (message.plan draw settings taken.before.source).1

/-- Traffic stands where the turns of its opened invocations, one after another, lead to. -/
structure Traffic.Tracks (traffic : Traffic σ count) (session : Session σ) (draw : Draw σ)
    (messages : Fin count → Message) (now : Fin count → Moment) (faults : Fin count → Bus.Faults)
    (places : List (Fin count)) : Prop where
  unchanged : traffic.session.plugin.settings = session.plugin.settings
  source : traffic.session.source =
    (session.reached draw (places.map (handling messages now faults))).source
  unopened : ∀ place, place ∉ places → traffic.invocations place = .ofMessage (messages place)
  opened : List.Forall₂ (fun place => (traffic.invocations place).Tracks draw session.plugin.settings
    (messages place)) places (session.run draw (places.map (handling messages now faults)))

section Schedules

variable {session : Session σ} {draw : Draw σ} {messages : Fin count → Message}
  {now : Fin count → Moment} {faults : Fin count → Bus.Faults}

theorem Session.settings_step (session : Session σ) (draw : Draw σ) (faults : Bus.Faults) (now : Moment)
    (step : Step) : (session.step draw faults now step).1.plugin.settings = session.plugin.settings := by
  cases session.moves_take draw ⟨step, now, faults⟩ with
  | obtains asked obtained returned issued plugin =>
    have settings := congrArg Plugin.settings plugin
    exact settings
  | returns asked obtained returned issued plugin =>
    have settings := congrArg Plugin.settings plugin
    exact settings
  | keeps asked obtained returned issued plugin => exact congrArg Plugin.settings plugin

theorem Session.plugin_reached_handling (session : Session σ) (draw : Draw σ)
    (messages : Fin count → Message) (now : Fin count → Moment) (faults : Fin count → Bus.Faults)
    (places : List (Fin count)) :
    (session.reached draw (places.map (handling messages now faults))).plugin = session.plugin := by
  induction places generalizing session with
  | nil => rfl
  | cons place rest ih =>
    rw [List.map_cons, reached_cons, ih]
    rfl

namespace Traffic.Tracks

variable {traffic : Traffic σ count} {places : List (Fin count)}
  (tracks : traffic.Tracks session draw messages now faults places)

include tracks

/-- A step that starts or stops the plugin has no part in the invocations. -/
theorem step_of_silent (faults' : Bus.Faults) (now' : Moment) {step : Step}
    (silent : traffic.session.plugin.requests step = []) :
    Tracks { traffic with session := (traffic.session.step draw faults' now' step).1 } session draw
      messages now faults places where
  unchanged := (traffic.session.settings_step draw faults' now' step).trans tracks.unchanged
  source := by
    rw [Session.source_step, silent]
    exact tracks.source
  unopened := tracks.unopened
  opened := tracks.opened

theorem exists_tracks {place : Fin count} (again : place ∈ places) :
    ∃ taken, (traffic.invocations place).Tracks draw session.plugin.settings (messages place) taken := by
  have both := tracks.opened.imp fun place taken goes => And.intro (Exists.intro taken goes) goes
  exact ((List.forall₂_and_left _ _).mp both).1 place again

/-- The segments after the first one go on as the turn does, and leave the source as it is. -/
theorem resume_again {place : Fin count} (again : place ∈ places) {slot : Slot count}
    (resumes : slot.action = .resume place) :
    (traffic.take draw slot).Tracks session draw messages now faults places := by
  obtain ⟨earlier, known⟩ := tracks.exists_tracks again
  have source := (known.follows.resume draw slot.faults slot.now traffic.session.source).2
  rw [Traffic.take, resumes, tracks.unchanged]
  refine ⟨tracks.unchanged, source.trans tracks.source, ?unopened, ?opened⟩
  case unopened =>
    intro other unopened
    have apart : other ≠ place := fun same => unopened (same ▸ again)
    exact (Function.update_of_ne apart ..).trans (tracks.unopened other unopened)
  case opened =>
    refine tracks.opened.imp fun other taken follows => ?_
    by_cases same : other = place
    · subst same
      dsimp only
      rw [Function.update_self]
      exact ⟨follows.unchanged, follows.handled, (follows.follows.resume draw slot.faults slot.now
        traffic.session.source).1⟩
    · dsimp only
      rw [Function.update_of_ne same]
      exact follows

/-- The first segment goes as a further turn does. -/
theorem resume_first {place : Fin count} (first : place ∉ places) {slot : Slot count}
    (resumes : slot.action = .resume place) :
    (traffic.take draw slot).Tracks session draw messages now faults (places ++ [place]) := by
  have begun := Invocation.follows_resume_ofMessage (messages place) session.plugin.settings draw
    slot.faults slot.now traffic.session.source
  rw [← tracks.unopened place first] at begun
  have plugin := session.plugin_reached_handling draw messages now faults places
  rw [Traffic.take, resumes, tracks.unchanged]
  refine ⟨tracks.unchanged, ?source, ?unopened, ?opened⟩
  case source =>
    rw [List.map_append, Session.reached_append]
    change _ = ((messages place).plan draw _ _).2
    rw [plugin, ← tracks.source]
    exact begun.2
  case unopened =>
    intro other unopened
    have apart : other ≠ place := by
      rintro rfl
      exact unopened (List.mem_append_right _ (List.mem_singleton_self other))
    exact (Function.update_of_ne apart ..).trans
      (tracks.unopened other fun member => unopened (List.mem_append_left _ member))
  case opened =>
    rw [List.map_append, Session.run_append]
    refine List.rel_append ?_ (.cons ?_ .nil)
    · have apart : ∀ other ∈ places, other ≠ place := by
        rintro other member rfl
        exact first member
      refine ((List.forall₂_and_left _ _).mpr ⟨apart, tracks.opened⟩).imp ?_
      rintro other taken ⟨apart, follows⟩
      dsimp only
      rw [Function.update_of_ne apart]
      exact follows
    · dsimp only
      rw [Function.update_self]
      refine ⟨congrArg Plugin.settings plugin, ⟨now place, faults place, rfl⟩, ?_⟩
      change Invocation.Follows _ ((messages place).plan draw _ (session.reached draw _).source).1 _
      rw [← tracks.source]
      exact begun.1

end Traffic.Tracks

/-- Traffic tracks the turns of its opened invocations, whatever the schedule is. -/
theorem Traffic.tracks_after (session : Session σ) (draw : Draw σ) (messages : Fin count → Message)
    (now : Fin count → Moment) (faults : Fin count → Bus.Faults) (slots : List (Slot count)) :
    ((start session messages).after draw slots).Tracks session draw messages now faults
      (Plugin.opened slots) := by
  -- From the last slot: what came before it decides whether its segment is a first one.
  induction slots using List.reverseRecOn with
  | nil => exact ⟨rfl, rfl, fun _ _ => rfl, .nil⟩
  | append_singleton slots slot ih =>
    rw [after_concat]
    cases action : slot.action with
    | resume place =>
      rcases opened_concat_of_some (congrArg Action.place? action) with ⟨again, same⟩ | ⟨first, longer⟩
      · rw [same]
        exact ih.resume_again again action
      · rw [longer]
        exact ih.resume_first first action
    | activate =>
      rw [opened_concat_of_none (congrArg Action.place? action), take, action]
      exact ih.step_of_silent slot.faults slot.now rfl
    | shutdown =>
      rw [opened_concat_of_none (congrArg Action.place? action), take, action]
      exact ih.step_of_silent slot.faults slot.now rfl

theorem Traffic.left_take_le (traffic : Traffic σ count) (draw : Draw σ) (slot : Slot count)
    (place : Fin count) :
    ((traffic.take draw slot).invocations place).left ≤
      (traffic.invocations place).left - if slot.action.place? = some place then 1 else 0 := by
  rw [take]
  cases slot.action with
  | resume other =>
    dsimp only
    by_cases same : other = place
    · subst same
      rw [Function.update_self, if_pos (by rfl)]
      exact Invocation.left_resume_le ..
    · have elsewhere : (Action.resume other).place? ≠ some place := fun again => same (Option.some.inj again)
      rw [Function.update_of_ne (Ne.symm same), if_neg elsewhere, Nat.sub_zero]
  | activate => exact Nat.le_refl _
  | shutdown => exact Nat.le_refl _

theorem Traffic.left_after_le (session : Session σ) (draw : Draw σ) (messages : Fin count → Message)
    (slots : List (Slot count)) (place : Fin count) :
    (((start session messages).after draw slots).invocations place).left ≤
      3 - slots.countP fun slot => slot.action.place? = some place := by
  induction slots using List.reverseRecOn with
  | nil => exact Nat.le_refl 3
  | append_singleton slots slot ih =>
    have once := ((start session messages).after draw slots).left_take_le draw slot place
    rw [after_concat, List.countP_append, List.countP_singleton]
    simp only [decide_eq_true_eq]
    omega

/-- An invocation repeats a turn that handles its message by itself: it has made the first of its
calls, and if it has ended then all of them, to the same end. -/
structure Invocation.Repeats (invocation : Invocation) (draw : Draw σ) (message : Message)
    (taken : Taken σ) : Prop where
  attempted : ∃ first rest, taken.outcome.trace.calls = first ++ rest ∧
    List.Forall₂ SameButTime invocation.trace.calls first
  complete : ∀ result, invocation.stage = .ended result →
    List.Forall₂ SameButTime invocation.trace.calls taken.outcome.trace.calls ∧
      taken.outcome.result = (result.mapError .handler).map fun _ => .nothing
  /-- What the turn sends is what its own request comes to. -/
  own : ∀ members, message.Holds members → ∃ verdict, taken.before.Serves draw taken.turn.faults
    taken.turn.now message (Request.ofMembers members) verdict

theorem Invocation.Tracks.repeats {invocation : Invocation} {settings : Settings} {message : Message}
    {taken : Taken σ} (tracks : invocation.Tracks draw settings message taken) :
    invocation.Repeats draw message taken := by
  obtain ⟨unchanged, ⟨now, faults, handled⟩, follows⟩ := tracks
  generalize taken.before = before at unchanged handled follows
  subst handled unchanged
  obtain ⟨entries, rest, deliveries, calls, ended⟩ := follows.exists_made
  have steady := message.steady_of_plan draw before.plugin.settings before.source
  rw [deliveries, List.forall_mem_append] at steady
  have alone : (before.take draw ⟨.handle message, now, faults⟩).outcome.trace.calls =
      (entries.map Prod.fst ++ rest).filterMap fun delivery => (delivery.call now).toOption := by
    rw [← deliveries]
    exact before.handle_calls draw faults now message
  have first := same_made steady.1 now
  rw [← calls] at first
  rw [List.filterMap_append] at alone
  refine ⟨⟨_, _, alone, first⟩, ?complete, ?own⟩
  case complete =>
    intro result stage
    obtain ⟨rfl, rfl⟩ := ended result stage
    rw [List.filterMap_nil, List.append_nil] at alone
    rw [alone]
    refine ⟨first, ?_⟩
    change (before.step draw faults now (.handle message)).2.result = _
    rw [Session.step]
    dsimp only
    cases (message.plan draw before.plugin.settings before.source).1.result <;> rfl
  case own => exact fun members holds => ⟨_, before.serves draw faults now holds⟩

/-- Interleaved invocations do not mix. -/
structure Traffic.Unmixed (traffic : Traffic σ count) (session : Session σ) (draw : Draw σ)
    (messages : Fin count → Message) (slots : List (Slot count)) (now : Fin count → Moment)
    (faults : Fin count → Bus.Faults) : Prop where
  source : traffic.session.source =
    (session.reached draw ((Plugin.opened slots).map (handling messages now faults))).source
  /-- The opened invocations repeat the turns that handle their messages one after another. -/
  opened : List.Forall₂ (fun place => (traffic.invocations place).Repeats draw (messages place))
    (Plugin.opened slots)
    (session.run draw ((Plugin.opened slots).map (handling messages now faults)))
  unopened : ∀ place, place ∉ Plugin.opened slots → (traffic.invocations place).trace.calls = []
  mem_opened : ∀ place, place ∈ Plugin.opened slots ↔ ∃ slot ∈ slots, slot.action = .resume place
  distinct : (Plugin.opened slots).Nodup
  ended : ∀ place, 3 ≤ slots.countP (fun slot => slot.action.place? = some place) →
    ∃ result, (traffic.invocations place).stage = .ended result
  /-- The segments are those of the handler: with nothing between them they are one step of it. -/
  whole : ∀ place faults now source,
    (Invocation.next session.plugin.settings draw faults now)^[3] (.ofMessage (messages place), source) =
      let (plan, after) := (messages place).plan draw session.plugin.settings source
      (⟨.ended plan.result, plan.run faults now 0⟩, after)

/-- Whatever the schedule is, the invocations do not mix. Each makes the calls that it makes when the
messages are handled one after another in the order of their first segments, times apart, and the
source is left as it is then. -/
theorem Traffic.unmixed (session : Session σ) (draw : Draw σ) (messages : Fin count → Message)
    (slots : List (Slot count)) (now : Fin count → Moment) (faults : Fin count → Bus.Faults) :
    ((start session messages).after draw slots).Unmixed session draw messages slots now faults := by
  have tracks := tracks_after session draw messages now faults slots
  exact {
    source := tracks.source
    opened := tracks.opened.imp fun place taken follows => follows.repeats
    unopened := fun place first => by
      rw [tracks.unopened place first]
      rfl
    mem_opened := fun place => mem_opened_iff
    distinct := nodup_opened slots
    ended := fun place often => by
      have none := left_after_le session draw messages slots place
      rw [Nat.sub_eq_zero_of_le often, Nat.le_zero] at none
      exact Invocation.ended_of_left none
    whole := fun place faults now source =>
      Invocation.next_iterate_ofMessage (messages place) session.plugin.settings draw faults now source }

end Schedules

end Messages

/-- Two invocations that are opened one after the other and go on the other way round, with a shutdown
between them. -/
theorem Traffic.unmixed_two_dice :
    let now : Moment := ⟨⟨2024, 1, 1⟩, 0, 0, 0, 0, none⟩
    let session := Session.start ⟨.str "cytube", .bool true, .bool true⟩ (Script.cycle [3, 1] 0)
    let messages : Fin 2 → Message := fun place =>
      ⟨Utf8.encode "\x7b\"dice\": \"1d6\"\x7d", if place = 0 then none else some "inbox"⟩
    let actions : List (Action 2) := [.resume 0, .resume 1, .shutdown, .resume 1, .resume 0, .resume 0]
    let slots : List (Slot 2) := actions.map fun action => ⟨action, now, Bus.Faults.none⟩
    ((start session messages).after Script.draw slots).session.source =
        (session.reached Script.draw ([0, 1].map
          (handling messages (fun _ => now) (fun _ => Bus.Faults.none)))).source ∧
      ∃ result, (((start session messages).after Script.draw slots).invocations 0).stage =
        .ended result := by
  intro now session messages actions slots
  have order : Plugin.opened slots = [0, 1] := by decide
  have often : 3 ≤ slots.countP (fun slot => slot.action.place? = some 0) := by decide
  have unmixed := unmixed session Script.draw messages slots (fun _ => now) (fun _ => Bus.Faults.none)
  have source := unmixed.source
  rw [order] at source
  exact ⟨source, unmixed.ended 0 often⟩

end ChatDice.Plugin
