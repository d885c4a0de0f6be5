import ChatDice.Host
import ChatDice.Proofs.Lifecycle

/-!
How far a start of a host gets. It names the servers in the log, connects, makes the plugin and
subscribes, in this order, and the first of these that fails or is interrupted ends it. What the
start has called and what the host holds by then follow from how far it got.
-/

namespace ChatDice.Host

/-- The servers as they are logged. -/
def serversText (host : Host) : Except Numeral.Excess Text :=
  (Datum.list host.config.parameters.servers).text

/-- The subscriptions of the plugin, if there is one. -/
def held (host : Host) : List Bus.Subscription := (host.plugin.map (·.subscriptions)).getD []

section Steps

variable (host : Host) (faults : Bus.Faults) (interruption : Wait)

/-- The servers have a text, so that a client is made. -/
def named : Bool := host.serversText.isOk

def connects : Bool :=
  host.named && interruption != .connecting && (faults 0 (.connect host.config.parameters)).isNone

/-- The start gets as far as asking for the subscription. -/
def subscribes : Bool := host.connects faults interruption && host.newPlugin.isOk

def subscribed : Bool :=
  host.subscribes faults interruption && interruption != .subscribing &&
    (faults 1 (.subscribe Plugin.rollSubject)).isNone

/-- What breaks a start first. -/
inductive Breaks : StartError → Prop
  | servers {excess : Numeral.Excess} (unnamed : host.serversText = .error excess) :
      Breaks (.numeral excess)
  | connecting {reason : Text} (named : host.named = true) (waits : interruption ≠ .connecting)
      (refused : faults 0 (.connect host.config.parameters) = some reason) :
      Breaks (.refused reason)
  | plugin {error : StartError} (connects : host.connects faults interruption = true)
      (unmade : host.newPlugin = .error error) : Breaks error
  | subscribing {reason : Text} (subscribes : host.subscribes faults interruption = true)
      (waits : interruption ≠ .subscribing)
      (refused : faults 1 (.subscribe Plugin.rollSubject) = some reason) : Breaks (.refused reason)

/-- The host gets to the wait in which it is interrupted. -/
inductive Interrupted : Prop
  | connecting (named : host.named = true) (here : interruption = .connecting)
  | subscribing (subscribes : host.subscribes faults interruption = true)
      (here : interruption = .subscribing)
  | messages (subscribed : host.subscribed faults interruption = true)
      (here : interruption = .messages)

end Steps

variable {host : Host} {faults : Bus.Faults} {interruption : Wait}

theorem named_of_ok {servers : Text} (named : host.serversText = .ok servers) : host.named = true := by
  rw [Host.named, named]
  rfl

theorem named_of_error {excess : Numeral.Excess} (unnamed : host.serversText = .error excess) :
    host.named = false := by
  rw [Host.named, unnamed]
  rfl

theorem exists_of_named (named : host.named = true) : ∃ servers, host.serversText = .ok servers := by
  cases written : host.serversText with
  | ok servers => exact ⟨servers, rfl⟩
  | error excess => cases named.symm.trans (named_of_error written)

theorem Wait.faults_eq_none_iff {wait : Wait} {index : Nat} {call : Bus.Call} :
    interruption.faults wait faults index call = none ↔
      interruption ≠ wait ∧ faults index call = none := by
  unfold Wait.faults
  split <;> simp_all

theorem Wait.faults_of_ne {wait : Wait} (elsewhere : interruption ≠ wait) (faults : Bus.Faults) :
    interruption.faults wait faults = faults := if_neg elsewhere

theorem Wait.faults_self (wait : Wait) (faults : Bus.Faults) :
    wait.faults wait faults = fun _ _ => some [] := if_pos rfl

/-- A call that gives nothing is one that is interrupted, or one that is refused. -/
theorem Wait.ending_of_faults {wait : Wait} {index : Nat} {call : Bus.Call} {reason : Text}
    (nothing : interruption.faults wait faults index call = some reason) :
    (interruption = wait ∧ interruption.ending wait reason = .interrupted) ∨
      (interruption ≠ wait ∧ faults index call = some reason ∧
        interruption.ending wait reason = .failed (.refused reason)) := by
  by_cases here : interruption = wait
  · exact .inl ⟨here, if_pos here⟩
  · rw [Wait.faults, if_neg here] at nothing
    exact .inr ⟨here, nothing, if_neg here⟩

theorem connects_iff : host.connects faults interruption = true ↔ host.named = true ∧
    interruption.faults .connecting faults 0 (.connect host.config.parameters) = none := by
  simp [connects, Wait.faults_eq_none_iff, and_assoc]

theorem subscribes_iff : host.subscribes faults interruption = true ↔
    host.connects faults interruption = true ∧ ∃ plugin, host.newPlugin = .ok plugin := by
  unfold subscribes
  cases host.newPlugin <;> simp [Except.isOk, Except.toBool]

theorem subscribed_iff : host.subscribed faults interruption = true ↔
    host.subscribes faults interruption = true ∧
      interruption.faults .subscribing faults 1 (.subscribe Plugin.rollSubject) = none := by
  simp [subscribed, Wait.faults_eq_none_iff, and_assoc]

theorem connect_of_unnamed {excess : Numeral.Excess} (unnamed : host.serversText = .error excess) :
    host.connect faults 0 interruption = ⟨host, .empty, .failed (.numeral excess)⟩ := by
  unfold serversText at unnamed
  simp only [connect, unnamed]

theorem connect_of_unconnected {servers reason : Text} (named : host.serversText = .ok servers)
    (nothing : interruption.faults .connecting faults 0 (.connect host.config.parameters) =
      some reason) :
    ∃ opening, host.connect faults 0 interruption =
      ⟨{ host with holdsClient := true }, ⟨[⟨.connect host.config.parameters, true⟩], opening⟩,
        interruption.ending .connecting reason⟩ := by
  unfold serversText at named
  simp only [connect, named, Bus.attempt, nothing]
  exact ⟨_, rfl⟩

theorem connect_of_connected {servers : Text} (named : host.serversText = .ok servers)
    (connected : interruption.faults .connecting faults 0 (.connect host.config.parameters) = none) :
    ∃ opening, host.connect faults 0 interruption =
      let rest := { host with holdsClient := true }.startPlugin faults 1 interruption
      { rest with
        trace := ⟨[⟨.connect host.config.parameters, false⟩], opening⟩ ++ rest.trace } := by
  unfold serversText at named
  simp only [connect, named, Bus.attempt, connected]
  exact ⟨_, rfl⟩

theorem connect_of_unmade {servers : Text} {error : StartError}
    (named : host.serversText = .ok servers)
    (connected : interruption.faults .connecting faults 0 (.connect host.config.parameters) = none)
    (unmade : host.newPlugin = .error error) :
    ∃ opening, host.connect faults 0 interruption =
      ⟨{ host with holdsClient := true }, ⟨[⟨.connect host.config.parameters, false⟩], opening⟩,
        .failed error⟩ := by
  obtain ⟨opening, same⟩ := connect_of_connected named connected
  change newPlugin { host with holdsClient := true } = _ at unmade
  rw [same, startPlugin, unmade]
  exact ⟨opening ++ [], rfl⟩

/-- A plugin is made without any subscription. -/
theorem subscriptions_newPlugin {plugin : Plugin} (made : host.newPlugin = .ok plugin) :
    plugin.subscriptions = [] := by
  unfold newPlugin at made
  dsimp only [bind, Except.bind] at made
  cases loaded : host.pluginClass.mapError StartError.noPlugin with
  | error error =>
    rw [loaded] at made
    cases made
  | ok pluginClass =>
    rw [loaded] at made
    dsimp only at made
    split at made
    · cases made
    · cases made
      rfl

/-- Once the plugin is made, the start is up to the call that subscribes. -/
theorem connect_of_made {servers : Text} {plugin : Plugin} (named : host.serversText = .ok servers)
    (connected : interruption.faults .connecting faults 0 (.connect host.config.parameters) = none)
    (made : host.newPlugin = .ok plugin) :
    let reached := host.connect faults 0 interruption
    let given := interruption.faults .subscribing faults
    reached.trace.calls = [.connect host.config.parameters, .subscribe Plugin.rollSubject] ∧
      reached.host.holdsClient = true ∧
      reached.host.plugin = some (plugin.activate given 1 host.issued).plugin ∧
      reached.ending = match given 1 (.subscribe Plugin.rollSubject) with
        | some reason => interruption.ending .subscribing reason
        | none => .started := by
  intro reached given
  obtain ⟨opening, same⟩ := connect_of_connected named connected
  have activated := plugin.calls_activate given 1 host.issued
  have refusal := plugin.refusal_activate given 1 host.issued
  change newPlugin { host with holdsClient := true } = _ at made
  change reached = _ at same
  rw [same]
  simp only [startPlugin, made, Bus.Trace.calls_append]
  cases answer : given 1 (.subscribe Plugin.rollSubject) with
  | some reason =>
    rw [answer] at refusal
    simp only [given] at refusal activated ⊢
    simp only [refusal, activated]
    exact ⟨rfl, trivial, trivial, trivial⟩
  | none =>
    rw [answer] at refusal
    simp only [given] at refusal activated ⊢
    simp only [refusal, Bus.Trace.calls_append, activated]
    exact ⟨rfl, trivial, trivial, trivial⟩

/-- What a start has called, what the host holds by then, and how it ends, by how far it gets. -/
structure Progress (host : Host) (faults : Bus.Faults) (interruption : Wait) (reached : Start) :
    Prop where
  calls : reached.trace.calls =
    (if host.named then [.connect host.config.parameters] else []) ++
      if host.subscribes faults interruption then [.subscribe Plugin.rollSubject] else []
  client : reached.host.holdsClient = (host.holdsClient || host.named)
  held : host.plugin = none → reached.host.held =
    if host.subscribed faults interruption then [⟨host.issued, Plugin.rollSubject⟩] else []
  waits : reached.ending = .started ↔ host.subscribed faults interruption = true
  ends : (∃ error, host.Breaks faults interruption error ∧ reached.ending = .failed error) ∨
    (host.Interrupted faults interruption ∧ ∀ error, reached.ending ≠ .failed error)

theorem Wait.not_started (interruption wait : Wait) (reason : Text) :
    interruption.ending wait reason ≠ .started := by
  unfold Wait.ending
  split <;> simp

theorem progress_of_unnamed {excess : Numeral.Excess} (unnamed : host.serversText = .error excess) :
    host.Progress faults interruption (host.connect faults 0 interruption) := by
  have stuck := named_of_error unnamed
  have unsubscribed : host.subscribed faults interruption = false := by
    simp [subscribed, subscribes, connects, stuck]
  rw [connect_of_unnamed unnamed]
  exact {
    calls := by rw [subscribes, connects, stuck]; rfl
    client := by simp [stuck]
    held := by intro fresh; simp [held, fresh, unsubscribed]
    waits := by simp [unsubscribed]
    ends := .inl ⟨_, .servers unnamed, rfl⟩ }

theorem progress_of_unconnected {servers reason : Text} (named : host.serversText = .ok servers)
    (nothing : interruption.faults .connecting faults 0 (.connect host.config.parameters) =
      some reason) :
    host.Progress faults interruption (host.connect faults 0 interruption) := by
  obtain ⟨opening, same⟩ := connect_of_unconnected named nothing
  have written := named_of_ok named
  have unconnected : host.connects faults interruption = false := by
    rw [← Bool.not_eq_true, connects_iff, nothing]
    simp
  have unsubscribed : host.subscribed faults interruption = false := by
    simp [subscribed, subscribes, unconnected]
  rw [same]
  exact {
    calls := by rw [subscribes, unconnected, written]; rfl
    client := by simp [written]
    held := by intro fresh; simp [held, fresh, unsubscribed]
    waits := by simp [unsubscribed, Wait.not_started]
    ends := by
      rcases Wait.ending_of_faults nothing with ⟨here, ending⟩ | ⟨waits, refused, ending⟩
      · exact .inr ⟨.connecting written here, fun error => by simp [ending]⟩
      · exact .inl ⟨_, .connecting written waits refused, ending⟩ }

theorem progress_of_unmade {servers : Text} {error : StartError}
    (named : host.serversText = .ok servers)
    (connected : interruption.faults .connecting faults 0 (.connect host.config.parameters) = none)
    (unmade : host.newPlugin = .error error) :
    host.Progress faults interruption (host.connect faults 0 interruption) := by
  obtain ⟨opening, same⟩ := connect_of_unmade named connected unmade
  have written := named_of_ok named
  have connects : host.connects faults interruption = true := connects_iff.mpr ⟨written, connected⟩
  have unasked : host.subscribes faults interruption = false := by
    rw [subscribes, unmade]
    exact Bool.and_false _
  have unsubscribed : host.subscribed faults interruption = false := by simp [subscribed, unasked]
  rw [same]
  exact {
    calls := by rw [unasked, written]; rfl
    client := by simp [written]
    held := by intro fresh; simp [held, fresh, unsubscribed]
    waits := by simp [unsubscribed]
    ends := .inl ⟨error, .plugin connects unmade, rfl⟩ }

theorem progress_of_made {servers : Text} {plugin : Plugin} (named : host.serversText = .ok servers)
    (connected : interruption.faults .connecting faults 0 (.connect host.config.parameters) = none)
    (made : host.newPlugin = .ok plugin) :
    host.Progress faults interruption (host.connect faults 0 interruption) := by
  obtain ⟨calls, client, plugins, ending⟩ := connect_of_made named connected made
  have written := named_of_ok named
  have asks : host.subscribes faults interruption = true :=
    subscribes_iff.mpr ⟨connects_iff.mpr ⟨written, connected⟩, plugin, made⟩
  cases answer : interruption.faults .subscribing faults 1 (.subscribe Plugin.rollSubject) with
  | some reason =>
    have unsubscribed : host.subscribed faults interruption = false := by
      rw [← Bool.not_eq_true, subscribed_iff, answer]
      simp
    rw [answer] at ending
    change _ = interruption.ending .subscribing reason at ending
    rw [Plugin.plugin_activate_of_refused answer] at plugins
    exact {
      calls := by rw [calls, written, asks]; rfl
      client := by rw [client, written, Bool.or_true]
      held := by
        intro _
        rw [held, plugins, unsubscribed]
        exact subscriptions_newPlugin made
      waits := by rw [ending, unsubscribed]; simp [Wait.not_started]
      ends := by
        rcases Wait.ending_of_faults answer with ⟨here, stop⟩ | ⟨waits, refused, stop⟩
        · exact .inr ⟨.subscribing asks here, fun error => by simp [ending, stop]⟩
        · exact .inl ⟨_, .subscribing asks waits refused, ending.trans stop⟩ }
  | none =>
    have subscribed : host.subscribed faults interruption = true :=
      subscribed_iff.mpr ⟨asks, answer⟩
    have last : interruption = .messages := by
      have first := (Wait.faults_eq_none_iff.mp connected).1
      have second := (Wait.faults_eq_none_iff.mp answer).1
      cases interruption with
      | connecting => exact absurd rfl first
      | subscribing => exact absurd rfl second
      | messages => rfl
    rw [answer] at ending
    change _ = Ending.started at ending
    rw [Plugin.plugin_activate_of_accepted answer] at plugins
    exact {
      calls := by rw [calls, written, asks]; rfl
      client := by rw [client, written, Bool.or_true]
      held := by
        intro _
        rw [held, plugins, subscribed]
        exact congrArg (· ++ _) (subscriptions_newPlugin made)
      waits := by rw [ending, subscribed]; simp
      ends := .inr ⟨.messages subscribed last, fun error => by simp [ending]⟩ }

/-- However far a start gets, what it has called and obtained are as they should be. -/
theorem progress_connect (host : Host) (faults : Bus.Faults) (interruption : Wait) :
    host.Progress faults interruption (host.connect faults 0 interruption) := by
  cases named : host.serversText with
  | error excess => exact progress_of_unnamed named
  | ok servers =>
    cases connected : interruption.faults .connecting faults 0 (.connect host.config.parameters) with
    | some reason => exact progress_of_unconnected named connected
    | none =>
      cases made : host.newPlugin with
      | error error => exact progress_of_unmade named connected made
      | ok plugin => exact progress_of_made named connected made

/-- A host that waits for messages has made two calls. -/
theorem attempts_of_started (started : (host.connect faults 0 interruption).ending = .started) :
    ∃ opening subscribing : Bus.Attempt,
      (host.connect faults 0 interruption).trace.attempts = [opening, subscribing] ∧
        subscribing.call = .subscribe Plugin.rollSubject := by
  have progress := host.progress_connect faults interruption
  have subscribed := progress.waits.mp started
  have subscribes := (subscribed_iff.mp subscribed).1
  have named := (connects_iff.mp (subscribes_iff.mp subscribes).1).1
  have calls := progress.calls
  rw [if_pos named, if_pos subscribes, Bus.Trace.calls] at calls
  obtain ⟨opening, rest, attempts, -, others⟩ := List.map_eq_cons_iff.mp calls
  obtain ⟨subscribing, rfl, asks⟩ := List.map_eq_singleton_iff.mp others
  exact ⟨opening, subscribing, attempts, asks⟩

/-- A host that waits for messages has made its plugin, and its subscription leads to it. -/
theorem live_of_started
    (started : (host.connect faults 0 interruption).ending = .started) :
    ∃ plugin, host.newPlugin = .ok plugin ∧ (host.connect faults 0 interruption).host.live =
      host.live ++ [(⟨host.issued, Plugin.rollSubject⟩, plugin.settings)] := by
  have subscribed := (host.progress_connect faults interruption).waits.mp started
  obtain ⟨subscribes, accepted⟩ := subscribed_iff.mp subscribed
  obtain ⟨connects, plugin, made⟩ := subscribes_iff.mp subscribes
  obtain ⟨named, connected⟩ := connects_iff.mp connects
  obtain ⟨servers, named⟩ := exists_of_named named
  obtain ⟨opening, same⟩ := connect_of_connected named connected
  refine ⟨plugin, made, ?_⟩
  change newPlugin { host with holdsClient := true } = _ at made
  rw [same]
  simp only [startPlugin, made, Plugin.activate, Bus.attempt, accepted]

/-- What breaks a start is what it fails with, so that nothing else breaks it. -/
theorem ending_of_breaks {error : StartError} (breaks : host.Breaks faults interruption error) :
    (host.connect faults 0 interruption).ending = .failed error := by
  cases breaks with
  | servers unnamed => rw [connect_of_unnamed unnamed]
  | connecting named waits refused =>
    obtain ⟨servers, named⟩ := exists_of_named named
    rw [← Wait.faults_of_ne waits faults] at refused
    obtain ⟨opening, same⟩ := connect_of_unconnected named refused
    rw [same]
    exact if_neg waits
  | plugin connects unmade =>
    obtain ⟨named, connected⟩ := connects_iff.mp connects
    obtain ⟨servers, named⟩ := exists_of_named named
    obtain ⟨opening, same⟩ := connect_of_unmade named connected unmade
    rw [same]
  | subscribing subscribes waits refused =>
    obtain ⟨connects, plugin, made⟩ := subscribes_iff.mp subscribes
    obtain ⟨named, connected⟩ := connects_iff.mp connects
    obtain ⟨servers, named⟩ := exists_of_named named
    obtain ⟨-, -, -, ending⟩ := connect_of_made named connected made
    rw [ending, Wait.faults_of_ne waits, refused]
    exact if_neg waits

theorem unfailed_of_interrupted (interrupted : host.Interrupted faults interruption)
    (error : StartError) : (host.connect faults 0 interruption).ending ≠ .failed error := by
  cases interrupted with
  | connecting named here =>
    subst here
    obtain ⟨servers, named⟩ := exists_of_named named
    obtain ⟨opening, same⟩ := connect_of_unconnected named
      (congrFun (congrFun (Wait.faults_self .connecting faults) 0) _)
    rw [same]
    simp [Wait.ending]
  | subscribing subscribes here =>
    subst here
    obtain ⟨connects, plugin, made⟩ := subscribes_iff.mp subscribes
    obtain ⟨named, connected⟩ := connects_iff.mp connects
    obtain ⟨servers, named⟩ := exists_of_named named
    obtain ⟨-, -, -, ending⟩ := connect_of_made named connected made
    rw [ending, Wait.faults_self]
    simp [Wait.ending]
  | messages subscribed =>
    have started := (host.progress_connect faults interruption).waits.mpr subscribed
    rw [started]
    simp

theorem failed_iff {error : StartError} :
    (host.connect faults 0 interruption).ending = .failed error ↔
      host.Breaks faults interruption error := by
  refine ⟨?_, ending_of_breaks⟩
  intro failed
  rcases (host.progress_connect faults interruption).ends with ⟨first, breaks, ending⟩ | ⟨-, unfailed⟩
  · cases ending.symm.trans failed
    exact breaks
  · exact absurd failed (unfailed error)

theorem interrupted_iff :
    (∀ error, (host.connect faults 0 interruption).ending ≠ .failed error) ↔
      host.Interrupted faults interruption := by
  refine ⟨?_, unfailed_of_interrupted⟩
  intro unfailed
  rcases (host.progress_connect faults interruption).ends with ⟨first, -, ending⟩ | ⟨interrupted, -⟩
  · exact absurd ending (unfailed first)
  · exact interrupted

end ChatDice.Host
