import Messenger.Proofs.Gateway.Alike
import Messenger.Proofs.Gateway.Transcript
import Messenger.Proofs.Stream.Workers

set_option autoImplicit false

/-! # What an operation can do

Whatever a program does with a gateway, and whatever happens to its worker, changes it in one of
eight ways (`Gateway.moves`). Each way says which parts it may change and on what condition; of the
link it says that the daemon was asked, and no more. What holds of every gateway along a run follows
from these ways alone, without opening an operation again. -/

namespace Messenger

open Json

variable {δ : Type}

/-! ## Links -/

/-- A link that is reached from another one by asking the daemon. -/
inductive Link.Reached (d : Daemon δ) (l : Link δ) : Link δ → Prop where
  | refl : Reached d l l
  | called {l' : Link δ} (h : Reached d l l') (method : String) (params : Value)
      (chosen : Option String) : Reached d l (l'.call d method params chosen).2.2
  | listened {l' : Link δ} (h : Reached d l l') : Reached d l (l'.listen d).2

namespace Link

variable {d : Daemon δ} {l l' l'' : Link δ}

theorem Reached.trans (h : l.Reached d l') (h' : l'.Reached d l'') : l.Reached d l'' := by
  induction h' with
  | refl => exact h
  | called _ method params chosen ih => exact ih.called method params chosen
  | listened _ ih => exact ih.listened

/-- Loading reaches a link. -/
def LoadReaches {ε α : Type} (d : Daemon δ) (load : Cache.Loader ε (Link δ) α) : Prop :=
  ∀ (account : String) (l : Link δ), l.Reached d (load account l).2.2

theorem groups_loadReaches (d : Daemon δ) : LoadReaches d (GroupDirectory.load d) :=
  fun account l => (Reached.refl (l := l)).called listGroups (.obj [("account", .str account)]) none

theorem identities_loadReaches (d : Daemon δ) : LoadReaches d (IdentityDirectory.load d) :=
  fun account l =>
    (Reached.refl (l := l)).called listIdentities (.obj [("account", .str account)]) none

theorem LoadReaches.get {ε α : Type} {load : Cache.Loader ε (Link δ) α} (hload : LoadReaches d load)
    (now : Nat) (account : String) (c : Cache α) (l : Link δ) :
    l.Reached d (c.get load now account l).2.2.2 := by
  rcases Cache.get_state load now account c l with hsame | hloaded
  · rw [hsame]
    exact .refl
  · rw [hloaded]
    exact hload account l

end Link

namespace Gateway

/-! ## The worker -/

/-- What is behind a worker, together with itself, when its link is reached from another one. -/
def Behind (d : Daemon δ) (l : Link δ) (b b' : Stream.Feed.Behind (Around δ)) : Prop :=
  b = b' ∧ l.Reached d b.2.2

theorem behind_respected (d : Daemon δ) (l : Link δ) (now : Nat) :
    Stream.Feed.Respected Eq (Behind d l) (Cache.titles (GroupDirectory.load d) now)
      (Cache.titles (GroupDirectory.load d) now) where
  same _ := rfl
  publish message b b' h := by
    obtain ⟨rfl, hlink⟩ := h
    exact ⟨List.forall₂_same.2 fun _ _ => rfl, rfl, hlink⟩
  classify text b b' h := by
    obtain ⟨rfl, hlink⟩ := h
    -- Looking a title up asks the daemon at most, and so does classifying.
    have hfind : Event.FindsAlike Eq (fun s s' : Around δ => s = s' ∧ l.Reached d s.2)
        (Cache.findTitle (GroupDirectory.load d) now)
        (Cache.findTitle (GroupDirectory.load d) now) := by
      rintro account groupId s s' ⟨rfl, hs⟩
      exact ⟨rfl, LogRecord.alike_refl _, rfl,
        hs.trans ((Link.groups_loadReaches d).get now account s.1 s.2)⟩
    rw [Cache.titles_eq]
    obtain ⟨-, -, -, hreached⟩ := Event.classifyText_alike hfind text ⟨rfl, hlink⟩
    exact ⟨rfl, List.forall₂_same.2 fun _ _ => rfl, rfl, hreached⟩

/-- A worker asks the daemon at most, and so does what it does in the loop. -/
theorem reached_step (d : Daemon δ) (now : Nat) (o : Stream.Occurrence)
    (f : Stream.Feed (Around δ)) :
    f.around.2.Reached d
      (f.step (Cache.titles (GroupDirectory.load d) now) o).2.around.2 :=
  have hself : Stream.Feed.Related (Behind d f.around.2) f f := ⟨rfl, rfl, .refl⟩
  ((behind_respected d f.around.2 now).step o hself).feed.behind.2

theorem reached_run (d : Daemon δ) (now : Nat) {connect : Around δ → Stream.Connection × Around δ}
    (hconnect : ∀ a : Around δ, a.2.Reached d (connect a).2.2) (attempts : Nat)
    (f : Stream.Feed (Around δ)) :
    f.around.2.Reached d
      (f.run connect (Cache.titles (GroupDirectory.load d) now) attempts).2.around.2 := by
  have hself : Stream.Feed.Related (Behind d f.around.2) f f := ⟨rfl, rfl, .refl⟩
  have hrun : Stream.Feed.Moved Eq (Behind d f.around.2)
      (f.run connect (Cache.titles (GroupDirectory.load d) now) attempts)
      (f.run connect (Cache.titles (GroupDirectory.load d) now) attempts) :=
    (behind_respected d f.around.2 now).run (fun b b' hb => by
      obtain ⟨rfl, hlink⟩ := hb
      exact ⟨rfl, rfl, hlink.trans (hconnect b.2)⟩) attempts hself
  exact hrun.feed.behind.2

/-! ## Ways to change a gateway -/

/-- A gateway that was disabled. -/
def forgotten (g : Gateway δ) : Gateway δ :=
  { g with
    enabled := false
    worker := none
    groups := g.groups.invalidateAll
    identities := g.identities.invalidateAll
    registry := g.registry.reset }

/-- What one operation can make of a gateway. -/
inductive Moves (d : Daemon δ) (g : Gateway δ) : Gateway δ → Prop where
  /-- The daemon is asked for its version. -/
  | asked {link : Link δ} (hlink : g.link.Reached d link) : Moves d g { g with link }
  /-- The daemon has told its version, and calls are allowed. -/
  | admitted {link : Link δ} (hlink : g.link.Reached d link) :
      Moves d g { g with link, enabled := true }
  /-- A worker is started where there was none. -/
  | begun {link : Link δ} (hlink : g.link.Reached d link) (hnone : g.worker = none)
      (address : String) : Moves d g { g with link, enabled := true, worker := some { address } }
  | disabled : Moves d g g.forgotten
  /-- The caches and the daemon are asked. -/
  | used (henabled : g.enabled = true) (groups : Cache GroupDirectory)
      (identities : Cache IdentityDirectory) {link : Link δ} (hlink : g.link.Reached d link) :
      Moves d g { g with groups, identities, link }
  /-- A listener comes or goes. -/
  | listeners {registry : Registry Message} (hhistory : registry.history = g.registry.history) :
      Moves d g { g with registry }
  /-- Something happens to the worker. -/
  | worked {w : Stream.Worker} (hworker : g.worker = some w) (w' : Stream.Worker)
      (registry : Registry Message) (groups : Cache GroupDirectory) {link : Link δ}
      (hlink : g.link.Reached d link) :
      Moves d g { g with worker := some w', registry, groups, link }
  | passed (now : Nat) : Moves d g { g with now }

variable {d : Daemon δ} {g : Gateway δ}

/-- Some operations leave a gateway as it is. -/
theorem Moves.refl (d : Daemon δ) (g : Gateway δ) : Moves d g g := .asked .refl

/-- Whatever an operation does to the link, it asks the daemon. -/
theorem Moves.link {g' : Gateway δ} (h : Moves d g g') : g.link.Reached d g'.link := by
  cases h with
  | asked hlink => exact hlink
  | admitted hlink => exact hlink
  | begun hlink => exact hlink
  | disabled => exact .refl
  | used _ _ _ hlink => exact hlink
  | listeners => exact .refl
  | worked _ _ _ _ hlink => exact hlink
  | passed => exact .refl

/-! ## Asking for the version -/

/-- The version that the result of a call tells. -/
def told : Except Rpc.Error Value → Option String
  | .ok v => versionOf v
  | .error _ => none

theorem version_fst (d : Daemon δ) (g : Gateway δ) :
    (g.version d).1 = told (g.link.call d "version" (.obj []) none).1 := by
  unfold version told
  rcases g.link.call d "version" (.obj []) none with ⟨_ | _, log, link⟩ <;> rfl

theorem version_gateway (d : Daemon δ) (g : Gateway δ) :
    (g.version d).2.2 = { g with link := (g.link.call d "version" (.obj []) none).2.2 } := by
  unfold version
  rcases g.link.call d "version" (.obj []) none with ⟨_ | _, log, link⟩ <;> rfl

/-- If no version is told, calls are not allowed. -/
theorem enableCalls_of_none (h : (g.version d).1 = none) :
    (g.enableCalls d).1 = .error (.daemonUnavailable g.address)
      ∧ (g.enableCalls d).2.2 = (g.version d).2.2 := by
  have haddress : (g.version d).2.2.address = g.address := by
    rw [version_gateway]
    rfl
  unfold enableCalls
  rcases hx : g.version d with ⟨_ | text, notices, g'⟩
  · rw [hx] at haddress
    dsimp only at haddress ⊢
    rw [haddress]
    exact ⟨rfl, rfl⟩
  · rw [hx] at h
    cases h

theorem enableCalls_of_some {text : String} (h : (g.version d).1 = some text) :
    (g.enableCalls d).1 = .ok text
      ∧ (g.enableCalls d).2.2 = { (g.version d).2.2 with enabled := true } := by
  unfold enableCalls
  rcases hx : g.version d with ⟨_ | _, notices, g'⟩ <;> rw [hx] at h
  · cases h
  · obtain rfl := Option.some.inj h
    exact ⟨rfl, rfl⟩

theorem enable_of_error {e : GatewayError} (h : (g.enableCalls d).1 = .error e) :
    (g.enable d).1 = .error e ∧ (g.enable d).2.2 = (g.enableCalls d).2.2 := by
  unfold enable
  rcases hx : g.enableCalls d with ⟨_ | _, notices, g'⟩ <;> rw [hx] at h
  · cases h
    exact ⟨rfl, rfl⟩
  · cases h

theorem enable_of_ok {text : String} (h : (g.enableCalls d).1 = .ok text) :
    (g.enable d).1 = .ok text
      ∧ (g.enable d).2.2 = { (g.enableCalls d).2.2 with
          worker := some ((g.enableCalls d).2.2.worker.getD
            { address := (g.enableCalls d).2.2.link.endpoint.events.text }) } := by
  unfold enable
  rcases hx : g.enableCalls d with ⟨_ | _, notices, g'⟩ <;> rw [hx] at h
  · cases h
  · cases h
    exact ⟨rfl, rfl⟩

theorem reached_version (d : Daemon δ) (g : Gateway δ) :
    g.link.Reached d (g.link.call d "version" (.obj []) none).2.2 :=
  Link.Reached.refl.called "version" (.obj []) none

theorem moves_enableCalls (d : Daemon δ) (g : Gateway δ) : Moves d g (g.enableCalls d).2.2 := by
  cases h : (g.version d).1 with
  | none =>
      rw [(enableCalls_of_none h).2, version_gateway]
      exact .asked (reached_version d g)
  | some text =>
      rw [(enableCalls_of_some h).2, version_gateway]
      exact .admitted (reached_version d g)

theorem moves_enable (d : Daemon δ) (g : Gateway δ) : Moves d g (g.enable d).2.2 := by
  cases h : (g.version d).1 with
  | none =>
      obtain ⟨hfailed, hgateway⟩ := enableCalls_of_none h
      rw [(enable_of_error hfailed).2, hgateway, version_gateway]
      exact .asked (reached_version d g)
  | some text =>
      obtain ⟨hok, hgateway⟩ := enableCalls_of_some h
      rw [(enable_of_ok hok).2, hgateway, version_gateway]
      obtain ⟨settings, link, groups, identities, registry, worker, enabled, now⟩ := g
      cases worker with
      | none => exact .begun (reached_version d _) rfl _
      | some w => exact .admitted (reached_version d _)

/-! ## Questions and deliveries -/

/-- What a question or a delivery does: nothing is shown of workers, and only what it asks is
changed. -/
structure Uses {α : Type} (d : Daemon δ) (g : Gateway δ) (x : Result δ α) : Prop where
  quiet : net x.2.1 = 0
  gateway : ∃ groups identities link, g.link.Reached d link
    ∧ x.2.2 = { g with groups, identities, link }

section

variable {α β γ : Type}

theorem Uses.refl (a : α) : Uses d g (a, [], g) := ⟨rfl, _, _, _, .refl, rfl⟩

theorem Uses.answer {a : α} {after : List (Notice Message) × Gateway δ} (h : Uses d g (a, after))
    (b : β) : Uses d g (b, after) :=
  ⟨h.quiet, h.gateway⟩

theorem Uses.append {x : Result δ α} {y : Result δ β} (h : Uses d g x) (h' : Uses d x.2.2 y)
    (c : γ) : Uses d g (c, x.2.1 ++ y.2.1, y.2.2) where
  quiet := by rw [net_append, h.quiet, h'.quiet, Int.add_zero]
  gateway := by
    obtain ⟨groups, identities, link, hlink, hg⟩ := h.gateway
    obtain ⟨groups', identities', link', hlink', hg'⟩ := h'.gateway
    rw [hg] at hlink' hg'
    exact ⟨groups', identities', link', hlink.trans hlink', hg'⟩

end

theorem uses_cachedGroups (d : Daemon δ) (account : String) (g : Gateway δ) :
    Uses d g (g.cachedGroups d account) where
  quiet := net_logged (Cache.quiet_get (GroupDirectory.quiet_load d) g.now account g.groups g.link)
  gateway := ⟨_, _, _, (Link.groups_loadReaches d).get g.now account g.groups g.link, rfl⟩

theorem uses_callMethod (d : Daemon δ) (method : String) (params : Value) (chosen : Option String)
    (g : Gateway δ) : Uses d g (g.callMethod d method params chosen) where
  quiet := net_logged (g.link.quiet_call d method params chosen)
  gateway := ⟨_, _, _, Link.Reached.refl.called method params chosen, rfl⟩

theorem uses_callAll (d : Daemon δ) (method : String) (plan : List Value) (g : Gateway δ) :
    Uses d g (callAll d method plan g) := by
  induction plan generalizing g with
  | nil => exact .refl _
  | cons params plan ih =>
      have hcall := uses_callMethod d method params none g
      unfold callAll
      rcases hx : g.callMethod d method params none with ⟨_ | _, notices, g'⟩ <;> rw [hx] at hcall
      · exact hcall.answer _
      · exact hcall.append (ih g') _

theorem quiet_groupIds (account : String) (groups : GroupDirectory) (names : List String) :
    Quiet (groupIds account groups names).2 := by
  have hnames (chosen : List String) : Quiet (resolveNames account groups chosen names).2 := by
    induction names generalizing chosen with
    | nil => exact quiet_nil
    | cons name names ih =>
        unfold resolveNames
        split
        · exact ih _
        · exact List.forall_mem_cons.2 ⟨rfl, ih chosen⟩
  unfold groupIds
  split
  · exact quiet_singleton rfl
  · exact hnames []

theorem uses_calls (d : Daemon δ) (delivery : Delivery) (g : Gateway δ) :
    Uses d g (g.calls d delivery) := by
  unfold calls
  split
  · split <;> exact .refl _
  · have hgroups := uses_cachedGroups d delivery.account g
    rcases hx : g.cachedGroups d delivery.account with ⟨_ | groups, notices, g'⟩ <;>
      rw [hx] at hgroups
    · exact hgroups.answer _
    · have hnames := quiet_groupIds delivery.account groups delivery.groups
      refine ⟨?_, hgroups.gateway⟩
      dsimp only
      rw [net_append, hgroups.quiet, noted, net_logged hnames, Int.add_zero]

/-- What an operation does that needs an enabled gateway. -/
structure Gated {α : Type} (d : Daemon δ) (g : Gateway δ) (x : Result δ (Except GatewayError α)) :
    Prop where
  refused : g.enabled = false → x = (.error .disabled, [], g)
  uses : Uses d g x

theorem gated_guarded {α : Type} {act : Gateway δ → Result δ (Except GatewayError α)}
    (hact : Uses d g (act g)) : Gated d g (g.guarded act) := by
  unfold guarded
  cases henabled : g.enabled with
  | false => exact ⟨fun _ => rfl, .refl _⟩
  | true => exact ⟨fun hdisabled => absurd (henabled.symm.trans hdisabled) (by decide), hact⟩

theorem Gated.moves {α : Type} {x : Result δ (Except GatewayError α)} (h : Gated d g x) :
    Moves d g x.2.2 := by
  cases henabled : g.enabled with
  | false =>
      rw [h.refused henabled]
      exact .refl d g
  | true =>
      obtain ⟨groups, identities, link, hlink, hg⟩ := h.uses.gateway
      rw [hg]
      exact .used henabled groups identities hlink

theorem gated_groupsOf (d : Daemon δ) (account : String) (g : Gateway δ) :
    Gated d g (g.groupsOf d account) :=
  gated_guarded (uses_cachedGroups d account g)

theorem gated_identitiesOf (d : Daemon δ) (account : String) (g : Gateway δ) :
    Gated d g (g.identitiesOf d account) :=
  gated_guarded {
    quiet := net_logged
      (Cache.quiet_get (IdentityDirectory.quiet_load d) g.now account g.identities g.link)
    gateway :=
      ⟨_, _, _, (Link.identities_loadReaches d).get g.now account g.identities g.link, rfl⟩ }

theorem gated_call (d : Daemon δ) (method : String) (params : Value) (chosen : Option String)
    (g : Gateway δ) : Gated d g (g.call d method params chosen) :=
  gated_guarded (uses_callMethod d method params chosen g)

theorem gated_send (d : Daemon δ) (delivery : Delivery) (g : Gateway δ) :
    Gated d g (g.send d delivery) := by
  refine gated_guarded ?_
  have hcalls := uses_calls d delivery g
  rcases hx : g.calls d delivery with ⟨_ | plan, notices, g'⟩ <;> rw [hx] at hcalls
  · exact hcalls.answer _
  · exact hcalls.append (uses_callAll d _ plan g') _

/-! ## Listeners and the worker -/

theorem moves_register (d : Daemon δ) (id : ListenerId) (listener : Listener Message)
    (g : Gateway δ) : Moves d g (g.register id listener).2.2 :=
  .listeners rfl

theorem moves_unregister (d : Daemon δ) (id : ListenerId) (g : Gateway δ) :
    Moves d g (g.unregister id).2.2 := by
  have hhistory : (g.registry.remove id).2.2.history = g.registry.history := by
    unfold Registry.remove
    split <;> rfl
  exact .listeners hhistory

theorem moves_listen (d : Daemon δ) (attempts : Nat) (g : Gateway δ) :
    Moves d g (g.listen d attempts).2 := by
  unfold listen
  cases hworker : g.worker with
  | none => exact .refl d g
  | some w =>
      exact .worked hworker _ _ _ (reached_run d g.now (fun _ => .listened .refl) attempts
        ⟨w, g.registry, g.groups, g.link⟩)

theorem moves_occur (d : Daemon δ) (o : Stream.Occurrence) (g : Gateway δ) :
    Moves d g (g.occur d o).2 := by
  unfold occur
  cases hworker : g.worker with
  | none => exact .refl d g
  | some w =>
      exact .worked hworker _ _ _ (reached_step d g.now o ⟨w, g.registry, g.groups, g.link⟩)

/-- **Every operation changes a gateway in one of these ways.** -/
theorem moves (d : Daemon δ) (op : Operation) (g : Gateway δ) : Moves d g (apply d op g).2.2 := by
  cases op with
  | enable => exact moves_enable d g
  | enableCalls => exact moves_enableCalls d g
  | disable =>
      have hforgotten : g.disable.2.2 = g.forgotten := disable_gateway g
      exact hforgotten ▸ .disabled
  | version =>
      have hasked : Moves d g (g.version d).2.2 := by
        rw [version_gateway]
        exact .asked (reached_version d g)
      exact hasked
  | groups account => exact (gated_groupsOf d account g).moves
  | identities account => exact (gated_identitiesOf d account g).moves
  | call method params chosen => exact (gated_call d method params chosen g).moves
  | send delivery => exact (gated_send d delivery g).moves
  | register id listener => exact moves_register d id listener g
  | unregister id => exact moves_unregister d id g
  | listen attempts => exact moves_listen d attempts g
  | occur o => exact moves_occur d o g
  | inspect => exact .refl d g
  | pass elapsed => exact .passed _

end Gateway
end Messenger
