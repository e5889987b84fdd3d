import Messenger.Proofs.Cache.Course
import Messenger.Proofs.Gateway.Impartial
import Messenger.Proofs.Gateway.Life
import Messenger.Proofs.Stream.Parametric

set_option autoImplicit false

/-! # Gateways that do the same

Two gateways are *alike* if they differ in no more than the time and the number of the next
generated identifier. Applied to both, every operation answers and shows the same up to the numbers
in identifiers, and leaves them alike, provided that the daemon is impartial (`Gateway.Alike.run`).
The relation also says what no operation changes, so what a run keeps is the case where a gateway is
compared with itself. -/

namespace Messenger

open Json Rpc

variable {δ : Type}

/-! ## Titles -/

namespace Event

variable {σ : Type}

/-- From states that `S` relates, the same titles are found, and the states after it are related
again. -/
def FindsAlike (I : String → String → Prop) (S : σ → σ → Prop)
    (find find' : String → String → σ → Title × List LogRecord × σ) : Prop :=
  ∀ account groupId s s', S s s' →
    (find account groupId s).1 = (find' account groupId s').1
      ∧ List.Forall₂ (LogRecord.Alike I) (find account groupId s).2.1
        (find' account groupId s').2.1
      ∧ S (find account groupId s).2.2 (find' account groupId s').2.2

variable {I : String → String → Prop} {S : σ → σ → Prop}
variable {find find' : String → String → σ → Title × List LogRecord × σ}

/-- Where titles are found alike, messages get the same titles. -/
theorem classify_alike (hfind : FindsAlike I S find find') (payload : Value) {s s' : σ}
    (hs : S s s') :
    let x := classify (some find) payload s
    let x' := classify (some find') payload s'
    x.1 = x'.1 ∧ List.Forall₂ (LogRecord.Alike I) x.2.1 x'.2.1 ∧ S x.2.2 x'.2.2 := by
  unfold classify
  rcases parseLogged payload with ⟨reason | m, log⟩
  · exact ⟨rfl, LogRecord.alike_refl _, hs⟩
  · dsimp only
    cases m.envelope.groupId with
    | none => exact ⟨rfl, LogRecord.alike_refl _, hs⟩
    | some groupId =>
        obtain ⟨htitle, hlog, hstate⟩ := hfind m.account groupId s s' hs
        dsimp only
        rw [htitle]
        exact ⟨rfl, List.rel_append (List.rel_append (LogRecord.alike_refl _) hlog)
          (LogRecord.alike_refl _), hstate⟩

theorem classifyText_alike (hfind : FindsAlike I S find find') (text : String) {s s' : σ}
    (hs : S s s') :
    let x := classifyText (some find) text s
    let x' := classifyText (some find') text s'
    x.1 = x'.1 ∧ List.Forall₂ (LogRecord.Alike I) x.2.1 x'.2.1 ∧ S x.2.2 x'.2.2 := by
  unfold classifyText
  cases Value.parse text with
  | error fault => exact ⟨rfl, LogRecord.alike_refl _, hs⟩
  | ok payload => exact classify_alike hfind payload hs

end Event

/-- A cache with an idle time, and the same one at another time. -/
structure Cache.Alike {α : Type} (ttl t : Nat) (c c' : Cache α) : Prop where
  shifted : c = c'.shift t
  ttl_eq : c'.ttl = ttl

/-- A cache answers alike at another time. -/
theorem Cache.Alike.get {ε σ α : Type} {E : ε → ε → Prop} {I : String → String → Prop}
    {S : σ → σ → Prop} {ttl t : Nat} {load : Cache.Loader ε σ α}
    (hload : Cache.LoadsAlike E I S load) {c c' : Cache α} (h : Cache.Alike ttl t c c') (now : Nat)
    (account : String) {s s' : σ} (hs : S s s') :
    let x := c.get load (now + t) account s
    let x' := c'.get load now account s'
    SameUnless E x.1 x'.1 ∧ List.Forall₂ (LogRecord.Alike I) x.2.1 x'.2.1
      ∧ Cache.Alike ttl t x.2.2.1 x'.2.2.1 ∧ S x.2.2.2 x'.2.2.2 := by
  obtain ⟨hresult, hlog, hcache, hstate⟩ := Cache.get_shift hload t now account c' hs
  rw [h.shifted]
  exact ⟨hresult, hlog, ⟨hcache, (Cache.get_ttl ..).trans h.ttl_eq⟩, hstate⟩

theorem Cache.Alike.invalidateAll {α : Type} {ttl t : Nat} {c c' : Cache α}
    (h : Cache.Alike ttl t c c') : Cache.Alike ttl t c.invalidateAll c'.invalidateAll where
  shifted := by
    rw [h.shifted]
    rfl
  ttl_eq := h.ttl_eq

/-- Results that are alike tell the same title. -/
theorem Cache.titleFrom_alike {ε α : Type} {E : ε → ε → Prop} {x x' : Except ε α}
    (h : SameUnless E x x') (titleIn : α → String → Option String) (groupId : String) :
    titleFrom titleIn groupId x = titleFrom titleIn groupId x' := by
  cases h <;> rfl

/-! ## The worker -/

namespace Gateway

/-- What no operation changes. -/
structure Constants where
  settings : Settings
  endpoint : Endpoint
  groupsTtl : Nat
  identitiesTtl : Nat
  capacity : Nat

variable {k : Constants} {t : Nat} {n n' : UInt64} {R : δ → δ → Prop} {d : Daemon δ}

/-- What surrounds the workers of two gateways that are alike. -/
structure AroundAlike (k : Constants) (t : Nat) (n n' : UInt64) (R : δ → δ → Prop)
    (a a' : Around δ) : Prop where
  groups : Cache.Alike k.groupsTtl t a.1 a'.1
  link : a.2.Alike k.endpoint n n' R a'.2

/-- Titles are found alike in what surrounds the workers. -/
theorem findTitle_alike (hd : d.Impartial n n' R) (now : Nat) :
    Event.FindsAlike (Renumbered n n') (AroundAlike k t n n' R)
      (Cache.findTitle (GroupDirectory.load d) (now + t))
      (Cache.findTitle (GroupDirectory.load d) now) := by
  intro account groupId a a' h
  obtain ⟨hresult, hlog, hcache, hlink⟩ :=
    h.groups.get (GroupDirectory.loadsAlike hd) now account h.link
  exact ⟨Cache.titleFrom_alike hresult Cache.titleInGroups groupId, hlog, hcache, hlink⟩

/-- What is behind the workers of two gateways that are alike. -/
structure BehindAlike (k : Constants) (t : Nat) (n n' : UInt64) (R : δ → δ → Prop)
    (b b' : Stream.Feed.Behind (Around δ)) : Prop where
  registry : b.1 = b'.1
  capacity : b'.1.capacity = k.capacity
  around : AroundAlike k t n n' R b.2 b'.2

/-- Publishing and classifying are alike behind the workers. -/
theorem BehindAlike.respected (hd : d.Impartial n n' R) (now : Nat) :
    Stream.Feed.Respected (Notice.Alike (Renumbered n n')) (BehindAlike k t n n' R)
      (Cache.titles (GroupDirectory.load d) (now + t))
      (Cache.titles (GroupDirectory.load d) now) where
  same n := .same n
  publish message b b' h := by
    obtain ⟨r, s⟩ := b
    obtain rfl : r = b'.1 := h.registry
    exact ⟨Notice.alike_refl _, rfl, h.capacity, h.around⟩
  classify text b b' h := by
    rw [Cache.titles_eq, Cache.titles_eq]
    obtain ⟨hsame, hlog, haround⟩ := Event.classifyText_alike (findTitle_alike hd now) text h.around
    exact ⟨hsame, Notice.alike_logged hlog, h.registry, h.capacity, haround⟩

/-! ## Gateways -/

/-- Two gateways that differ in the time and in the number of the next generated identifier only. -/
structure Alike (k : Constants) (t : Nat) (n n' : UInt64) (R : δ → δ → Prop)
    (g g' : Gateway δ) : Prop where
  settings : g.settings = k.settings
  settings' : g'.settings = k.settings
  link : g.link.Alike k.endpoint n n' R g'.link
  groups : Cache.Alike k.groupsTtl t g.groups g'.groups
  identities : Cache.Alike k.identitiesTtl t g.identities g'.identities
  registry : g.registry = g'.registry
  capacity : g'.registry.capacity = k.capacity
  worker : g.worker = g'.worker
  enabled : g.enabled = g'.enabled
  now : g.now = g'.now + t

/-- Two results: the answers are related by `A`, what can be seen is alike, and so are the gateways
after the operation. -/
structure Result.Alike {α : Type} (k : Constants) (t : Nat) (n n' : UInt64) (R : δ → δ → Prop)
    (A : α → α → Prop) (x x' : Result δ α) : Prop where
  answer : A x.1 x'.1
  notices : List.Forall₂ (Notice.Alike (Renumbered n n')) x.2.1 x'.2.1
  gateway : x.2.2.Alike k t n n' R x'.2.2

/-- How the answers of alike gateways are related: they are the same, or failures that differ in an
identifier. -/
abbrev AnswersAlike (n n' : UInt64) {α : Type} :
    Except GatewayError α → Except GatewayError α → Prop :=
  SameUnless (GatewayError.Alike (Renumbered n n'))

variable {g g' : Gateway δ} {α : Type}

/-- Gateways that are alike show the same of themselves. -/
theorem Alike.status (h : g.Alike k t n n' R g') : g.status = g'.status := by
  unfold Gateway.status address streamState
  rw [h.settings, h.settings', h.link.endpoint, h.link.endpoint', h.worker, h.enabled, h.registry]

theorem Alike.address (h : g.Alike k t n n' R g') : g.address = g'.address := by
  rw [Gateway.address, Gateway.address, h.link.endpoint, h.link.endpoint']

/-- Gateways over other links that are alike. -/
theorem Alike.withLink (h : g.Alike k t n n' R g') {l l' : Link δ}
    (hlink : l.Alike k.endpoint n n' R l') :
    Alike k t n n' R { g with link := l } { g' with link := l' } :=
  { h with link := hlink }

theorem Alike.version (hd : d.Impartial n n' R) (h : g.Alike k t n n' R g') :
    Result.Alike k t n n' R Eq (g.version d) (g'.version d) := by
  obtain ⟨hresult, hlog, hlink⟩ := h.link.call hd "version" (.obj []) none
  unfold Gateway.version
  rcases hx : g.link.call d "version" (.obj []) none with ⟨result, log, link⟩
  rcases hx' : g'.link.call d "version" (.obj []) none with ⟨result', log', link'⟩
  rw [hx, hx'] at hresult hlog hlink
  have hafter := h.withLink hlink
  cases hresult with
  | ok value => exact ⟨rfl, Notice.alike_logged hlog, hafter⟩
  | error he =>
      refine ⟨rfl, Notice.alike_logged (List.rel_append hlog ?_), hafter⟩
      rw [hafter.address]
      exact LogRecord.alike_refl _

theorem Alike.enableCalls (hd : d.Impartial n n' R) (h : g.Alike k t n n' R g') :
    Result.Alike k t n n' R (AnswersAlike n n') (g.enableCalls d) (g'.enableCalls d) := by
  obtain ⟨hanswer, hnotices, hafter⟩ := h.version hd
  unfold Gateway.enableCalls
  rcases hx : g.version d with ⟨told, notices, g₁⟩
  rcases hx' : g'.version d with ⟨told', notices', g₁'⟩
  rw [hx, hx'] at hanswer hnotices hafter
  obtain rfl : told = told' := hanswer
  have haddress : g₁.address = g₁'.address := hafter.address
  cases told with
  | none =>
      refine ⟨?_, hnotices, hafter⟩
      dsimp only
      rw [haddress]
      exact .error (.same _)
  | some version =>
      refine ⟨.ok version, List.rel_append hnotices ?_, { hafter with enabled := rfl }⟩
      rw [haddress]
      exact Notice.alike_refl _

theorem Alike.enable (hd : d.Impartial n n' R) (h : g.Alike k t n n' R g') :
    Result.Alike k t n n' R (AnswersAlike n n') (g.enable d) (g'.enable d) := by
  obtain ⟨hanswer, hnotices, hafter⟩ := h.enableCalls hd
  unfold Gateway.enable
  rcases hx : g.enableCalls d with ⟨answer, notices, g₁⟩
  rcases hx' : g'.enableCalls d with ⟨answer', notices', g₁'⟩
  rw [hx, hx'] at hanswer hnotices hafter
  cases hanswer with
  | error he => exact ⟨.error he, hnotices, hafter⟩
  | ok version =>
      refine ⟨.ok version, hnotices, { hafter with worker := ?_ }⟩
      have hworker : g₁.worker = g₁'.worker := hafter.worker
      have hendpoint : g₁.link.endpoint = g₁'.link.endpoint :=
        hafter.link.endpoint.trans hafter.link.endpoint'.symm
      dsimp only
      rw [hworker, hendpoint]

/-- What is left of a gateway that was disabled. -/
theorem disable_gateway (g : Gateway δ) :
    g.disable.2.2 = { g with
      enabled := false
      worker := none
      groups := g.groups.invalidateAll
      identities := g.identities.invalidateAll
      registry := g.registry.reset } := by
  unfold Gateway.disable stopWorker
  cases hworker : g.worker with
  | none => simp [hworker]
  | some w => rfl

theorem Alike.disable (h : g.Alike k t n n' R g') :
    Result.Alike k t n n' R Eq g.disable g'.disable := by
  have hnotices : g.disable.2.1 = g'.disable.2.1 := by
    unfold Gateway.disable stopWorker
    rw [h.worker, h.registry]
    cases g'.worker <;> rfl
  refine ⟨rfl, ?_, ?_⟩
  · rw [hnotices]
    exact Notice.alike_refl _
  · rw [disable_gateway, disable_gateway]
    exact { h with
      groups := h.groups.invalidateAll
      identities := h.identities.invalidateAll
      registry := congrArg Registry.reset h.registry
      capacity := h.capacity
      worker := rfl
      enabled := rfl }

/-! ## Questions -/

theorem Alike.guarded (h : g.Alike k t n n' R g')
    {act act' : Gateway δ → Result δ (Except GatewayError α)}
    (hact : Result.Alike k t n n' R (AnswersAlike n n') (act g) (act' g')) :
    Result.Alike k t n n' R (AnswersAlike n n') (g.guarded act) (g'.guarded act') := by
  unfold Gateway.guarded
  rw [h.enabled]
  cases g'.enabled with
  | false => exact ⟨.error (.same _), .nil, h⟩
  | true => exact hact

theorem Alike.cachedGroups (hd : d.Impartial n n' R) (h : g.Alike k t n n' R g')
    (account : String) :
    Result.Alike k t n n' R (AnswersAlike n n') (g.cachedGroups d account)
      (g'.cachedGroups d account) := by
  obtain ⟨hresult, hlog, hcache, hlink⟩ :=
    h.groups.get (GroupDirectory.loadsAlike hd) g'.now account h.link
  rw [← h.now] at hresult hlog hcache hlink
  exact ⟨hresult, Notice.alike_logged hlog, { h with groups := hcache, link := hlink }⟩

theorem Alike.identitiesOf (hd : d.Impartial n n' R) (h : g.Alike k t n n' R g')
    (account : String) :
    Result.Alike k t n n' R (AnswersAlike n n') (g.identitiesOf d account)
      (g'.identitiesOf d account) := by
  obtain ⟨hresult, hlog, hcache, hlink⟩ :=
    h.identities.get (IdentityDirectory.loadsAlike hd) g'.now account h.link
  rw [← h.now] at hresult hlog hcache hlink
  refine h.guarded ?_
  exact ⟨hresult, Notice.alike_logged hlog, { h with identities := hcache, link := hlink }⟩

theorem Alike.callMethod (hd : d.Impartial n n' R) (h : g.Alike k t n n' R g') (method : String)
    (params : Value) (chosen : Option String) :
    Result.Alike k t n n' R (AnswersAlike n n') (g.callMethod d method params chosen)
      (g'.callMethod d method params chosen) := by
  obtain ⟨hresult, hlog, hlink⟩ := h.link.call hd method params chosen
  exact ⟨hresult.mapError .rpc, Notice.alike_logged hlog, h.withLink hlink⟩

/-! ## Sending -/

theorem Alike.callAll (hd : d.Impartial n n' R) (method : String) (plan : List Value)
    (h : g.Alike k t n n' R g') :
    Result.Alike k t n n' R (AnswersAlike n n') (callAll d method plan g)
      (Gateway.callAll d method plan g') := by
  induction plan generalizing g g' with
  | nil => exact ⟨.ok [], .nil, h⟩
  | cons params plan ih =>
      obtain ⟨hanswer, hnotices, hafter⟩ := h.callMethod hd method params none
      unfold Gateway.callAll
      rcases hx : g.callMethod d method params none with ⟨answer, notices, g₁⟩
      rcases hx' : g'.callMethod d method params none with ⟨answer', notices', g₁'⟩
      rw [hx, hx'] at hanswer hnotices hafter
      cases hanswer with
      | error he => exact ⟨.error he, hnotices, hafter⟩
      | ok value =>
          obtain ⟨hrest, hmore, hlast⟩ := ih hafter
          exact ⟨hrest.map _, List.rel_append hnotices hmore, hlast⟩

theorem Alike.calls (hd : d.Impartial n n' R) (h : g.Alike k t n n' R g') (delivery : Delivery) :
    Result.Alike k t n n' R (AnswersAlike n n') (g.calls d delivery) (g'.calls d delivery) := by
  unfold Gateway.calls
  split
  · split
    · exact ⟨.error (.same _), .nil, h⟩
    · exact ⟨.ok _, .nil, h⟩
  · obtain ⟨hanswer, hnotices, hafter⟩ := h.cachedGroups hd delivery.account
    rcases hx : g.cachedGroups d delivery.account with ⟨answer, notices, g₁⟩
    rcases hx' : g'.cachedGroups d delivery.account with ⟨answer', notices', g₁'⟩
    rw [hx, hx'] at hanswer hnotices hafter
    cases hanswer with
    | error he => exact ⟨.error he, hnotices, hafter⟩
    | ok groups =>
        exact ⟨.ok _, List.rel_append hnotices (Notice.alike_refl _), hafter⟩

theorem Alike.send (hd : d.Impartial n n' R) (h : g.Alike k t n n' R g') (delivery : Delivery) :
    Result.Alike k t n n' R (AnswersAlike n n') (g.send d delivery) (g'.send d delivery) := by
  refine h.guarded ?_
  obtain ⟨hanswer, hnotices, hafter⟩ := h.calls hd delivery
  rcases hx : g.calls d delivery with ⟨answer, notices, g₁⟩
  rcases hx' : g'.calls d delivery with ⟨answer', notices', g₁'⟩
  rw [hx, hx'] at hanswer hnotices hafter
  cases hanswer with
  | error he => exact ⟨.error he, hnotices, hafter⟩
  | ok plan =>
      obtain ⟨hrest, hmore, hlast⟩ := hafter.callAll hd delivery.content.method plan
      exact ⟨hrest, List.rel_append hnotices hmore, hlast⟩

/-! ## The registry and the worker -/

/-- Gateways over the same registry. -/
theorem Alike.withRegistry (h : g.Alike k t n n' R g') {r : Registry Message}
    (hcapacity : r.capacity = k.capacity) :
    Alike k t n n' R { g with registry := r } { g' with registry := r } :=
  { h with registry := rfl, capacity := hcapacity }

theorem Alike.register (h : g.Alike k t n n' R g') (id : ListenerId) (listener : Listener Message) :
    Result.Alike k t n n' R Eq (g.register id listener) (g'.register id listener) := by
  unfold Gateway.register
  rw [h.registry]
  exact ⟨rfl, Notice.alike_refl _, h.withRegistry h.capacity⟩

theorem Alike.unregister (h : g.Alike k t n n' R g') (id : ListenerId) :
    Result.Alike k t n n' R Eq (g.unregister id) (g'.unregister id) := by
  have hcapacity : (g'.registry.remove id).2.2.capacity = g'.registry.capacity := by
    unfold Registry.remove
    split <;> rfl
  unfold Gateway.unregister
  rw [h.registry]
  exact ⟨rfl, Notice.alike_refl _, h.withRegistry (hcapacity.trans h.capacity)⟩

/-- The workers of gateways that are alike are in the same state. -/
theorem Alike.related (h : g.Alike k t n n' R g') (w : Stream.Worker) :
    Stream.Feed.Related (BehindAlike k t n n' R) ⟨w, g.registry, g.groups, g.link⟩
      ⟨w, g'.registry, g'.groups, g'.link⟩ :=
  ⟨rfl, h.registry, h.capacity, h.groups, h.link⟩

/-- Gateways after something happened to their workers. -/
theorem Alike.moved (h : g.Alike k t n n' R g')
    {x x' : List (Notice Message) × Stream.Feed (Around δ)}
    (hx : Stream.Feed.Moved (Notice.Alike (Renumbered n n')) (BehindAlike k t n n' R) x x') :
    Result.Alike k t n n' R Eq
      ((), x.1, { g with
        worker := some x.2.worker, registry := x.2.registry
        groups := x.2.around.1, link := x.2.around.2 })
      ((), x'.1, { g' with
        worker := some x'.2.worker, registry := x'.2.registry
        groups := x'.2.around.1, link := x'.2.around.2 }) := by
  have hbehind : BehindAlike k t n n' R x.2.behind x'.2.behind := hx.feed.behind
  exact ⟨rfl, hx.notices, { h with
    worker := congrArg some hx.feed.worker
    registry := hbehind.registry
    capacity := hbehind.capacity
    groups := hbehind.around.groups
    link := hbehind.around.link }⟩

theorem Alike.listen (hd : d.Impartial n n' R) (h : g.Alike k t n n' R g') (attempts : Nat) :
    Result.Alike k t n n' R Eq ((), g.listen d attempts) ((), g'.listen d attempts) := by
  have hrespected := BehindAlike.respected hd (k := k) (t := t) g'.now
  rw [← h.now] at hrespected
  unfold Gateway.listen
  rw [h.worker]
  cases g'.worker with
  | none => exact ⟨rfl, .nil, h⟩
  | some w =>
      refine h.moved (hrespected.run (fun b b' hb => ?_) attempts (h.related w))
      obtain ⟨hconnection, hlink⟩ := hb.around.link.listen hd
      exact ⟨hconnection, hb.registry, hb.capacity, hb.around.groups, hlink⟩

theorem Alike.occur (hd : d.Impartial n n' R) (h : g.Alike k t n n' R g')
    (o : Stream.Occurrence) :
    Result.Alike k t n n' R Eq ((), g.occur d o) ((), g'.occur d o) := by
  have hrespected := BehindAlike.respected hd (k := k) (t := t) g'.now
  rw [← h.now] at hrespected
  unfold Gateway.occur
  rw [h.worker]
  cases g'.worker with
  | none => exact ⟨rfl, .nil, h⟩
  | some w => exact h.moved (hrespected.step o (h.related w))

/-! ## Runs -/

theorem Result.Alike.told {x x' : Result δ (Except GatewayError α)}
    (h : Result.Alike k t n n' R (AnswersAlike n n') x x') (tell : α → Told) :
    Result.Alike k t n n' R (AnswersAlike n n') (Result.told tell x) (Result.told tell x') where
  answer := h.answer.map tell
  notices := h.notices
  gateway := h.gateway

theorem Result.Alike.sure {x x' : Result δ α} (h : Result.Alike k t n n' R Eq x x')
    (tell : α → Told) :
    Result.Alike k t n n' R (AnswersAlike n n') (Result.sure tell x) (Result.sure tell x') where
  answer := by
    unfold Result.sure
    rw [h.answer]
    exact .ok _
  notices := h.notices
  gateway := h.gateway

/-- Every operation answers and shows the same up to the numbers in identifiers. -/
theorem Alike.apply (hd : d.Impartial n n' R) (h : g.Alike k t n n' R g') (op : Operation) :
    Result.Alike k t n n' R (AnswersAlike n n') (apply d op g) (Gateway.apply d op g') := by
  cases op with
  | enable => exact (h.enable hd).told _
  | enableCalls => exact (h.enableCalls hd).told _
  | disable => exact h.disable.sure fun _ => .nothing
  | version => exact (h.version hd).sure _
  | groups account => exact (h.guarded (h.cachedGroups hd account)).told _
  | identities account => exact (h.identitiesOf hd account).told _
  | call method params chosen => exact (h.guarded (h.callMethod hd method params chosen)).told _
  | send delivery => exact (h.send hd delivery).told _
  | register id listener => exact (h.register id listener).sure _
  | unregister id => exact (h.unregister id).sure _
  | listen attempts => exact (h.listen hd attempts).sure fun _ => .nothing
  | occur o => exact (h.occur hd o).sure fun _ => .nothing
  | inspect =>
      unfold Gateway.apply
      rw [h.status]
      exact ⟨.ok _, .nil, h⟩
  | pass elapsed =>
      have hnow : g.now + elapsed = g'.now + elapsed + t := by
        rw [h.now, Nat.add_right_comm]
      exact ⟨.ok _, .nil, { h with now := hnow }⟩

/-- What can be seen of one operation is alike. -/
structure Outcome.Alike (n n' : UInt64) (x x' : Outcome) : Prop where
  answer : AnswersAlike n n' x.1 x'.1
  notices : List.Forall₂ (Notice.Alike (Renumbered n n')) x.2 x'.2

/-- So does every run. -/
theorem Alike.run (hd : d.Impartial n n' R) (h : g.Alike k t n n' R g') (ops : List Operation) :
    List.Forall₂ (Outcome.Alike n n') (run d ops g).1 (Gateway.run d ops g').1
      ∧ (Gateway.run d ops g).2.Alike k t n n' R (Gateway.run d ops g').2 := by
  induction ops generalizing g g' with
  | nil => exact ⟨.nil, h⟩
  | cons op ops ih =>
      obtain ⟨hanswer, hnotices, hafter⟩ := h.apply hd op
      obtain ⟨hrest, hlast⟩ := ih hafter
      exact ⟨.cons ⟨hanswer, hnotices⟩ hrest, hlast⟩

end Gateway
end Messenger
