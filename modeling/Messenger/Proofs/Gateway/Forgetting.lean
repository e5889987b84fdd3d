import Messenger.Proofs.Gateway.Alike
import Messenger.Proofs.Gateway.Telling

set_option autoImplicit false

/-! # Disabling forgets everything

A gateway that was disabled behaves as a new one with the same settings, whatever happened to it
before: nothing of its past shows in what it answers, hands over or asks the daemon, but for the
numbers in generated identifiers (`Gateway.disable_like_new`). -/

namespace Messenger.Gateway

open Json Rpc

variable {δ : Type}

/-- A disabled gateway to a daemon at known addresses. -/
def newborn (settings : Settings) (endpoint : Endpoint) (sequence : Sequence) (daemon : δ) :
    Gateway δ where
  settings := settings
  link := { endpoint, sequence, daemon }
  groups := { ttl := settings.cacheTtlSecs.toNat * 1000 }
  identities := { ttl := settings.cacheTtlSecs.toNat * 1000 }
  registry := .withCapacity settings.replayCapacity.toNat

/-- Whether a gateway can be made depends on the settings only. -/
theorem create_eq_ok_iff {settings : Settings} {sequence : Sequence} {daemon : δ}
    {g : Gateway δ} :
    create settings sequence daemon = .ok g
      ↔ settings.validate = .ok () ∧ ∃ endpoint, Endpoint.parse settings.daemonUrl = .ok endpoint
        ∧ g = newborn settings endpoint sequence daemon := by
  simp only [create, Decoder.bind_eq_ok_iff, Decoder.mapError_eq_ok_iff]
  constructor
  · rintro ⟨u, hvalid, endpoint, hendpoint, hg⟩
    exact ⟨hvalid, endpoint, hendpoint, (Except.ok.inj hg).symm⟩
  · rintro ⟨hvalid, endpoint, hendpoint, rfl⟩
    exact ⟨(), hvalid, endpoint, hendpoint, rfl⟩

/-- What no operation changes in a gateway with these settings. -/
def Constants.ofSettings (settings : Settings) (endpoint : Endpoint) : Constants where
  settings := settings
  endpoint := endpoint
  groupsTtl := settings.cacheTtlSecs.toNat * 1000
  identitiesTtl := settings.cacheTtlSecs.toNat * 1000
  capacity := max settings.replayCapacity.toNat 1

variable {settings : Settings} {endpoint : Endpoint} {d : Daemon δ}

/-- A new gateway is alike to itself. -/
theorem newborn_alike (settings : Settings) (endpoint : Endpoint) (sequence : Sequence)
    (daemon : δ) :
    Alike (.ofSettings settings endpoint) 0 sequence.next sequence.next Eq
      (newborn settings endpoint sequence daemon) (newborn settings endpoint sequence daemon) where
  settings := rfl
  settings' := rfl
  link := ⟨rfl, rfl, ⟨0, (UInt64.add_zero _).symm, (UInt64.add_zero _).symm⟩, rfl⟩
  groups := ⟨rfl, rfl⟩
  identities := ⟨rfl, rfl⟩
  registry := rfl
  capacity := rfl
  worker := rfl
  enabled := rfl
  now := rfl

/-- What a gateway keeps in any run, compared with itself. -/
theorem run_alike_self (settings : Settings) (endpoint : Endpoint) (d : Daemon δ)
    (sequence : Sequence) (daemon : δ) (ops : List Operation) :
    let g := (run d ops (newborn settings endpoint sequence daemon)).2
    Alike (.ofSettings settings endpoint) 0 sequence.next sequence.next Eq g g :=
  ((newborn_alike settings endpoint sequence daemon).run (d.impartial_self _) ops).2

/-- A registry is as good as new after a reset. -/
theorem reset_eq_withCapacity {r : Registry Message} {n : Nat} (h : r.capacity = max n 1) :
    r.reset = .withCapacity n := by
  obtain ⟨capacity, history, registrations, marks, deferred, moment, hpos⟩ := r
  subst h
  rfl

/-- A cache without entries is as good as new, at any time. -/
theorem invalidateAll_eq_shift {α : Type} (t : Nat) {c : Cache α} {ttl : Nat} (h : c.ttl = ttl) :
    c.invalidateAll = Cache.shift t { ttl } := by
  subst h
  rfl

/-- A gateway that was disabled is alike to a new one. -/
theorem disabled_alike_newborn {n : UInt64} {g : Gateway δ}
    (hkept : Alike (.ofSettings settings endpoint) 0 n n Eq g g) {R : δ → δ → Prop}
    {second : Sequence} {daemon : δ} (hR : R g.link.daemon daemon) :
    Alike (.ofSettings settings endpoint) g.now g.link.sequence.next second.next R g.disable.2.2
      (newborn settings endpoint second daemon) := by
  rw [disable_gateway]
  -- Of the past there is left what no operation changes, and the time.
  exact {
    settings := hkept.settings
    settings' := rfl
    link := ⟨hkept.link.endpoint, rfl, ⟨0, (UInt64.add_zero _).symm, (UInt64.add_zero _).symm⟩, hR⟩
    groups := ⟨invalidateAll_eq_shift _ hkept.groups.ttl_eq, rfl⟩
    identities := ⟨invalidateAll_eq_shift _ hkept.identities.ttl_eq, rfl⟩
    registry := reset_eq_withCapacity hkept.capacity
    capacity := rfl
    worker := rfl
    enabled := rfl
    now := (Nat.zero_add _).symm }

/-- **Disabling forgets everything.** Take any gateway that was made and used in any way, and
disable it. A new gateway can be made with the same settings, and however both are used from then
on, they answer and show the same and ask the daemon for the same, but for the numbers in generated
identifiers. The daemon must not use the identifier of a request for anything but to repeat it. -/
theorem disable_like_new {first second : Sequence} {s : δ} {g₀ : Gateway (δ × List Demand)}
    (hcreate : create settings first (s, []) = .ok g₀) (past : List Operation)
    {R : δ → δ → Prop} (hrefl : ∀ s, R s s)
    (himpartial : d.Impartial (run d.recorded past g₀).2.link.sequence.next second.next R) :
    let g := (run d.recorded past g₀).2
    let n := g.link.sequence.next
    ∃ anew, create settings second g.link.daemon = .ok anew ∧ ∀ future,
      List.Forall₂ (Outcome.Alike n second.next) (run d.recorded future g.disable.2.2).1
          (run d.recorded future anew).1
        ∧ List.Forall₂ (Demand.Alike (Renumbered n second.next))
          (run d.recorded future g.disable.2.2).2.link.daemon.2
          (run d.recorded future anew).2.link.daemon.2 := by
  intro g n
  obtain ⟨hvalid, endpoint, hendpoint, hnew⟩ := create_eq_ok_iff.1 hcreate
  refine ⟨newborn settings endpoint second g.link.daemon,
    create_eq_ok_iff.2 ⟨hvalid, endpoint, hendpoint, rfl⟩, fun future => ?_⟩
  -- What the past cannot have changed comes from comparing it with itself.
  have hkept : Alike (.ofSettings settings endpoint) 0 first.next first.next Eq g g := by
    have hself := run_alike_self settings endpoint d.recorded first (s, []) past
    rw [← hnew] at hself
    exact hself
  have hdaemon : Recorded (Renumbered n second.next) R g.link.daemon g.link.daemon :=
    ⟨hrefl _, List.forall₂_same.2 fun x _ => .same x⟩
  obtain ⟨houtcomes, hlast⟩ :=
    (disabled_alike_newborn hkept hdaemon).run himpartial.recorded future
  exact ⟨houtcomes, hlast.link.daemon.demands⟩

/-- A gateway that was enabled once, disabled, and then compared with a new one: the next
identifiers of the two have different numbers. -/
theorem disable_like_new_once_enabled :
    let first : Sequence := {}
    let second : Sequence := {}
    let start := newborn .loopback .loopback first ((), [])
    let g := (run Daemon.telling.recorded [.enable] start).2
    let n := g.link.sequence.next
    create .loopback first ((), []) = .ok start
      ∧ (∀ s : Unit, s = s)
      ∧ Daemon.telling.Impartial n second.next Eq
      ∧ g.enabled = true ∧ n = 2 ∧ second.next = 1
      ∧ ∃ anew, create .loopback second g.link.daemon = .ok anew ∧ ∀ future,
        List.Forall₂ (Outcome.Alike n second.next)
            (run Daemon.telling.recorded future g.disable.2.2).1
            (run Daemon.telling.recorded future anew).1
          ∧ List.Forall₂ (Demand.Alike (Renumbered n second.next))
            (run Daemon.telling.recorded future g.disable.2.2).2.link.daemon.2
            (run Daemon.telling.recorded future anew).2.link.daemon.2 := by
  intro first second start
  have hcreate : create .loopback first ((), []) = .ok start :=
    create_eq_ok_iff.2 ⟨by decide +kernel, .loopback, by decide +kernel, rfl⟩
  have henabled : (run Daemon.telling.recorded [.enable] start).2.enabled = true := by
    decide +kernel
  have hnumber : (run Daemon.telling.recorded [.enable] start).2.link.sequence.next = 2 := by
    decide +kernel
  have himpartial (n : UInt64) : Daemon.telling.Impartial n second.next Eq :=
    Daemon.telling_impartial _ _
  have hlike := disable_like_new hcreate [.enable] (fun _ => rfl) (himpartial _)
  -- What the gateway did is of no matter any more, and must not be run again.
  generalize (run Daemon.telling.recorded [.enable] start).2 = g at henabled hnumber hlike ⊢
  exact ⟨hcreate, fun _ => rfl, himpartial _, henabled, hnumber, rfl, hlike⟩

end Messenger.Gateway
