import Messenger.Proofs.Directory.Lookup
import Messenger.Proofs.Gateway.Sending

set_option autoImplicit false

/-! # What the name of a group stands for

A group is named by its identifier or by its title. Titles need not be distinct, and one may be the
identifier of another group; so an identifier comes before every title, and of several groups with
one title the first is meant (`GroupDirectory.Named`). The identifier of the group that a name stands
for stands for that very group, hence it makes no difference to a delivery which of the two is
written (`GroupDirectory.resolve_named`). -/

namespace Messenger

/-- A group has a title, in whatever case. -/
def Group.Titled (g : Group) (title : String) : Prop :=
  ∃ name, g.name = some name ∧ Text.lowercase name = Text.lowercase title

theorem Group.hasTitle_iff (g : Group) (title : String) :
    g.hasTitle title = true ↔ g.Titled title := by
  unfold hasTitle Titled
  cases g.name <;> simp

namespace GroupDirectory

/-- What a name stands for among groups with distinct identifiers. -/
inductive Named (groups : List Group) (name : String) : Group → Prop where
  /-- The group whose identifier it is. -/
  | identifier {g : Group} (hmem : g ∈ groups) (hid : g.id = name) : Named groups name g
  /-- If it is no identifier, the first group whose title it is. -/
  | title {before after : List Group} {g : Group} (hnone : ∀ b ∈ groups, b.id ≠ name)
      (hgroups : groups = before ++ g :: after) (htitle : g.Titled name)
      (hfirst : ∀ b ∈ before, ¬ b.Titled name) : Named groups name g

variable {d : GroupDirectory} {name : String} {g : Group}

section Keyed

variable (h : d.Keyed fun g => some g.id)
include h

theorem get?_eq_none_iff : d.get? name = none ↔ ∀ b ∈ d.items, b.id ≠ name := by
  simp only [Option.eq_none_iff_forall_ne_some, ne_eq, h.get?_eq_some_iff, Option.some.injEq,
    not_and]

/-- A name is looked up for what it stands for. -/
theorem resolve_eq_some_iff : d.resolve name = some g ↔ Named d.items name g := by
  unfold resolve
  cases hget : d.get? name with
  | some own =>
      obtain ⟨hown, hid⟩ := (h.get?_eq_some_iff name own).1 hget
      constructor
      · rintro ⟨⟩
        exact .identifier hown (Option.some.inj hid)
      · rintro (⟨hmem, hid'⟩ | ⟨hnone, -, -, -⟩)
        · exact hget.symm.trans ((h.get?_eq_some_iff name g).2 ⟨hmem, congrArg some hid'⟩)
        · exact absurd (Option.some.inj hid) (hnone own hown)
  | none =>
      have hnone := (get?_eq_none_iff h).1 hget
      show d.items.find? _ = some g ↔ _
      simp only [List.find?_eq_some_iff_append, Group.hasTitle_iff, Bool.not_eq_true',
        ← Bool.not_eq_true]
      constructor
      · rintro ⟨htitle, before, after, hitems, hfirst⟩
        exact .title hnone hitems htitle hfirst
      · rintro (⟨hmem, hid⟩ | ⟨-, hitems, htitle, hfirst⟩)
        · exact absurd hid (hnone g hmem)
        · exact ⟨htitle, _, _, hitems, hfirst⟩

/-- A name stands for nothing if and only if no group has it. -/
theorem resolve_eq_none_iff :
    d.resolve name = none ↔ ∀ b ∈ d.items, b.id ≠ name ∧ ¬ b.Titled name := by
  unfold resolve
  cases hget : d.get? name with
  | some own =>
      obtain ⟨hown, hid⟩ := (h.get?_eq_some_iff name own).1 hget
      exact ⟨nofun, fun hnone => absurd (Option.some.inj hid) (hnone own hown).1⟩
  | none =>
      have hnone := (get?_eq_none_iff h).1 hget
      show d.items.find? _ = none ↔ _
      rw [List.find?_eq_none]
      exact forall₂_congr fun b hb => by simp [hnone b hb, Group.hasTitle_iff]

/-- What a name stands for is in the directory, and its identifier stands for it too. -/
theorem resolve_id (hname : d.resolve name = some g) : d.resolve g.id = some g := by
  rw [resolve_eq_some_iff h] at hname ⊢
  refine .identifier ?_ rfl
  cases hname with
  | identifier hmem _ => exact hmem
  | title _ hgroups _ _ => exact hgroups ▸ by simp

end Keyed

end GroupDirectory

namespace Gateway

/-- Two names that are looked up for the same group can be exchanged. -/
theorem groupIds_exchange {groups : GroupDirectory} {name other : String}
    (hsame : groups.resolve name = groups.resolve other) (hfound : (groups.resolve name).isSome)
    (account : String) (before after : List String) :
    groupIds account groups (before ++ name :: after)
      = groupIds account groups (before ++ other :: after) := by
  have hnames (chosen : List String) :
      resolveNames account groups chosen (before ++ name :: after)
        = resolveNames account groups chosen (before ++ other :: after) := by
    induction before generalizing chosen with
    | nil =>
        obtain ⟨g, hg⟩ := Option.isSome_iff_exists.1 hfound
        simp only [List.nil_append, resolveNames, ← hsame, hg]
    | cons first before ih => simp only [List.cons_append, resolveNames, ih]
  simp only [groupIds, hnames]

/-- A delivery knows groups only by what their names are looked up for. -/
theorem send_congr {δ : Type} (daemon : Daemon δ) (gw : Gateway δ) (delivery : Delivery)
    {directory : GroupDirectory}
    (hdirectory : (gw.cachedGroups daemon delivery.account).1 = .ok directory)
    {names others : List String} (hnames : names ≠ []) (hothers : others ≠ [])
    (hsame : groupIds delivery.account directory names
      = groupIds delivery.account directory others) :
    gw.send daemon { delivery with groups := names }
      = gw.send daemon { delivery with groups := others } := by
  have hcalls : gw.calls daemon { delivery with groups := names }
      = gw.calls daemon { delivery with groups := others } := by
    rcases hasked : gw.cachedGroups daemon delivery.account with ⟨answer, notices, gw'⟩
    rw [hasked] at hdirectory
    obtain rfl : answer = .ok directory := hdirectory
    simp only [calls, List.isEmpty_iff, hnames, hothers, if_false, hasked, hsame]
    rfl
  simp only [send, guarded, hcalls]

end Gateway

namespace GroupDirectory

/-- **Names of groups.** In the directory of a list of groups, a name stands for the group with that
identifier, else for the first group with that title, else for nothing; the groups are those that
are listed first with their identifier, in the order of the list. The identifier of the group that a
name stands for stands for the same group, so a delivery that names a group by its title and one
that names it by its identifier come to the same. -/
theorem resolve_named {δ : Type} (groups : List Group) :
    let d := ofList groups
    let kept := Directory.firsts (fun g => some g.id) groups
    (∀ name g, d.resolve name = some g ↔ Named kept name g)
    ∧ (∀ name, d.resolve name = none ↔ ∀ g ∈ kept, g.id ≠ name ∧ ¬ g.Titled name)
    ∧ ∀ name g, d.resolve name = some g → d.resolve g.id = some g
      ∧ ∀ (daemon : Daemon δ) (gw : Gateway δ) (delivery : Delivery) (before after : List String),
        (gw.cachedGroups daemon delivery.account).1 = .ok d →
          gw.send daemon { delivery with groups := before ++ name :: after }
            = gw.send daemon { delivery with groups := before ++ g.id :: after } := by
  intro d kept
  have hkeyed : d.Keyed fun g => some g.id := Directory.keyed_ofList _ groups
  have hitems : d.items = kept := Directory.items_ofList _ groups
  refine ⟨fun name g => hitems ▸ resolve_eq_some_iff hkeyed,
    fun name => hitems ▸ resolve_eq_none_iff hkeyed, fun name g hname => ?_⟩
  have hid := resolve_id hkeyed hname
  refine ⟨hid, fun daemon gw delivery before after hdirectory => ?_⟩
  refine Gateway.send_congr daemon gw delivery hdirectory (by simp) (by simp) ?_
  exact Gateway.groupIds_exchange (hname.trans hid.symm) (hname ▸ rfl) _ before after

/-- A group with a title. -/
def titled (id title : String) : Group := ⟨id, some title, none, -1, ⟨none, none, none⟩, []⟩

/-- Two groups with one title, after a group whose title is the identifier of the first of them. -/
def colliding : List Group := [titled "g1" "g2", titled "g2" "Team", titled "g3" "TEAM"]

/-- A gateway that knows these groups. -/
def knowingColliding : Gateway (Unit × List Exchange) :=
  { Gateway.knowingTwoGroups with
    groups := { ttl := 1000, entries := [("me", ⟨ofList colliding, 0⟩)] } }

/-- The first group with the title is meant, and its identifier does not stand for the group that
has it as its title. -/
theorem resolve_named_colliding :
    (ofList colliding).resolve "team" = some (titled "g2" "Team")
      ∧ (ofList colliding).resolve "g2" = some (titled "g2" "Team")
      ∧ (knowingColliding.cachedGroups Daemon.unreachable.transcribed "me").1
        = .ok (ofList colliding)
      ∧ knowingColliding.send Daemon.unreachable.transcribed
          { Gateway.deletion with groups := ["g1", "team"] }
        = knowingColliding.send Daemon.unreachable.transcribed
          { Gateway.deletion with groups := ["g1", "g2"] } := by
  have hteam : (ofList colliding).resolve "team" = some (titled "g2" "Team") := rfl
  have hknown : (knowingColliding.cachedGroups Daemon.unreachable.transcribed "me").1
      = .ok (ofList colliding) := rfl
  obtain ⟨hid, hsend⟩ := (resolve_named colliding).2.2 _ _ hteam
  exact ⟨hteam, hid, hknown, hsend _ knowingColliding Gateway.deletion ["g1"] [] hknown⟩

end GroupDirectory
end Messenger
