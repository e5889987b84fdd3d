import Messenger.Proofs.Cache.Sound
import Messenger.Proofs.Directory

set_option autoImplicit false

/-! # Titles from a cache of groups

A title that is sought in a cache of groups is the name of the group with that very identifier in
the directory of that very account: the one that was loaded last for it, if the account was served
recently, and otherwise the one that is loaded now (`Cache.Course.title_of_directory`). Whatever
else went through the cache before, no title of another group or of another account is found. -/

namespace Messenger

variable {σ : Type}

/-- How the groups of an account are listed, in a state that listing may change. -/
abbrev GroupDirectory.Lister (σ : Type) :=
  String → σ → Except GatewayError (List Group) × List LogRecord × σ

/-- Load directories of the groups that are listed. -/
def GroupDirectory.loading (list : Lister σ) : Cache.Loader GatewayError σ GroupDirectory :=
  fun account s =>
    let (groups, log, s) := list account s
    (groups.map ofList, log, s)

/-- The groups of a daemon are loaded so. -/
theorem GroupDirectory.load_eq_loading {δ : Type} (d : Daemon δ) :
    load d = loading fun account link => link.list d listGroups Group.ofJson account := rfl

theorem GroupDirectory.keyed_of_loading {list : Lister σ} {account : String} {s : σ}
    {groups : GroupDirectory} (h : (loading list account s).1 = .ok groups) :
    groups.Keyed fun g => some g.id :=
  Directory.keyed_of_map_eq_ok h

namespace Cache

/-- What was loaded last was loaded. -/
theorem mem_of_lastLoaded {α ε : Type} {account : String} {loads : List (String × Except ε α)}
    {value : α} (h : lastLoaded account loads = some value) : (account, .ok value) ∈ loads := by
  have hmem := List.mem_of_getLast? h
  obtain ⟨⟨a, result⟩, hl, hvalue⟩ := List.mem_filterMap.1 hmem
  rw [List.mem_filter, decide_eq_true_eq] at hl
  obtain ⟨hl, rfl⟩ := hl
  cases result with
  | error e => cases hvalue
  | ok v =>
      obtain rfl := Option.some.inj hvalue
      exact hl

theorem titleFrom_eq_known_iff {α ε : Type} (titleIn : α → String → Option String)
    (groupId : String) (result : Except ε α) (t : String) :
    titleFrom titleIn groupId result = .known t
      ↔ ∃ value, result = .ok value ∧ titleIn value groupId = some t := by
  cases result with
  | error e => simp [titleFrom]
  | ok value => cases htitle : titleIn value groupId <;> simp [titleFrom, htitle]

/-- In a directory by identifiers, the title under an identifier is the name of the group that has
it. -/
theorem titleInGroups_eq_some_iff {groups : GroupDirectory}
    (h : groups.Keyed fun g => some g.id) (groupId t : String) :
    titleInGroups groups groupId = some t
      ↔ ∃ g ∈ groups.items, g.id = groupId ∧ g.name = some t := by
  simp only [titleInGroups, Option.bind_eq_some_iff, h.get?_eq_some_iff, Option.some.injEq,
    and_assoc]

namespace Course

/-- The answer to an account that a course allows was loaded for it. -/
theorem Answers.mem {α ε : Type} {c : Course ε σ α} {account : String} {value : α}
    {loads : List (String × Except ε α)} (h : c.Answers account (.ok value) loads) :
    (account, .ok value) ∈ loads := by
  by_cases hserved : Served c.cache.ttl account c.now c.history
  · obtain ⟨rfl, v, hlast, hv⟩ := h.served hserved
    cases hv
    exact mem_of_lastLoaded hlast
  · rw [h.stale hserved]
    exact List.mem_append_right _ (List.mem_singleton_self _)

/-- **Titles are those of the account's own directory.** After any course of a cache of groups, a
title is found for a group of an account if and only if it is the name of the group with exactly
that identifier in the directory that the account is answered. -/
theorem title_of_directory (list : GroupDirectory.Lister σ) (ttl now : Nat) (s : σ)
    (ops : List Operation) (account groupId : String) :
    let load := GroupDirectory.loading list
    let c := (start ttl now s).run load titleInGroups ops
    let found := findTitle (Cache.recorded load) c.now account groupId (c.cache, c.state)
    ∃ directory, c.Answers account directory found.2.2.2.2
      ∧ ∀ t, found.1 = .known t ↔ ∃ groups, directory = .ok groups
        ∧ ∃ g ∈ groups.items, g.id = groupId ∧ g.name = some t := by
  intro load c found
  have hanswers : c.Answers account (c.ask load account).1 (c.ask load account).2.loads :=
    ((sound_start ttl now s account).run load titleInGroups ops).answers load
  have hloaded : (c.ask load account).2.LoadedBy load :=
    ((loadedBy_start ttl now s).run titleInGroups ops).ask account
  have hfound : found.1 = titleFrom titleInGroups groupId (c.ask load account).1 := rfl
  refine ⟨(c.ask load account).1, hanswers, fun t => ?_⟩
  rw [hfound, titleFrom_eq_known_iff]
  refine exists_congr fun groups => and_congr_right fun hresult => ?_
  rw [hresult] at hanswers
  obtain ⟨s', hs'⟩ := hloaded _ hanswers.mem
  exact titleInGroups_eq_some_iff (GroupDirectory.keyed_of_loading hs') groupId t

end Course
end Cache
end Messenger
