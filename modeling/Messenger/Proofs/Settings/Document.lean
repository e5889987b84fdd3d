import Messenger.Proofs.Json.Decode
import Messenger.Proofs.Json.Merge
import Messenger.Settings.Layers

set_option autoImplicit false

/-! # What a settings document says

A settings document is laid over the defaults and decoded. Since keys are merged one by one and
fields are decoded one by one, every setting comes out by itself: it is what the document says about
it, or else its default (`Settings.of_ofLayer`). Whether a document can be decoded is a matter
of each setting by itself, too (`Settings.ofLayer_isOk`). -/

namespace Messenger

open Json
open Decoder (Readable Slot bind_eq_ok_iff readable_cons_iff spares_field under_merged)

/-- A setting, by the type of its values. -/
inductive Setting : Type → Type where
  | daemonUrl : Setting String
  | reconnectDelayMs : Setting UInt64
  | cacheTtlSecs : Setting UInt64
  | replayCapacity : Setting UInt64
  | connectTimeoutMs : Setting UInt64
  | logLevel : Setting String
  | logFormat : Setting LogFormat

namespace Setting

variable {β : Type}

/-- The value of a setting. -/
def of (s : Settings) : {β : Type} → Setting β → β
  | _, .daemonUrl => s.daemonUrl
  | _, .reconnectDelayMs => s.reconnectDelayMs
  | _, .cacheTtlSecs => s.cacheTtlSecs
  | _, .replayCapacity => s.replayCapacity
  | _, .connectTimeoutMs => s.connectTimeoutMs
  | _, .logLevel => s.logging.level
  | _, .logFormat => s.logging.format

/-- How the value of a setting is written. -/
def decoder : {β : Type} → Setting β → Decoder β
  | _, .daemonUrl => .string
  | _, .reconnectDelayMs => .uint64
  | _, .cacheTtlSecs => .uint64
  | _, .replayCapacity => .uint64
  | _, .connectTimeoutMs => .uint64
  | _, .logLevel => .string
  | _, .logFormat => .name LogFormat.names

/-- The members of the log settings of a document. -/
def logMembers (ms : Members) : Members := ((ms.get? "logging").bind Value.obj?).getD []

/-- What a document says about a setting. -/
def said (ms : Members) : {β : Type} → Setting β → Option Value
  | _, .daemonUrl => ms.get? "daemonUrl"
  | _, .reconnectDelayMs => ms.get? "reconnectDelayMs"
  | _, .cacheTtlSecs => ms.get? "cacheTtlSecs"
  | _, .replayCapacity => ms.get? "replayCapacity"
  | _, .connectTimeoutMs => ms.get? "connectTimeoutMs"
  | _, .logLevel => (logMembers ms).get? "level"
  | _, .logFormat => (logMembers ms).get? "format"

/-- What a document says about a setting decodes as `o`, or there is nothing to decode. -/
def SaidAs (l : Setting β) (ms : Members) (o : Option β) : Prop :=
  l.decoder.optional (l.said ms) = .ok o

end Setting

/-- The log settings of a document, if it has any, are an object. -/
def LogsInObject (ms : Members) : Prop :=
  ∀ v, ms.get? "logging" = some v → v.isNull = false → ∃ members, v = .obj members

instance (ms : Members) : Decidable (LogsInObject ms) :=
  match h : ms.get? "logging" with
  | none => isTrue fun _ hv => nomatch h.symm.trans hv
  | some (.obj members) => isTrue fun _ hv _ => ⟨members, (Option.some.inj (h.symm.trans hv)).symm⟩
  | some .null => isTrue fun v hv hnot => by
    obtain rfl := Option.some.inj (h.symm.trans hv)
    cases hnot
  | some (.bool _) | some (.int _) | some (.float _) | some (.str _) | some (.arr _) =>
    isFalse fun hall => nomatch hall _ h rfl

/-! ## Log settings -/

namespace LogSettings

theorem slot_level :
    Slot shape "level" .string Draft.level fun a x => { x with level := some a } where
  mem := by simp [shape]
  get_put _ _ := rfl
  frame := by simp [shape, spares_field]

theorem slot_format :
    Slot shape "format" (.name LogFormat.names) Draft.format
      fun a x => { x with format := some a } where
  mem := by simp [shape]
  get_put _ _ := rfl
  frame := by simp [shape, spares_field]

theorem lawful : shape.Lawful where
  names_nodup := by decide
  slotted := by
    simp only [Decoder.Shape.Slotted, shape, List.forall_mem_cons]
    exact ⟨⟨_, _, _, _, _, slot_level, rfl⟩, ⟨_, _, _, _, _, slot_format, rfl⟩, by simp⟩
  unset := by
    simp only [shape, List.forall_mem_cons]
    exact ⟨rfl, rfl, by simp⟩

/-- The default log settings as members. -/
def defaultMembers : Members := [("format", .str "compact"), ("level", .str "info")]

theorem ascending_defaultMembers : defaultMembers.Ascending := by
  simp only [defaultMembers, Members.Ascending]
  decide

/-- Log settings laid over their defaults. -/
theorem ofValue_merged_iff {ms : Members} (hms : (ms.map Prod.fst).Nodup) {s : LogSettings} :
    shape.ofValue (.obj (mergeMembers defaultMembers ms)) = .ok s
      ↔ (∃ level, Decoder.string.optional (ms.get? "level") = .ok level
            ∧ s.level = level.getD "info")
        ∧ ∃ format, (Decoder.name LogFormat.names).optional (ms.get? "format") = .ok format
            ∧ s.format = format.getD .compact := by
  have hfields {x : Draft}
      (hx : shape.ofMembers shape.empty (mergeMembers defaultMembers ms) = .ok x) :=
    And.intro
      (slot_level.get_of_merged lawful ascending_defaultMembers hms rfl rfl (b := "info") rfl hx)
      (slot_format.get_of_merged lawful ascending_defaultMembers hms rfl rfl (b := .compact) rfl hx)
  constructor
  · intro h
    obtain ⟨x, hx, hfinish⟩ := bind_eq_ok_iff.1 h
    obtain ⟨⟨level, hlevel, hget⟩, ⟨format, hformat, hget'⟩⟩ := hfields hx
    cases hfinish
    exact ⟨⟨level, hlevel, by rw [hget, Option.getD_some]⟩,
      ⟨format, hformat, by rw [hget', Option.getD_some]⟩⟩
  · rintro ⟨⟨level, hlevel, hs⟩, ⟨format, hformat, hs'⟩⟩
    have hread : Readable shape.fields (mergeMembers defaultMembers ms) := by
      simp only [shape, readable_cons_iff, List.forall_mem_singleton]
      exact ⟨under_merged hms rfl rfl rfl hlevel, under_merged hms rfl rfl rfl hformat,
        by simp [Readable]⟩
    obtain ⟨x, hx⟩ :=
      lawful.ofMembers_isOk (ascending_mergeMembers ms ascending_defaultMembers).nodup hread
    obtain ⟨⟨level', hlevel', hget⟩, ⟨format', hformat', hget'⟩⟩ := hfields hx
    obtain rfl := Except.ok.inj (hlevel.symm.trans hlevel')
    obtain rfl := Except.ok.inj (hformat.symm.trans hformat')
    refine bind_eq_ok_iff.2 ⟨x, hx, ?_⟩
    simp only [shape, hget, hget', Option.getD_some, ← hs, ← hs']

end LogSettings

/-! ## All settings -/

namespace Settings

theorem slot_daemonUrl :
    Slot shape "daemonUrl" .string Draft.daemonUrl fun a x => { x with daemonUrl := some a } where
  mem := by simp [shape]
  get_put _ _ := rfl
  frame := by simp [shape, spares_field]

theorem slot_reconnectDelayMs :
    Slot shape "reconnectDelayMs" .uint64 Draft.reconnectDelayMs
      fun a x => { x with reconnectDelayMs := some a } where
  mem := by simp [shape]
  get_put _ _ := rfl
  frame := by simp [shape, spares_field]

theorem slot_cacheTtlSecs :
    Slot shape "cacheTtlSecs" .uint64 Draft.cacheTtlSecs
      fun a x => { x with cacheTtlSecs := some a } where
  mem := by simp [shape]
  get_put _ _ := rfl
  frame := by simp [shape, spares_field]

theorem slot_replayCapacity :
    Slot shape "replayCapacity" .uint64 Draft.replayCapacity
      fun a x => { x with replayCapacity := some a } where
  mem := by simp [shape]
  get_put _ _ := rfl
  frame := by simp [shape, spares_field]

theorem slot_connectTimeoutMs :
    Slot shape "connectTimeoutMs" .uint64 Draft.connectTimeoutMs
      fun a x => { x with connectTimeoutMs := some a } where
  mem := by simp [shape]
  get_put _ _ := rfl
  frame := by simp [shape, spares_field]

theorem slot_logging :
    Slot shape "logging" LogSettings.shape.decoder Draft.logging
      fun a x => { x with logging := some a } where
  mem := by simp [shape]
  get_put _ _ := rfl
  frame := by simp [shape, spares_field]

theorem lawful : shape.Lawful where
  names_nodup := by decide
  slotted := by
    simp only [Decoder.Shape.Slotted, shape, List.forall_mem_cons]
    exact ⟨⟨_, _, _, _, _, slot_daemonUrl, rfl⟩, ⟨_, _, _, _, _, slot_reconnectDelayMs, rfl⟩,
      ⟨_, _, _, _, _, slot_cacheTtlSecs, rfl⟩, ⟨_, _, _, _, _, slot_replayCapacity, rfl⟩,
      ⟨_, _, _, _, _, slot_connectTimeoutMs, rfl⟩, ⟨_, _, _, _, _, slot_logging, rfl⟩, by simp⟩
  unset := by
    simp only [shape, List.forall_mem_cons]
    exact ⟨rfl, rfl, rfl, rfl, rfl, rfl, by simp⟩

/-- The defaults as members. -/
def defaultMembers : Members :=
  [("cacheTtlSecs", .int 21600), ("connectTimeoutMs", .int 10000),
    ("daemonUrl", .str "http://127.0.0.1:8080"), ("logging", .obj LogSettings.defaultMembers),
    ("reconnectDelayMs", .int 5000), ("replayCapacity", .int 1000)]

theorem ascending_defaultMembers : defaultMembers.Ascending := by
  simp only [defaultMembers, Members.Ascending]
  decide

/-- The log settings of a document stand over the default ones. -/
theorem get?_merged_logging {ms : Members} (hms : (ms.map Prod.fst).Nodup)
    (hlogs : LogsInObject ms) :
    (mergeMembers defaultMembers ms).get? "logging"
      = some (.obj (mergeMembers LogSettings.defaultMembers (Setting.logMembers ms))) := by
  have hbelow : defaultMembers.get? "logging" = some (.obj LogSettings.defaultMembers) := rfl
  rw [get?_mergeMembers hms, hbelow, Setting.logMembers]
  cases hsaid : ms.get? "logging" with
  | none => rfl
  | some v =>
      cases hnull : v.isNull with
      | true =>
          cases v with
          | null => rfl
          | _ => cases hnull
      | false =>
          obtain ⟨members, rfl⟩ := hlogs v hsaid hnull
          rw [laidOver_some hnull]
          rfl

/-- The value of a setting in a draft. -/
def Draft.value? (x : Draft) : {β : Type} → Setting β → Option β
  | _, .daemonUrl => x.daemonUrl
  | _, .reconnectDelayMs => x.reconnectDelayMs
  | _, .cacheTtlSecs => x.cacheTtlSecs
  | _, .replayCapacity => x.replayCapacity
  | _, .connectTimeoutMs => x.connectTimeoutMs
  | _, .logLevel => x.logging.map (·.level)
  | _, .logFormat => x.logging.map (·.format)

/-- A draft stands for the settings that it has, and for defaults. -/
theorem of_finish {x : Draft} {s : Settings} (h : shape.finish x = .ok s) {β : Type}
    (l : Setting β) : l.of s = (x.value? l).getD (l.of {}) := by
  obtain rfl := Except.ok.inj h
  cases l with
  | logLevel => cases hlogs : x.logging <;> simp [Setting.of, Draft.value?, hlogs]
  | logFormat => cases hlogs : x.logging <;> simp [Setting.of, Draft.value?, hlogs]
  | _ => rfl

section

variable {ms : Members} (hms : (Value.obj ms).Ordered) (hlogs : LogsInObject ms)

include hms

theorem nodup_logMembers : ((Setting.logMembers ms).map Prod.fst).Nodup := by
  rw [Setting.logMembers]
  cases hsaid : ms.get? "logging" with
  | none => exact List.nodup_nil
  | some v =>
      cases v with
      | obj members => exact (hms.get? hsaid).1.nodup
      | _ => exact List.nodup_nil

include hlogs

/-- The draft of a document laid over the defaults has every setting. -/
theorem value?_of_merged {x : Draft}
    (hx : shape.ofMembers shape.empty (mergeMembers defaultMembers ms) = .ok x) {β : Type}
    (l : Setting β) :
    ∃ given, l.SaidAs ms given ∧ x.value? l = some (given.getD (l.of {})) := by
  have hkeys := hms.1.nodup
  have hlogging := slot_logging.under_get? lawful
    (ascending_mergeMembers ms ascending_defaultMembers).nodup hx
  rw [get?_merged_logging hkeys hlogs] at hlogging
  obtain ⟨logs, hdecoded, hget⟩ := Decoder.map_eq_ok_iff.1 hlogging
  obtain ⟨⟨level, hlevel, hlevel'⟩, ⟨format, hformat, hformat'⟩⟩ :=
    (LogSettings.ofValue_merged_iff (nodup_logMembers hms)).1 hdecoded
  cases l with
  | daemonUrl =>
      exact slot_daemonUrl.get_of_merged lawful ascending_defaultMembers hkeys rfl rfl rfl hx
  | reconnectDelayMs =>
      exact slot_reconnectDelayMs.get_of_merged lawful ascending_defaultMembers hkeys rfl rfl rfl hx
  | cacheTtlSecs =>
      exact slot_cacheTtlSecs.get_of_merged lawful ascending_defaultMembers hkeys rfl rfl rfl hx
  | replayCapacity =>
      exact slot_replayCapacity.get_of_merged lawful ascending_defaultMembers hkeys rfl rfl rfl hx
  | connectTimeoutMs =>
      exact slot_connectTimeoutMs.get_of_merged lawful ascending_defaultMembers hkeys rfl rfl rfl hx
  | logLevel =>
      refine ⟨level, hlevel, ?_⟩
      rw [Draft.value?, ← hget, Option.map_some, hlevel']
      rfl
  | logFormat =>
      refine ⟨format, hformat, ?_⟩
      rw [Draft.value?, ← hget, Option.map_some, hformat']
      rfl

/-- **Each setting by itself**: it is what the document says about it, or else its default. -/
theorem of_ofLayer {s : Settings} (h : ofLayer (.obj ms) = .ok s) {β : Type} (l : Setting β) :
    ∃ given, l.SaidAs ms given ∧ l.of s = given.getD (l.of {}) := by
  obtain ⟨x, hx, hfinish⟩ := bind_eq_ok_iff.1 h
  obtain ⟨given, hsaid, hvalue⟩ := value?_of_merged hms hlogs hx l
  exact ⟨given, hsaid, by rw [of_finish hfinish, hvalue, Option.getD_some]⟩

/-- **A document can be decoded** if what it says about each setting can. -/
theorem ofLayer_isOk (h : ∀ {β : Type} (l : Setting β), ∃ given, l.SaidAs ms given) :
    ∃ s, ofLayer (.obj ms) = .ok s := by
  have hkeys := hms.1.nodup
  obtain ⟨url, hurl⟩ := h .daemonUrl
  obtain ⟨delay, hdelay⟩ := h .reconnectDelayMs
  obtain ⟨ttl, httl⟩ := h .cacheTtlSecs
  obtain ⟨capacity, hcapacity⟩ := h .replayCapacity
  obtain ⟨timeout, htimeout⟩ := h .connectTimeoutMs
  obtain ⟨level, hlevel⟩ := h .logLevel
  obtain ⟨format, hformat⟩ := h .logFormat
  have hdecoded := (LogSettings.ofValue_merged_iff (nodup_logMembers hms)
    (s := ⟨level.getD "info", format.getD .compact⟩)).2
    ⟨⟨level, hlevel, rfl⟩, ⟨format, hformat, rfl⟩⟩
  have hlogging : LogSettings.shape.decoder.under
      ((mergeMembers defaultMembers ms).get? "logging")
        = .ok (some ⟨level.getD "info", format.getD .compact⟩) := by
    rw [get?_merged_logging hkeys hlogs]
    exact Decoder.map_eq_ok_iff.2 ⟨_, hdecoded, rfl⟩
  have hread : Readable shape.fields (mergeMembers defaultMembers ms) := by
    simp only [shape, readable_cons_iff, List.forall_mem_singleton]
    exact ⟨under_merged hkeys rfl rfl rfl hurl, under_merged hkeys rfl rfl rfl hdelay,
      under_merged hkeys rfl rfl rfl httl, under_merged hkeys rfl rfl rfl hcapacity,
      under_merged hkeys rfl rfl rfl htimeout, ⟨_, hlogging⟩, by simp [Readable]⟩
  obtain ⟨x, hx⟩ := lawful.ofMembers_isOk
    (ascending_mergeMembers ms ascending_defaultMembers).nodup hread
  exact ⟨_, bind_eq_ok_iff.2 ⟨x, hx, rfl⟩⟩

end

end Settings
end Messenger
