import Messenger.Proofs.Settings.Layers
import Messenger.Proofs.Text.Utf8

set_option autoImplicit false

/-! # Loading settings

A settings file is missing, or a document, or of no use. With a document that is an object, loading
fails if and only if the document says something that does not decode, or the address or the replay
capacity that comes of document and environment is refused; otherwise every setting is what the
layers make of it (`Cli.Invocation.settings_by_layers`). So a variable of the environment has a say
in its own setting only. -/

namespace Messenger

open Json

/-- The document in a file. A file that is missing says nothing. -/
inductive File.Says : File → Value → Prop where
  | absent : Says .absent (.obj [])
  | bytes {bs : List UInt8} {text : String} {v : Value} (htext : Text.ofUtf8? bs = some text)
      (hjson : Value.parse text = .ok v) : Says (.bytes bs) v

/-- A file that cannot be read, is no text or is no JSON. -/
inductive File.Unusable : File → Prop where
  | unreadable : Unusable .unreadable
  | noText {bs : List UInt8} (htext : Text.ofUtf8? bs = none) : Unusable (.bytes bs)
  | noJson {bs : List UInt8} {text : String} {fault : Fault} (htext : Text.ofUtf8? bs = some text)
      (hjson : Value.parse text = .error fault) : Unusable (.bytes bs)

theorem File.says_or_unusable (f : File) : (∃ v, f.Says v) ∨ f.Unusable := by
  cases f with
  | absent => exact .inl ⟨_, .absent⟩
  | unreadable => exact .inr .unreadable
  | bytes bs =>
      cases htext : Text.ofUtf8? bs with
      | none => exact .inr (.noText htext)
      | some text =>
          cases hjson : Value.parse text with
          | error fault => exact .inr (.noJson htext hjson)
          | ok v => exact .inl ⟨v, .bytes htext hjson⟩

theorem File.Says.unique {f : File} {v v' : Value} (h : f.Says v) (h' : f.Says v') : v = v' := by
  cases h with
  | absent =>
      cases h'
      rfl
  | bytes htext hjson =>
      cases h' with
      | bytes htext' hjson' =>
          obtain rfl := Option.some.inj (htext.symm.trans htext')
          exact Except.ok.inj (hjson.symm.trans hjson')

theorem File.Says.not_unusable {f : File} {v : Value} (h : f.Says v) : ¬ f.Unusable := by
  intro hunusable
  cases h with
  | absent => cases hunusable
  | bytes htext hjson =>
      cases hunusable with
      | noText htext' =>
          rw [htext] at htext'
          cases htext'
      | noJson htext' hjson' =>
          obtain rfl := Option.some.inj (htext.symm.trans htext')
          rw [hjson] at hjson'
          cases hjson'

theorem File.Says.ordered {f : File} {v : Value} (h : f.Says v) : v.Ordered := by
  cases h with
  | absent => exact ⟨List.Pairwise.nil, trivial⟩
  | bytes _ hjson =>
      obtain ⟨w, -, rfl⟩ := Decoder.map_eq_ok_iff.1 hjson
      exact Value.ordered_sorted w

/-- A settings document: an object whose log settings, if any, are an object, too. -/
def IsDocument (v : Value) : Prop := ∃ ms, v = .obj ms ∧ LogsInObject ms

instance : (v : Value) → Decidable (IsDocument v)
  | .obj ms => decidable_of_iff (LogsInObject ms)
    ⟨fun h => ⟨ms, rfl, h⟩, fun ⟨_, heq, h⟩ => Value.obj.inj heq ▸ h⟩
  | .null | .bool _ | .int _ | .float _ | .str _ | .arr _ => isFalse fun ⟨_, heq, _⟩ => nomatch heq

namespace Settings

theorem ofFile_of_document {file : File} {v : Value} (h : file.Says v) :
    ofFile file = (ofLayer v).mapError .undecodable := by
  cases h with
  | absent => rfl
  | bytes htext hjson =>
      rw [ofFile, htext]
      show ofFileText _ = _
      rw [ofFileText, hjson]
      rfl

theorem ofFile_of_unusable {file : File} (h : file.Unusable) : ∃ e, ofFile file = .error e := by
  cases h with
  | unreadable => exact ⟨_, rfl⟩
  | noText htext => exact ⟨.unreadable, by rw [ofFile, htext]⟩
  | @noJson bs text fault htext hjson =>
      refine ⟨.undecodable fault, ?_⟩
      rw [ofFile, htext]
      show ofFileText _ = _
      rw [ofFileText, hjson]
      rfl

/-- What a document does not let be loaded: something in it does not decode, or together with the
environment it comes to a blank address or no replay capacity. -/
inductive Refused (env : Environment) (ms : Members) : Prop where
  | faulty {β : Type} {l : Setting β} (h : l.Faulty ms) : Refused env ms
  | blankDaemonUrl {url : String} (hloaded : Setting.daemonUrl.Loaded env ms url)
      (hblank : Text.isBlankText url = true) : Refused env ms
  | zeroReplayCapacity (hloaded : Setting.replayCapacity.Loaded env ms 0) : Refused env ms

theorem load_of_error {file : File} {env : Environment} {e : SettingsError}
    (h : ofFile file = .error e) : (load file env).2 = .error e := by
  rw [load, h]

theorem load_of_ok {file : File} {env : Environment} {s : Settings} (h : ofFile file = .ok s) :
    (load file env).2 =
      (s.withEnvironment env).2.validate.map fun _ => (s.withEnvironment env).2 := by
  rw [load, h]

theorem validate_eq_error_iff {s : Settings} :
    (∃ e, s.validate = .error e) ↔ Text.isBlankText s.daemonUrl = true ∨ s.replayCapacity = 0 := by
  unfold validate
  split
  · rename_i h
    exact ⟨fun _ => .inl h, fun _ => ⟨_, rfl⟩⟩
  · rename_i h
    split
    · rename_i h'
      exact ⟨fun _ => .inr h', fun _ => ⟨_, rfl⟩⟩
    · rename_i h'
      constructor
      · rintro ⟨_, he⟩
        cases he
      · rintro (hblank | hzero)
        · exact absurd hblank h
        · exact absurd hzero h'

section

variable {ms : Members} (hms : (Value.obj ms).Ordered) (hlogs : LogsInObject ms)
  (env : Environment)

include hms hlogs

/-- The environment over a document. -/
theorem loaded_withEnvironment {s : Settings} (h : ofLayer (.obj ms) = .ok s) {β : Type}
    (l : Setting β) : l.Loaded env ms (l.of (s.withEnvironment env).2) := by
  obtain ⟨given, hsaid, hof⟩ := of_ofLayer hms hlogs h l
  rcases overlaid_withEnvironment l env s with hgiven | ⟨hnot, hsame⟩
  · exact .environment hgiven
  · rw [hsame, hof]
    cases given with
    | none => exact .default hnot ((Decoder.optional_eq_none_iff _ _).1 hsaid)
    | some b =>
        obtain ⟨v, hv, hnull, hdecoded⟩ := (Decoder.optional_eq_some_iff _ _ _).1 hsaid
        exact .document hnot hv hnull hdecoded

theorem ofLayer_eq_error_iff :
    (∃ fault, ofLayer (.obj ms) = .error fault) ↔ ∃ (β : Type) (l : Setting β), l.Faulty ms := by
  constructor
  · rintro ⟨fault, herror⟩
    by_contra hnot
    push Not at hnot
    obtain ⟨s, hs⟩ := ofLayer_isOk hms hlogs fun {β} l => Setting.exists_saidAs (hnot β l)
    rw [hs] at herror
    cases herror
  · rintro ⟨β, l, hfaulty⟩
    cases hresult : ofLayer (.obj ms) with
    | error fault => exact ⟨fault, rfl⟩
    | ok s =>
        obtain ⟨given, hsaid, -⟩ := of_ofLayer hms hlogs hresult l
        exact absurd hfaulty hsaid.not_faulty

/-- **Loading a document** fails if and only if it is refused; otherwise every setting is what the
layers say. -/
theorem load_document {file : File} (hfile : file.Says (.obj ms)) :
    ((∃ e, (load file env).2 = .error e) ↔ Refused env ms)
      ∧ ∀ s, (load file env).2 = .ok s →
          ∀ {β : Type} (l : Setting β), l.Loaded env ms (l.of s) := by
  have hof := ofFile_of_document hfile
  cases hlayer : ofLayer (.obj ms) with
  | error fault =>
      rw [hlayer] at hof
      have hload : (load file env).2 = .error (.undecodable fault) := load_of_error hof
      obtain ⟨β, l, hfaulty⟩ := (ofLayer_eq_error_iff hms hlogs).1 ⟨fault, hlayer⟩
      rw [hload]
      exact ⟨⟨fun _ => .faulty hfaulty, fun _ => ⟨_, rfl⟩⟩, nofun⟩
  | ok below =>
      rw [hlayer] at hof
      set s := (below.withEnvironment env).2 with hs
      have hload : (load file env).2 = s.validate.map fun _ => s := load_of_ok hof
      have hloaded {β : Type} (l : Setting β) : l.Loaded env ms (l.of s) :=
        loaded_withEnvironment hms hlogs env hlayer l
      have herror : (∃ e, (load file env).2 = .error e)
          ↔ Text.isBlankText s.daemonUrl = true ∨ s.replayCapacity = 0 := by
        rw [hload, ← validate_eq_error_iff]
        simp only [Decoder.map_eq_error_iff]
      refine ⟨herror.trans ⟨?_, ?_⟩, ?_⟩
      · rintro (hblank | hzero)
        · exact .blankDaemonUrl (hloaded .daemonUrl) hblank
        · exact .zeroReplayCapacity (hzero ▸ hloaded .replayCapacity)
      · intro hrefused
        cases hrefused with
        | @faulty β l hfaulty =>
            obtain ⟨fault, hfault⟩ := (ofLayer_eq_error_iff hms hlogs).2 ⟨β, l, hfaulty⟩
            rw [hlayer] at hfault
            cases hfault
        | blankDaemonUrl hurl hblank =>
            have hsame : _ = s.daemonUrl := hurl.unique (hloaded .daemonUrl)
            exact .inl (hsame ▸ hblank)
        | zeroReplayCapacity hzero => exact .inr ((hloaded .replayCapacity).unique hzero)
      · intro s' hs' β l
        rw [hload] at hs'
        obtain ⟨_, -, rfl⟩ := Decoder.map_eq_ok_iff.1 hs'
        exact hloaded l

end

end Settings

/-! ## Options -/

namespace Cli.Invocation

variable (i : Invocation) (s : Surroundings)

/-- The file that an invocation reads. -/
def settingsFile : File := s.file (i.settingsPath s.environment)

theorem loadSettings_eq_ok_iff {settings : Settings} :
    i.loadSettings s = .ok settings
      ↔ ∃ loaded, (Settings.load (i.settingsFile s) s.environment).2 = .ok loaded
          ∧ settings = { loaded with
              daemonUrl := i.url.getD loaded.daemonUrl
              logging :=
                { loaded.logging with level := i.logLevel.getD loaded.logging.level } } := by
  simp only [loadSettings, Decoder.bind_eq_ok_iff, Decoder.mapError_eq_ok_iff, settingsFile]
  exact exists_congr fun loaded => and_congr_right fun _ =>
    ⟨fun h => (Except.ok.inj h).symm, fun h => congrArg _ h.symm⟩

theorem loadSettings_eq_error_iff :
    (∃ e, i.loadSettings s = .error e)
      ↔ ∃ e, (Settings.load (i.settingsFile s) s.environment).2 = .error e := by
  rw [loadSettings, settingsFile]
  cases (Settings.load (s.file (i.settingsPath s.environment)) s.environment).2 with
  | error e => exact ⟨fun _ => ⟨e, rfl⟩, fun _ => ⟨_, rfl⟩⟩
  | ok loaded =>
      constructor
      · rintro ⟨_, h⟩
        cases h
      · rintro ⟨_, h⟩
        cases h

/-- With options over what is loaded, every setting is what the layers say. -/
theorem holds_of_loadSettings {ms : Members} (hms : LogsInObject ms)
    (hfile : (i.settingsFile s).Says (.obj ms)) {settings : Settings}
    (h : i.loadSettings s = .ok settings) {β : Type} (l : Setting β) :
    l.Holds i s.environment ms (l.of settings) := by
  obtain ⟨loaded, hload, rfl⟩ := (loadSettings_eq_ok_iff i s).1 h
  have hloaded := (Settings.load_document hfile.ordered hms s.environment hfile).2 loaded hload l
  cases l with
  | daemonUrl =>
      cases hurl : i.url with
      | none => exact .loaded hurl hloaded
      | some url => exact .option hurl
  | logLevel =>
      cases hlevel : i.logLevel with
      | none => exact .loaded hlevel hloaded
      | some level => exact .option hlevel
  | _ => exact .loaded rfl hloaded

/-- **Settings by layers.** Let the settings file be of no use or a settings document. Loading fails
if and only if the file is of no use, or its document is refused with the environment laid over it,
whatever the options. If it does not fail, every setting is what the option for it says, or else its
variable, or else the document, or else the default.

So a setting stays what it is if the environment changes, as long as its own variable and the file
that is read stay. -/
theorem settings_by_layers (hfile : ∀ v, (i.settingsFile s).Says v → IsDocument v) :
    ((∃ e, i.loadSettings s = .error e)
        ↔ (i.settingsFile s).Unusable
          ∨ ∃ ms, (i.settingsFile s).Says (.obj ms) ∧ Settings.Refused s.environment ms)
      ∧ ∀ settings, i.loadSettings s = .ok settings →
        (∃ ms, (i.settingsFile s).Says (.obj ms)
          ∧ ∀ {β : Type} (l : Setting β), l.Holds i s.environment ms (l.of settings))
        ∧ ∀ s' settings' name, i.settingsFile s' = i.settingsFile s →
          (∀ other, other ≠ name → s'.environment other = s.environment other) →
          i.loadSettings s' = .ok settings' →
          ∀ {β : Type} (l : Setting β), l.environmentName ≠ some name →
            l.of settings' = l.of settings := by
  rcases (i.settingsFile s).says_or_unusable with ⟨v, hwritten⟩ | hunusable
  · obtain ⟨ms, rfl, hlogs⟩ := hfile v hwritten
    refine ⟨?_, fun settings hok => ⟨?_, ?_⟩⟩
    · rw [loadSettings_eq_error_iff,
        (Settings.load_document hwritten.ordered hlogs s.environment hwritten).1]
      constructor
      · intro hrefused
        exact .inr ⟨ms, hwritten, hrefused⟩
      · rintro (hunusable | ⟨ms', hwritten', hrefused⟩)
        · exact absurd hunusable hwritten.not_unusable
        · obtain rfl := Value.obj.inj (hwritten.unique hwritten')
          exact hrefused
    · exact ⟨ms, hwritten, holds_of_loadSettings i s hlogs hwritten hok⟩
    · intro s' settings' name hsame henv hok' β l hname
      have hholds' := holds_of_loadSettings i s' hlogs (hsame ▸ hwritten) hok' l
      have hholds := holds_of_loadSettings i s hlogs hwritten hok l
      refine (hholds'.congr fun own hown => ?_).unique hholds
      refine (henv own fun heq => ?_).symm
      exact hname (heq ▸ hown)
  · have herror : ∃ e, i.loadSettings s = .error e := by
      obtain ⟨e, he⟩ := Settings.ofFile_of_unusable hunusable
      exact (loadSettings_eq_error_iff i s).2 ⟨e, Settings.load_of_error he⟩
    refine ⟨⟨fun _ => .inl hunusable, fun _ => herror⟩, fun settings hok => ?_⟩
    obtain ⟨e, he⟩ := herror
    rw [he] at hok
    cases hok

/-- The address comes from an option, the idle time from the environment and the capacity from the
document. -/
theorem settings_by_layers_from_each :
    let i : Invocation := ⟨some "http://[::1]", none, some "s", .version⟩
    let text := "\x7b\"cacheTtlSecs\":7,\"replayCapacity\":5,\"daemonUrl\":\"a\"\x7d"
    let env : Environment := fun name =>
      if name = "SIGNAL_GATEWAY_CACHE_TTL_SECS" then some " +09" else none
    let s : Surroundings := ⟨env, fun _ => .bytes (Text.toUtf8 text), 0⟩
    (∀ v, (i.settingsFile s).Says v → IsDocument v)
      ∧ ∃ settings ms, i.loadSettings s = .ok settings ∧ (i.settingsFile s).Says (.obj ms)
        ∧ settings.daemonUrl = "http://[::1]" ∧ settings.cacheTtlSecs = 9
        ∧ settings.replayCapacity = 5
        ∧ Setting.cacheTtlSecs.Holds i env ms settings.cacheTtlSecs := by
  intro i text env s
  have hjson : ∀ v ∈ (Value.parse text).toOption, IsDocument v := by decide +kernel
  have htext : Text.ofUtf8? (Text.toUtf8 text) = some text := Text.ofUtf8?_toUtf8 text
  have hload : i.loadSettings s = .ok
      { daemonUrl := "http://[::1]"
        cacheTtlSecs := 9
        replayCapacity := 5 } := by
    decide +kernel
  have hdocument : ∀ v, (i.settingsFile s).Says v → IsDocument v := by
    intro v hwritten
    change File.Says (.bytes (Text.toUtf8 text)) v at hwritten
    cases hwritten with
    | bytes htext' hparse =>
        obtain rfl := Option.some.inj (htext.symm.trans htext')
        exact hjson v (by rw [hparse]; rfl)
  obtain ⟨-, hlayers⟩ := settings_by_layers i s hdocument
  obtain ⟨⟨ms, hwritten, hholds⟩, -⟩ := hlayers _ hload
  exact ⟨hdocument, _, ms, hload, hwritten, rfl, rfl, rfl, hholds .cacheTtlSecs⟩

end Cli.Invocation
end Messenger
