import Messenger.Group
import Messenger.Identity
import Messenger.Outbound
import Messenger.Proofs.Codec.Message
import Messenger.Settings

set_option autoImplicit false

/-! # Records written and read

Groups, identities, quotes and settings are written member by member, and how they are written is
said apart from how they are read. For each it is enough that the members go into their fields one
after another; the rest follows for all structures alike. With messages this makes everything that
is both written and read survive the way through a value or a text (`decoded_as_written`). -/

namespace Messenger

open Json Decoder
open Decoder.Shape (ofMembers_field)

/-! ## Groups -/

namespace Member

theorem orderless : shape.Orderless where
  sets := by simp [shape, sets_field]
  apart := by simp [shape, apart_field]

@[simp] theorem steady : shape.decoder.Steady := orderless.steady (by simp [shape])

theorem ofValue_toJson (m : Member) : shape.ofValue m.toJson = .ok m :=
  bind_eq_ok_iff.2 ⟨_,
    ofMembers_field rfl rfl (option_ofValue_ofOption m.number) <|
    ofMembers_field rfl rfl (option_ofValue_ofOption m.uuid) rfl, rfl⟩

@[simp] theorem legible_toJson (m : Member) (depth : Nat) : m.toJson.Legible (depth + 1) := by
  simp [toJson, Value.Legible, Value.LegibleMembers]

@[simp] theorem distinct_toJson (m : Member) : m.toJson.Distinct := by
  simp [toJson, Value.Distinct, Value.DistinctMembers]

end Member

namespace Group

theorem orderless : shape.Orderless where
  sets := by simp [shape, sets_field]
  apart := by simp [shape, apart_field]

theorem ofValue_toJson (g : Group) : shape.ofValue g.toJson = .ok g :=
  bind_eq_ok_iff.2 ⟨_,
    ofMembers_field rfl rfl (string_ofValue_str g.id) <|
    ofMembers_field rfl rfl (option_ofValue_ofOption g.name) <|
    ofMembers_field rfl rfl (option_ofValue_ofOption g.description) <|
    ofMembers_field rfl rfl (int64_ofValue_ofInt64 g.expirationTime) <|
    ofMembers_field rfl rfl (option_ofValue_ofOption g.permissions.addMember) <|
    ofMembers_field rfl rfl (option_ofValue_ofOption g.permissions.editDetails) <|
    ofMembers_field rfl rfl (option_ofValue_ofOption g.permissions.sendMessage) <|
    ofMembers_field rfl rfl (list_ofValue_map Member.ofValue_toJson g.members) rfl, rfl⟩

theorem legible_toJson (g : Group) (depth : Nat) : g.toJson.Legible (depth + 3) := by
  simp [toJson, Value.Legible, Value.LegibleMembers, Value.legibleItems_iff]

theorem distinct_toJson (g : Group) : g.toJson.Distinct := by
  simp [toJson, Value.Distinct, Value.DistinctMembers, Value.distinctItems_iff]

theorem roundTrips : RoundTrips toJson shape.decoder :=
  .of_value (orderless.steady (by simp [shape])) ofValue_toJson (legible_toJson · _)
    distinct_toJson

end Group

/-! ## Identities -/

namespace Identity

theorem orderless : shape.Orderless where
  sets := by simp [shape, sets_field]
  apart := by simp [shape, apart_field]

theorem ofValue_toJson (i : Identity) : shape.ofValue i.toJson = .ok i :=
  bind_eq_ok_iff.2 ⟨_,
    ofMembers_field rfl rfl (option_ofValue_ofOption i.number) <|
    ofMembers_field rfl rfl (option_ofValue_ofOption i.uuid) <|
    ofMembers_field rfl rfl (option_ofValue_ofOption i.fingerprint) <|
    ofMembers_field rfl rfl (option_ofValue_ofOption i.safetyNumber) <|
    ofMembers_field rfl rfl (option_ofValue_ofOption i.scannableSafetyNumber) <|
    ofMembers_field rfl rfl (option_ofValue_ofOption i.trustLevel) <|
    ofMembers_field rfl rfl (int64_ofValue_ofInt64 i.addedTimestamp) rfl, rfl⟩

theorem legible_toJson (i : Identity) (depth : Nat) : i.toJson.Legible (depth + 1) := by
  simp [toJson, Value.Legible, Value.LegibleMembers]

theorem distinct_toJson (i : Identity) : i.toJson.Distinct := by
  simp [toJson, Value.Distinct, Value.DistinctMembers]

theorem roundTrips : RoundTrips toJson shape.decoder :=
  .of_value (orderless.steady (by simp [shape])) ofValue_toJson (legible_toJson · _)
    distinct_toJson

end Identity

/-! ## Quotes -/

namespace Quote

theorem orderless : shape.Orderless where
  sets := by simp [shape, sets_field]
  apart := by simp [shape, apart_field]

theorem ofValue_toJson (q : Quote) : shape.ofValue q.toJson = .ok q := by
  obtain ⟨timestamp, author, message, mention⟩ := q
  cases mention with
  | none =>
      exact bind_eq_ok_iff.2 ⟨_,
        ofMembers_field rfl rfl (int64_ofValue_ofInt64 timestamp) <|
        ofMembers_field rfl rfl (string_ofValue_str author) <|
        ofMembers_field rfl rfl (string_ofValue_str message) rfl, rfl⟩
  | some mention =>
      exact bind_eq_ok_iff.2 ⟨_,
        ofMembers_field rfl rfl (int64_ofValue_ofInt64 timestamp) <|
        ofMembers_field rfl rfl (string_ofValue_str author) <|
        ofMembers_field rfl rfl (string_ofValue_str message) <|
        ofMembers_field rfl rfl (option_ofValue_ofOption (some mention)) rfl, rfl⟩

theorem legible_toJson (q : Quote) (depth : Nat) : q.toJson.Legible (depth + 1) := by
  cases hmention : q.mention <;> simp [toJson, hmention, Value.Legible, Value.LegibleMembers]

theorem distinct_toJson (q : Quote) : q.toJson.Distinct := by
  cases hmention : q.mention <;> simp [toJson, hmention, Value.Distinct, Value.DistinctMembers]

theorem roundTrips : RoundTrips toJson shape.decoder :=
  .of_value (orderless.steady (by simp [shape])) ofValue_toJson (legible_toJson · _)
    distinct_toJson

end Quote

/-! ## Settings -/

namespace LogSettings

theorem orderless : shape.Orderless where
  sets := by simp [shape, sets_field]
  apart := by simp [shape, apart_field]

@[simp] theorem steady : shape.decoder.Steady := orderless.steady (by simp [shape])

theorem ofValue_name (f : LogFormat) : (name LogFormat.names).ofValue (.str f.name) = .ok f := by
  cases f <;> rfl

theorem ofValue_toJson (s : LogSettings) : shape.ofValue s.toJson = .ok s :=
  bind_eq_ok_iff.2 ⟨_,
    ofMembers_field rfl rfl (string_ofValue_str s.level) <|
    ofMembers_field rfl rfl (ofValue_name s.format) rfl, rfl⟩

@[simp] theorem legible_toJson (s : LogSettings) (depth : Nat) : s.toJson.Legible (depth + 1) := by
  simp [toJson, Value.Legible, Value.LegibleMembers]

@[simp] theorem distinct_toJson (s : LogSettings) : s.toJson.Distinct := by
  simp [toJson, Value.Distinct, Value.DistinctMembers]

end LogSettings

namespace Settings

theorem orderless : shape.Orderless where
  sets := by simp [shape, sets_field]
  apart := by simp [shape, apart_field]

theorem ofValue_toJson (s : Settings) : shape.ofValue s.toJson = .ok s :=
  bind_eq_ok_iff.2 ⟨_,
    ofMembers_field rfl rfl (string_ofValue_str s.daemonUrl) <|
    ofMembers_field rfl rfl (uint64_ofValue_ofUInt64 s.reconnectDelayMs) <|
    ofMembers_field rfl rfl (uint64_ofValue_ofUInt64 s.cacheTtlSecs) <|
    ofMembers_field rfl rfl (uint64_ofValue_ofUInt64 s.replayCapacity) <|
    ofMembers_field rfl rfl (uint64_ofValue_ofUInt64 s.connectTimeoutMs) <|
    ofMembers_field rfl rfl (LogSettings.ofValue_toJson s.logging) rfl, rfl⟩

theorem legible_toJson (s : Settings) (depth : Nat) : s.toJson.Legible (depth + 2) := by
  simp [toJson, Value.Legible, Value.LegibleMembers]

theorem distinct_toJson (s : Settings) : s.toJson.Distinct := by
  simp [toJson, Value.Distinct, Value.DistinctMembers]

theorem roundTrips : RoundTrips toJson shape.decoder :=
  .of_value (orderless.steady (by simp [shape])) ofValue_toJson (legible_toJson · _)
    distinct_toJson

end Settings

/-! ## Everything that is written and read -/

/-- **What is written decodes as what it was**, whatever its texts and numbers, through a value and
through compact text, with the members in the order of writing or sorted; so decoding, writing and
decoding again comes to decoding once. -/
theorem decoded_as_written :
    RoundTrips Message.toJson Message.decoder
      ∧ RoundTrips Group.toJson Group.shape.decoder
      ∧ RoundTrips Identity.toJson Identity.shape.decoder
      ∧ RoundTrips Quote.toJson Quote.shape.decoder
      ∧ RoundTrips Settings.toJson Settings.shape.decoder :=
  ⟨Message.roundTrips, Group.roundTrips, Identity.roundTrips, Quote.roundTrips,
    Settings.roundTrips⟩

end Messenger
