import Messenger.Endpoint
import Messenger.Proofs.Url.Parts

set_option autoImplicit false

/-! # The addresses of a daemon

The addresses of calls and of events lie below the base address as long as its text ends with its
path. If it does not, because it goes on with a query for example, what is appended to the text
becomes part of something else, and the daemon is asked at another path (`below_base_iff`). -/

namespace Messenger.Endpoint

open Json.Decoder (bind_eq_ok_iff)
open Url (IsName KeepsPath SameAuthority joined trimSlashes)

/-- The segments of the path of calls. -/
def rpcSegments : List (List Char) := ["api".toList, "v1".toList, "rpc".toList]

/-- The segments of the path of the event stream. -/
def eventsSegments : List (List Char) := ["api".toList, "v1".toList, "events".toList]

theorem rpcPath_eq : rpcPath = String.ofList (joined rpcSegments) := by decide

theorem eventsPath_eq : eventsPath = String.ofList (joined eventsSegments) := by decide

theorem isName_of_mem_rpcSegments : ∀ s ∈ rpcSegments, IsName s := by decide

theorem isName_of_mem_eventsSegments : ∀ s ∈ eventsSegments, IsName s := by decide

theorem parse_of_address {given text : String} {u : Url} (h : address given text = .ok u) :
    Url.parse text = .ok (.web u) := by
  unfold address at h
  split at h
  · cases h
  · cases h
  · next url hparse =>
    split at h
    · rw [hparse, Except.ok.inj h]
    · cases h

theorem addresses_of_parse {given : String} {e : Endpoint} (h : parse given = .ok e) :
    Url.parse (normalize given) = .ok (.web e.base)
      ∧ Url.parse (normalize given ++ rpcPath) = .ok (.web e.rpc)
      ∧ Url.parse (normalize given ++ eventsPath) = .ok (.web e.events) := by
  simp only [parse, bind_eq_ok_iff] at h
  obtain ⟨base, hbase, rpc, hrpc, events, hevents, heq⟩ := h
  cases heq
  exact ⟨parse_of_address hbase, parse_of_address hrpc, parse_of_address hevents⟩

/-- **Where the daemon at a base address is asked.** Calls and the event stream have the scheme, the
credentials, the host and the port of the base address. Each of the two has the path of the base
address, without the slashes at its end, in front of its own path if and only if the base address
keeps its path. -/
theorem below_base_iff {given : String} {e : Endpoint} (h : parse given = .ok e) :
    SameAuthority e.base e.rpc ∧ SameAuthority e.base e.events
      ∧ (e.rpc.pathChars = trimSlashes e.base.pathChars ++ rpcPath.toList
          ↔ KeepsPath (normalize given) e.base)
      ∧ (e.events.pathChars = trimSlashes e.base.pathChars ++ eventsPath.toList
          ↔ KeepsPath (normalize given) e.base) := by
  obtain ⟨hbase, hrpc, hevents⟩ := addresses_of_parse h
  rw [rpcPath_eq] at hrpc
  rw [eventsPath_eq] at hevents
  obtain ⟨hsame, hpath⟩ :=
    Url.parse_append isName_of_mem_rpcSegments (List.cons_ne_nil _ _) hbase hrpc
  obtain ⟨hsame', hpath'⟩ :=
    Url.parse_append isName_of_mem_eventsSegments (List.cons_ne_nil _ _) hbase hevents
  rw [rpcPath_eq, eventsPath_eq, String.toList_ofList, String.toList_ofList]
  exact ⟨hsame, hsame', hpath, hpath'⟩

/-- An address on this machine. -/
def thisMachine (path : List String) (query : Option String) : Url :=
  { scheme := "http", username := [], password := []
    host := .ipv6 ⟨[0, 0, 0, 0, 0, 0, 0, 1]⟩, port := none
    path := path.map String.toList, query := query.map String.toList, fragment := none }

/-- A daemon that is mounted at a path of this machine. -/
theorem below_base_iff_mounted :
    let base := thisMachine ["signal"] none
    let rpc := thisMachine ["signal", "api", "v1", "rpc"] none
    let events := thisMachine ["signal", "api", "v1", "events"] none
    parse "http://[::1]/signal/" = .ok ⟨base, rpc, events⟩
      ∧ SameAuthority base rpc ∧ KeepsPath "http://[::1]/signal" base
      ∧ events.pathChars = trimSlashes base.pathChars ++ eventsPath.toList := by
  intro base rpc events
  have h : parse "http://[::1]/signal/" = .ok ⟨base, rpc, events⟩ := by decide +kernel
  obtain ⟨hsame, -, hcalls, hevents⟩ := below_base_iff h
  have hkeeps := hcalls.1 (by decide)
  exact ⟨h, hsame, hkeeps, hevents.2 hkeeps⟩

/-- A query takes up what is appended: calls go to the path at which the daemon is mounted. -/
theorem calls_beside_api :
    let base := thisMachine ["signal"] (some "x")
    let rpc := thisMachine ["signal"] (some "x/api/v1/rpc")
    let events := thisMachine ["signal"] (some "x/api/v1/events")
    parse "http://[::1]/signal?x" = .ok ⟨base, rpc, events⟩
      ∧ rpc.pathChars ≠ trimSlashes base.pathChars ++ rpcPath.toList := by
  decide +kernel

end Messenger.Endpoint
