import Messenger.Cache
import Messenger.Daemon
import Messenger.Directory
import Messenger.Event.Classify
import Messenger.Gateway.Error

set_option autoImplicit false

/-! # Directories of the daemon

How the groups and identities of an account are loaded. The daemon answers with a list, or with
`null` for none. A cache of groups also answers what the title of a group is. -/

namespace Messenger

open Json

/-- The list that a result is. -/
def itemsOf {α : Type} (method : String) (item : Value → Except Fault α) :
    Value → Except GatewayError (List α)
  | .null => .ok []
  | .arr items => (items.mapM item).mapError (.decode method)
  | _ => .error (.decode method .mismatched)

variable {δ : Type}

/-- Ask for a list that belongs to an account. -/
def Link.list {α : Type} (d : Daemon δ) (method : String) (item : Value → Except Fault α)
    (account : String) (l : Link δ) : Except GatewayError (List α) × List LogRecord × Link δ :=
  let (result, log, l) := l.call d method (.obj [("account", .str account)]) none
  ((result.mapError .rpc).bind (itemsOf method item), log, l)

/-- The method that lists groups. -/
def listGroups : String := "listGroups"

/-- The method that lists identities. -/
def listIdentities : String := "listIdentities"

/-- The groups that a result lists. -/
def GroupDirectory.ofResult (v : Value) : Except GatewayError GroupDirectory :=
  (itemsOf listGroups Group.ofJson v).map GroupDirectory.ofList

/-- Load the groups of an account. -/
def GroupDirectory.load (d : Daemon δ) : Cache.Loader GatewayError (Link δ) GroupDirectory :=
  fun account l =>
    let (groups, log, l) := l.list d listGroups Group.ofJson account
    (groups.map GroupDirectory.ofList, log, l)

/-- Load the identities of an account. -/
def IdentityDirectory.load (d : Daemon δ) :
    Cache.Loader GatewayError (Link δ) IdentityDirectory :=
  fun account l =>
    let (identities, log, l) := l.list d listIdentities Identity.ofJson account
    (identities.map IdentityDirectory.ofList, log, l)

/-- What a directory of groups says of the title of a group. -/
def GroupDirectory.title (groups : GroupDirectory) (groupId : String) : Event.Title :=
  match (groups.get? groupId).bind Group.name with
  | some title => .known title
  | none => .unknown

/-- Find titles in a cache of groups. -/
def Cache.titles {σ : Type} (load : Cache.Loader GatewayError σ GroupDirectory) (now : Nat) :
    Event.Resolver (Cache GroupDirectory × σ) :=
  some fun account groupId (cache, s) =>
    let (groups, log, cache, s) := cache.get load now account s
    let title := match groups with
      | .ok groups => groups.title groupId
      | .error _ => .failed
    (title, log, cache, s)

end Messenger
