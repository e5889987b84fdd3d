import Messenger.Endpoint
import Messenger.Rpc.Error
import Messenger.Settings

set_option autoImplicit false

/-! # Failures of a gateway

Why a gateway cannot be made, or does not do what it is asked to. -/

namespace Messenger

/-- A failure of a gateway. -/
inductive GatewayError where
  | rpc (e : Rpc.Error)
  | endpoint (e : EndpointError)
  | settings (e : SettingsError)
  /-- A call succeeded with a result of the wrong shape. -/
  | decode (method : String) (fault : Json.Fault)
  | noRecipients
  /-- The daemon at a base address told no version. -/
  | daemonUnavailable (url : String)
  | disabled
deriving DecidableEq, Repr

namespace GatewayError

/-- The wording of a failure. What a network or a reader would add stays open. -/
def message : GatewayError → String
  | .rpc e => e.message
  | .endpoint e => e.message
  | .settings e => e.message
  | .decode method _ => "unexpected result from '" ++ method ++ "': "
  | .noRecipients => "no recipients or groups given"
  | .daemonUnavailable url => "could not obtain version from signal daemon at " ++ url
  | .disabled => "gateway is disabled"

/-- The code of a failure that the daemon reported. -/
def serverCode? : GatewayError → Option Int64
  | .rpc e => e.serverCode?
  | _ => none

end GatewayError
end Messenger
