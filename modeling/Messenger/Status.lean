set_option autoImplicit false

/-! # Status codes

An answer over HTTP carries a number that says how the request fared. -/

namespace Messenger

/-- Whether a status says that the request succeeded. -/
def isSuccessStatus (status : Nat) : Bool := 200 ≤ status && status ≤ 299

end Messenger
