import VaultUsage.BaseUrl
import VaultUsage.Json.Error

/-!
# Service errors

A status other than 200 is no error: what it means is decided where the answer is used. Errors are what
leaves nothing to decide on.
-/

namespace VaultUsage

inductive ServiceError where
  | transport (detail : String)
  /-- The reply is no JSON text of the right shape. -/
  | decode (url : Url) (cause : Json.Error)
  | invalidUrl (given : String) (fault : BaseUrl.Fault)
  | invalidToken
  deriving DecidableEq, Repr

namespace ServiceError

def message : ServiceError → String
  | .transport detail => "transport error: " ++ detail
  | .decode url cause => "could not decode response from " ++ url.render ++ ": " ++ cause.message
  | .invalidUrl given fault => "invalid Vaultdoor URL: " ++ given ++ ": " ++ fault.message
  | .invalidToken => "HTTP client error: invalid token: failed to parse header value"

def isTransport : ServiceError → Bool
  | .transport _ => true
  | _ => false

def chain (e : ServiceError) : String :=
  match e with
  | .transport detail => e.message ++ ": " ++ detail
  | .decode _ cause => e.message ++ ": " ++ cause.message
  | _ => e.message

end ServiceError

end VaultUsage
