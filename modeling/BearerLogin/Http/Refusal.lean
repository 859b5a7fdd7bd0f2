import BearerLogin.Exchange
import BearerLogin.Http.Message

/-! Why the service refuses a request.  The peer is told a code and a message; both are the same for
every login that fails for a reason of its own. -/

namespace BearerLogin.Http

/-- Why a request is refused. -/
inductive Refusal where
  | badRequest (detail : String)
  | authenticationFailed (detail : String)
  | unauthorized (detail : String)
  | forbidden (detail : String)
  | notFound (detail : String)
  | internal (detail : String)
  deriving DecidableEq, Repr

namespace Refusal

/-- The wording of a refusal in the log. -/
def message : Refusal → String
  | badRequest detail => "Invalid request: " ++ detail
  | authenticationFailed detail => detail
  | unauthorized detail => "Unauthorized: " ++ detail
  | forbidden detail => "Forbidden: " ++ detail
  | notFound detail => "Not found: " ++ detail
  | internal detail => "Internal error: " ++ detail

/-- The status of a refusal. -/
def status : Refusal → Nat
  | badRequest _ => 400
  | authenticationFailed _ => 401
  | unauthorized _ => 401
  | forbidden _ => 403
  | notFound _ => 404
  | internal _ => 500

/-- The code of a refusal. -/
def code : Refusal → String
  | badRequest _ => "BAD_REQUEST"
  | authenticationFailed _ => "AUTHENTICATION_FAILED"
  | unauthorized _ => "UNAUTHORIZED"
  | forbidden _ => "FORBIDDEN"
  | notFound _ => "NOT_FOUND"
  | internal _ => "INTERNAL_ERROR"

/-- What the peer is told. -/
def detail : Refusal → String
  | badRequest text | authenticationFailed text | unauthorized text | forbidden text
  | notFound text | internal text => text

/-- The response to a refused request. -/
def response (refusal : Refusal) : Outgoing where
  status := refusal.status
  body := .json (.obj [("error", .str refusal.detail), ("code", .str refusal.code)])

/-- The refusal for an exchange that does not end. -/
def ofExchange : ExchangeError → Refusal
  | .invalidResponse detail => authenticationFailed detail
  | .authentication failure => authenticationFailed failure.message
  | .alreadyComplete => internal "exchange already complete"

/-- The refusal for a message that is not in Base64. -/
def ofBase64 (fault : Base64.Fault) : Refusal :=
  badRequest ("Invalid base64 encoding: " ++ fault.message)

end Refusal

end BearerLogin.Http
