import BearerLogin.Instant
import BearerLogin.Json.Value

/-! An access token after validation: whom it was issued for, how long it holds, and the claims it
was read from. -/

namespace BearerLogin

/-- A validated access token. -/
structure Token where
  principalName : String
  expiresAt : Instant
  issuedAt : Option Instant := none
  scopes : List String := []
  payload : Json := .null
  deriving Repr

namespace Token

/-- Whether the token no longer holds at an instant. -/
def expired (token : Token) (now : Instant) : Bool :=
  token.expiresAt.before now

end Token

end BearerLogin
