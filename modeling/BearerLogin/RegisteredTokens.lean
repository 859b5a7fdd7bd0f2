import BearerLogin.Login
import BearerLogin.TokenError

/-! Access tokens that are accepted because they were registered, each for a subject and until an
instant. -/

namespace BearerLogin

/-- What is known of a registered token. -/
structure Registration where
  subject : String
  expiresAt : Instant
  scopes : List String := []
  deriving DecidableEq, Repr

/-- The registered tokens. -/
structure RegisteredTokens where
  entries : List (String × Registration) := []
  deriving DecidableEq, Repr

namespace RegisteredTokens

/-- How these tokens are named as a validator. -/
def validatorName : String := "static token validator"

/-- Registers a token, in place of what was known of it. -/
def register (tokens : RegisteredTokens) (token : String) (registration : Registration) :
    RegisteredTokens :=
  ⟨(token, registration) :: tokens.entries.filter (·.1 ≠ token)⟩

/-- What is known of a token. -/
def get? (tokens : RegisteredTokens) (token : String) : Option Registration :=
  (tokens.entries.find? (·.1 == token)).map (·.2)

/-- Forgets a token, and tells whether it was known. -/
def revoke (tokens : RegisteredTokens) (token : String) : Bool × RegisteredTokens :=
  ((tokens.get? token).isSome, ⟨tokens.entries.filter (·.1 ≠ token)⟩)

/-- The time for which a token is registered when nothing else is said, in seconds. -/
def defaultLifetime : Int := 3600

/-- Registers a token for a subject from an instant on. -/
def withToken (tokens : RegisteredTokens) (now : Instant) (token subject : String) :
    RegisteredTokens :=
  tokens.register token ⟨subject, now.plusSeconds defaultLifetime, []⟩

/-- The validated token of a registration. -/
def Registration.toToken (registration : Registration) : Token where
  principalName := registration.subject
  expiresAt := registration.expiresAt
  scopes := registration.scopes
  payload := .obj [("sub", .str registration.subject)]

/-- Validates a token. -/
def validate (tokens : RegisteredTokens) (now : Instant) (token : String) :
    Except AuthError Token × List Event :=
  match tokens.get? token with
  | none => (.error (TokenError.validationFailed "unknown token").toAuthError, [])
  | some registration =>
    if registration.expiresAt.before now then (.error TokenError.expired.toAuthError, [])
    else (.ok (Registration.toToken registration),
      [.registeredTokenAccepted registration.subject])

end RegisteredTokens

end BearerLogin
