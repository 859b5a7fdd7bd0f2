import BearerLogin.AuthError

/-! Why an access token is not accepted or cannot be bought.  For the login, a token endpoint that
does not answer is a failure of transport, and everything else a rejected token. -/

namespace BearerLogin

/-- Why an access token is not accepted or cannot be bought. -/
inductive TokenError where
  | validationFailed (detail : String)
  | expired
  | notYetValid
  | invalidFormat (detail : String)
  | unknownIssuer (issuer : String)
  | invalidSignature
  | keysUnavailable (detail : String)
  | keyNotFound (detail : String)
  | unsupportedAlgorithm (name : String)
  | missingClaim (name : String)
  | invalidAudience
  | endpointStatus (status : Nat)
  | http (detail : String)
  deriving DecidableEq, Repr

namespace TokenError

/-- The wording of an error. -/
def message : TokenError → String
  | validationFailed detail => "Token validation failed: " ++ detail
  | expired => "Token expired"
  | notYetValid => "Token not yet valid"
  | invalidFormat detail => "Invalid token format: " ++ detail
  | unknownIssuer issuer => "Unknown issuer: " ++ issuer
  | invalidSignature => "Invalid signature"
  | keysUnavailable detail => "Failed to fetch JWKS: " ++ detail
  | keyNotFound detail => "Key not found: " ++ detail
  | unsupportedAlgorithm name => "Unsupported algorithm: " ++ name
  | missingClaim name => "Missing required claim: " ++ name
  | invalidAudience => "Invalid audience"
  | endpointStatus status => s!"Token endpoint responded with status {status}"
  | http detail => "HTTP error: " ++ detail

/-- What an error means for a login. -/
def toAuthError (error : TokenError) : AuthError :=
  match error with
  | endpointStatus _ | http _ => .transport error.message
  | _ => .validation error.message

end TokenError

end BearerLogin
