import BearerLogin.Base64
import BearerLogin.Json.Fault
import BearerLogin.TokenError

/-! The faults of JSON web tokens and of the keys that they are verified with, and which error each
of them is for the validation of an access token. -/

namespace BearerLogin.Jwt

/-- What is wrong with a token or a key. -/
inductive Fault where
  | invalidToken
  | invalidSignature
  | invalidEcdsaKey
  | invalidRsaKey (detail : String)
  | rsaFailedSigning
  | invalidAlgorithmName
  | invalidKeyFormat
  | missingRequiredClaim (claim : String)
  | expiredSignature
  | invalidIssuer
  | invalidAudience
  | invalidSubject
  | immatureSignature
  | invalidAlgorithm
  | missingAlgorithm
  | base64 (fault : Base64.Fault)
  | json (fault : Json.Fault)
  deriving DecidableEq, Repr

namespace Fault

/-- The wording of a fault. -/
def message : Fault → String
  | invalidToken => "InvalidToken"
  | invalidSignature => "InvalidSignature"
  | invalidEcdsaKey => "InvalidEcdsaKey"
  | invalidRsaKey detail => "RSA key invalid: " ++ detail
  | rsaFailedSigning => "RsaFailedSigning"
  | invalidAlgorithmName => "InvalidAlgorithmName"
  | invalidKeyFormat => "InvalidKeyFormat"
  | missingRequiredClaim claim => "Missing required claim: " ++ claim
  | expiredSignature => "ExpiredSignature"
  | invalidIssuer => "InvalidIssuer"
  | invalidAudience => "InvalidAudience"
  | invalidSubject => "InvalidSubject"
  | immatureSignature => "ImmatureSignature"
  | invalidAlgorithm => "InvalidAlgorithm"
  | missingAlgorithm => "MissingAlgorithm"
  | base64 fault => "Base64 error: " ++ fault.message
  | json fault => "JSON error: " ++ fault.message

/-- Which error a fault is for the validation of an access token. -/
def toTokenError (fault : Fault) : TokenError :=
  match fault with
  | expiredSignature => .expired
  | immatureSignature => .notYetValid
  | invalidSignature => .invalidSignature
  | invalidToken | base64 _ | json _ => .invalidFormat fault.message
  | invalidIssuer => .unknownIssuer "iss"
  | invalidAudience => .invalidAudience
  | missingRequiredClaim claim => .missingClaim claim
  | _ => .validationFailed fault.message

end Fault

end BearerLogin.Jwt
