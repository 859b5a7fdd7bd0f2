import BearerLogin.Text.Quoted

/-! Why a login fails.  The kinds tell apart a caller that does not provide what a login needs, a
token that is not accepted, a name that is not the one of the token, and a token endpoint that does
not answer. -/

namespace BearerLogin

/-- What a login lacks before any token is looked at. -/
inductive SetupFault where
  | usernameMissing
  | endpointMissing
  | secretMissing
  | passwordMissing
  | unsupportedCallback (name : String)
  | other (detail : String)
  deriving DecidableEq, Repr

/-- The wording of a setup fault. -/
def SetupFault.message : SetupFault → String
  | .usernameMissing => "username not provided"
  | .endpointMissing => "client credentials require a configured token endpoint"
  | .secretMissing => "client secret not provided"
  | .passwordMissing => "no PlainAuthenticateCallback provided"
  | .unsupportedCallback name => "unsupported callback: " ++ name
  | .other detail => detail

/-- Why a login fails. -/
inductive AuthError where
  | configuration (fault : SetupFault)
  | validation (detail : String)
  | identityMismatch (username subject : String)
  | transport (detail : String)
  deriving DecidableEq, Repr

namespace AuthError

/-- The kinds of failure. -/
inductive Kind where
  | configuration
  | validation
  | identityMismatch
  | transport
  deriving DecidableEq, Repr

/-- The name of a kind in reports. -/
def Kind.name : Kind → String
  | .configuration => "configuration"
  | .validation => "validation"
  | .identityMismatch => "identity_mismatch"
  | .transport => "transport"

/-- The kind of a failure. -/
def kind : AuthError → Kind
  | configuration _ => .configuration
  | validation _ => .validation
  | identityMismatch _ _ => .identityMismatch
  | transport _ => .transport

/-- The wording of a failure. -/
def message : AuthError → String
  | configuration fault => "Configuration error: " ++ fault.message
  | validation detail => "Token validation failed: " ++ detail
  | identityMismatch _ _ => "Username doesn't match the token"
  | transport detail => "Token endpoint request failed: " ++ detail

/-- The text of a failure for diagnostics. -/
def debugText : AuthError → String
  | configuration fault => Text.Quoted.tagged "Configuration" (Text.Quoted.text fault.message)
  | validation detail => Text.Quoted.tagged "Validation" (Text.Quoted.text detail)
  | identityMismatch username subject =>
    Text.Quoted.record "IdentityMismatch"
      [("username", Text.Quoted.text username), ("subject", Text.Quoted.text subject)]
  | transport detail => Text.Quoted.tagged "Transport" (Text.Quoted.text detail)

end AuthError

end BearerLogin
