import BearerLogin.AuthError
import BearerLogin.Credentials
import BearerLogin.ErrorId
import BearerLogin.Instant.Printer
import BearerLogin.Json.Value

/-! The events that a login leaves in the log.  An event is kept as what happened; its level, its
message and its fields are read off it. -/

namespace BearerLogin

/-- How severe an event is. -/
inductive Level where
  | warn
  | info
  | debug
  deriving DecidableEq, Repr

namespace Level

/-- The name of a level. -/
def name : Level → String
  | warn => "WARN"
  | info => "INFO"
  | debug => "DEBUG"

/-- The rank of a level: more severe ones come first. -/
def rank : Level → Nat
  | warn => 0
  | info => 1
  | debug => 2

end Level

/-- What happened. -/
inductive Event where
  | classified (username : String) (source : SourceKind)
  | exchanging (clientId endpoint acquirer : String)
  | tokenRejected (username : String) (source : SourceKind) (validator : String) (cause : AuthError)
  | mismatched (username subject : String)
  | stored (key : String) (replaced : Bool)
  | bound (username principal : String) (expiresAt : Instant)
  | loggedIn (username : String) (source : SourceKind) (principal : String)
  | registeredTokenAccepted (subject : String)
  | usingCachedKeys (url : String)
  | fetchingKeys (url : String)
  | refreshRefused (keyId : Option String)
  | refreshingKeys (keyId : Option String)
  | tokenObtained (clientId : String) (tokenType : Option String) (expiresIn : Option Nat)
  | retrying (endpoint : String) (attempt : Nat)
  | failed (id : ErrorId) (kind : AuthError.Kind) (username : Option String) (detail : String)
  | malformed (detail : String)
  | exchanged (authorizationId principal : String)
  | admitted (authorizationId principal : String)
  | lookupRejected (tokenPresent : Bool)
  | configured (endpoint : Option String) (validator : String)
  deriving DecidableEq, Repr

namespace Event

/-- How severe an event is. -/
def level : Event → Level
  | retrying .. | failed .. | malformed .. | lookupRejected .. => .warn
  | bound .. | loggedIn .. | admitted .. => .info
  | _ => .debug

/-- The message of an event. -/
def message : Event → String
  | classified .. => "Classified PLAIN credentials"
  | exchanging .. => "Obtaining access token with client credentials"
  | tokenRejected .. => "Access token rejected"
  | mismatched .. => "Username doesn't match the token subject"
  | stored .. => "Stored credentials"
  | bound .. => "Bound principal to connection"
  | loggedIn .. => "Authenticated over PLAIN"
  | registeredTokenAccepted .. => "Static token accepted"
  | usingCachedKeys .. => "Using cached JWKS"
  | fetchingKeys .. => "Fetching JWKS"
  | refreshRefused .. => "Unknown key id, JWKS refreshed too recently"
  | refreshingKeys .. => "Unknown key id, refreshing JWKS"
  | tokenObtained .. => "Obtained access token"
  | retrying .. => "Token endpoint request failed, retrying"
  | failed .. | malformed .. => "Authentication failed"
  | exchanged .. => "SASL/PLAIN exchange complete"
  | admitted .. => "SASL/PLAIN authentication succeeded"
  | lookupRejected .. => "Principal lookup rejected"
  | configured (some _) _ => "Configured OAuth over PLAIN"
  | configured none _ =>
    "Configured OAuth over PLAIN without token endpoint - client credentials " ++
      "unavailable, passwords are treated as access tokens"

/-- An optional text as it stands in a field. -/
def optionalText (text : Option String) : Json :=
  .str (Text.Quoted.optional Text.Quoted.text text)

/-- The fields of an event. -/
def fields : Event → List (String × Json)
  | classified username source => [("username", .str username), ("source", .str source.name)]
  | exchanging clientId endpoint acquirer =>
    [("client_id", .str clientId), ("endpoint", .str endpoint), ("acquirer", .str acquirer)]
  | tokenRejected username source validator cause =>
    [("username", .str username), ("source", .str source.name), ("validator", .str validator),
      ("error", .str cause.message)]
  | mismatched username subject => [("username", .str username), ("subject", .str subject)]
  | stored key replaced => [("key", .str key), ("replaced", .bool replaced)]
  | bound username principal expiresAt =>
    [("username", .str username), ("principal", .str principal),
      ("expires_at", .str expiresAt.display)]
  | loggedIn username source principal =>
    [("username", .str username), ("source", .str source.name), ("principal", .str principal)]
  | registeredTokenAccepted subject => [("subject", .str subject)]
  | usingCachedKeys url | fetchingKeys url => [("url", .str url)]
  | refreshRefused keyId | refreshingKeys keyId => [("kid", optionalText keyId)]
  | tokenObtained clientId tokenType expiresIn =>
    [("client_id", .str clientId), ("token_type", optionalText tokenType),
      ("expires_in", .str (Text.Quoted.optional (fun (n : Nat) => toString n) expiresIn))]
  | retrying endpoint attempt => [("endpoint", .str endpoint), ("attempt", .int attempt)]
  | failed id kind username detail =>
    [("error_id", .str id.render), ("kind", .str kind.name), ("username", optionalText username),
      ("detail", .str detail)]
  | malformed detail => [("kind", .str "invalid_response"), ("detail", .str detail)]
  | exchanged authorizationId principal | admitted authorizationId principal =>
    [("authorization_id", .str authorizationId), ("principal", .str principal)]
  | lookupRejected tokenPresent => [("token_present", .bool tokenPresent)]
  | configured endpoint validator =>
    (endpoint.toList.map fun url => ("token_endpoint", Json.str url)) ++
      [("validator", .str validator)]

end Event

end BearerLogin
