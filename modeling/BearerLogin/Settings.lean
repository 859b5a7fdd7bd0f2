import BearerLogin.Certificate
import BearerLogin.Jwt.Validator
import BearerLogin.Text.Decimal
import BearerLogin.Text.UpperCase
import BearerLogin.TokenEndpoint
import BearerLogin.Url.Reader

/-! The settings of a login service.  Each has a key; a key that is not among the options is looked
up in the environment, under its name in upper case with underscores for dots.  A blank value counts
as none. -/

namespace BearerLogin

/-- The keys of the settings. -/
inductive SettingKey where
  | tokenEndpoint
  | issuer
  | keysEndpoint
  | keysExpiry
  | keysRefreshPause
  | usernameClaim
  | checkAudience
  | clientId
  | scope
  | audience
  | connectTimeout
  | readTimeout
  | retries
  | retryPause
  | trustedCertificates
  deriving DecidableEq, Repr

namespace SettingKey

/-- All keys. -/
def all : List SettingKey :=
  [tokenEndpoint, issuer, keysEndpoint, keysExpiry, keysRefreshPause, usernameClaim, checkAudience,
    clientId, scope, audience, connectTimeout, readTimeout, retries, retryPause,
    trustedCertificates]

/-- The name of a key among the options. -/
def name : SettingKey → String
  | tokenEndpoint => "oauth.token.endpoint.uri"
  | issuer => "oauth.valid.issuer.uri"
  | keysEndpoint => "oauth.jwks.endpoint.uri"
  | keysExpiry => "oauth.jwks.expiry.seconds"
  | keysRefreshPause => "oauth.jwks.refresh.min.pause.seconds"
  | usernameClaim => "oauth.username.claim"
  | checkAudience => "oauth.check.audience"
  | clientId => "oauth.client.id"
  | scope => "oauth.scope"
  | audience => "oauth.audience"
  | connectTimeout => "oauth.connect.timeout.seconds"
  | readTimeout => "oauth.read.timeout.seconds"
  | retries => "oauth.http.retries"
  | retryPause => "oauth.http.retry.pause.millis"
  | trustedCertificates => "oauth.ssl.truststore.certificates"

end SettingKey

/-- The name in the environment of the setting with the given name. -/
def environmentName (name : String) : String :=
  String.ofList ((Text.upperCase name).toList.map fun c => if c = '.' then '_' else c)

/-- What is wrong with settings. -/
inductive SettingsFault where
  | unsupportedMechanism (name : String)
  | invalidUri (key : SettingKey) (value : String) (reason : Url.Fault)
  | invalidValue (key : SettingKey) (value : String)
  | missing (key : SettingKey)
  | badCertificates
  deriving DecidableEq, Repr

namespace SettingsFault

/-- What is said of certificates that cannot be trusted. -/
def certificateDetail : String := "builder error"

/-- The wording of a fault. -/
def message : SettingsFault → String
  | unsupportedMechanism name => s!"Unexpected SASL mechanism: {name}"
  | invalidUri key value reason => s!"Invalid {key.name}: {value} ({reason.message})"
  | invalidValue key value => s!"Invalid value for {key.name}: {value}"
  | missing key => s!"Missing required configuration: {key.name}"
  | badCertificates => s!"Invalid TLS configuration: {certificateDetail}"

/-- The text of a fault for diagnostics. -/
def debugText : SettingsFault → String
  | unsupportedMechanism name => Text.Quoted.tagged "UnsupportedMechanism" (Text.Quoted.text name)
  | invalidUri key value reason =>
    Text.Quoted.record "InvalidUri"
      [("key", Text.Quoted.text key.name), ("value", Text.Quoted.text value),
        ("reason", Text.Quoted.text reason.message)]
  | invalidValue key value =>
    Text.Quoted.record "InvalidValue"
      [("key", Text.Quoted.text key.name), ("value", Text.Quoted.text value)]
  | missing key => Text.Quoted.tagged "Missing" (Text.Quoted.text key.name)
  | badCertificates => Text.Quoted.tagged "Tls" (Text.Quoted.text certificateDetail)

end SettingsFault

/-- How requests are made. -/
structure TransportSettings where
  connectTimeoutSeconds : Nat := 60
  readTimeoutSeconds : Nat := 60
  retries : Nat := 0
  retryPauseMillis : Nat := 0
  trustedCertificates : Option String := none
  deriving DecidableEq, Repr

/-- Checks that requests can be made: the trusted certificates have to be certificates. -/
def TransportSettings.check (transport : TransportSettings) : Except SettingsFault Unit :=
  match transport.trustedCertificates with
  | none => .ok ()
  | some text => if Certificate.allTrustable text then .ok () else .error .badCertificates

/-- The settings of a login service. -/
structure Settings where
  tokenEndpoint : Option Url := none
  jwt : Option JwtSettings := none
  scope : Option String := none
  audience : Option String := none
  transport : TransportSettings := {}
  deriving DecidableEq, Repr

/-- Where settings are looked up. -/
structure Sources where
  options : List (String × String) := []
  environment : List (String × String) := []
  deriving DecidableEq, Repr

namespace Sources

/-- The value under a name. -/
def valueOf? (name : String) (entries : List (String × String)) : Option String :=
  (entries.find? (·.1 == name)).map (·.2)

/-- The value of a key as it is written. -/
def raw? (sources : Sources) (key : SettingKey) : Option String :=
  match valueOf? key.name sources.options with
  | some value => some value
  | none => valueOf? (environmentName key.name) sources.environment

/-- The value of a key without blanks around it, unless it is blank. -/
def text? (sources : Sources) (key : SettingKey) : Option String :=
  ((sources.raw? key).map Text.trim).filter (· ≠ "")

/-- The value of a key as a URL. -/
def url (sources : Sources) (key : SettingKey) : Except SettingsFault (Option Url) :=
  match sources.text? key with
  | none => .ok none
  | some value =>
    match Url.ofText value with
    | .ok url => .ok (some url)
    | .error reason => .error (.invalidUri key value reason)

/-- The value of a key as a number up to a limit. -/
def number (sources : Sources) (limit : Nat) (key : SettingKey) :
    Except SettingsFault (Option Nat) :=
  match sources.text? key with
  | none => .ok none
  | some value =>
    match Text.Decimal.read? limit value with
    | some n => .ok (some n)
    | none => .error (.invalidValue key value)

/-- The value of a key as a truth value, in any case. -/
def flag (sources : Sources) (key : SettingKey) : Except SettingsFault (Option Bool) :=
  match sources.text? key with
  | none => .ok none
  | some value =>
    match String.ofList (value.toList.map Char.toLower) with
    | "true" => .ok (some true)
    | "false" => .ok (some false)
    | _ => .error (.invalidValue key value)

end Sources

namespace Settings

open Text.Decimal Sources

/-- The audience that tokens have to be for, if they are checked for one: the client itself. -/
def checkedAudience (sources : Sources) : Except SettingsFault (Option String) := do
  match ← sources.flag .checkAudience with
  | some true =>
    match sources.text? .clientId with
    | some clientId => return some clientId
    | none => throw (.missing .clientId)
  | _ => return none

/-- The settings of the validator for an issuer and its published keys. -/
def jwtSettings (sources : Sources) (issuer : String) (keysUrl : Url) :
    Except SettingsFault JwtSettings := do
  let start : JwtSettings := { issuer, keysUrl }
  let expiry ← sources.number max64 .keysExpiry
  let pause ← sources.number max64 .keysRefreshPause
  let audience ← checkedAudience sources
  return { start with
    audience
    usernameClaim := (sources.text? .usernameClaim).getD start.usernameClaim
    expirySeconds := expiry.getD start.expirySeconds
    refreshPauseSeconds := pause.getD start.refreshPauseSeconds }

/-- The settings of the validator, if there is to be one: issuer and published keys are set both or
not at all. -/
def optionalJwtSettings (sources : Sources) (keysUrl : Option Url) :
    Except SettingsFault (Option JwtSettings) :=
  match sources.text? .issuer, keysUrl with
  | some issuer, some keysUrl => some <$> jwtSettings sources issuer keysUrl
  | none, none => .ok none
  | none, some _ => .error (.missing .issuer)
  | some _, none => .error (.missing .keysEndpoint)

/-- How requests are made. -/
def transportSettings (sources : Sources) : Except SettingsFault TransportSettings := do
  let start : TransportSettings := {}
  let connect ← sources.number max64 .connectTimeout
  let read ← sources.number max64 .readTimeout
  let retries ← sources.number max32 .retries
  let pause ← sources.number max64 .retryPause
  return {
    connectTimeoutSeconds := connect.getD start.connectTimeoutSeconds
    readTimeoutSeconds := read.getD start.readTimeoutSeconds
    retries := retries.getD start.retries
    retryPauseMillis := pause.getD start.retryPauseMillis
    trustedCertificates := sources.text? .trustedCertificates }

/-- Looks up all settings. -/
def ofSources (sources : Sources) : Except SettingsFault Settings := do
  let tokenEndpoint ← sources.url .tokenEndpoint
  let keysUrl ← sources.url .keysEndpoint
  let jwt ← optionalJwtSettings sources keysUrl
  let transport ← transportSettings sources
  return {
    tokenEndpoint, jwt, transport
    scope := sources.text? .scope
    audience := sources.text? .audience }

end Settings

end BearerLogin
