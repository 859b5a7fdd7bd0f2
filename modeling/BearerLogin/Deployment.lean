import BearerLogin.Callback
import BearerLogin.RegisteredTokens

/-! Services as they are deployed.  A service accepts either the signed tokens of one issuer or the
tokens that were registered with it; its peers work on one backend, which holds what they remember
and the network that they use. -/

namespace BearerLogin

/-- What the peers of a service share. -/
structure Backend (ν : Type) where
  network : ν
  /-- The present instant. -/
  now : Instant
  keys : Jwt.KeyCache := {}
  registered : RegisteredTokens := {}

namespace Backend

/-- Validates a signed token. -/
def validateSigned (network : Network ν) (settings : JwtSettings) (token : String)
    (backend : Backend ν) : Answer (Backend ν) Token :=
  let start : Jwt.ValidatorState ν := { cache := backend.keys, network := backend.network }
  let (result, after) := (Jwt.validate network settings backend.now token).run start
  { result := result.mapError TokenError.toAuthError
    events := after.events
    next := { backend with keys := after.cache, network := after.network } }

/-- Validates a registered token. -/
def validateRegistered (token : String) (backend : Backend ν) : Answer (Backend ν) Token :=
  let (result, events) := backend.registered.validate backend.now token
  { result, events, next := backend }

/-- Buys an access token. -/
def acquire (network : Network ν) (client : TokenEndpoint.Client) (endpoint : Url)
    (clientId secret : String) (backend : Backend ν) : Answer (Backend ν) String :=
  let answer := TokenEndpoint.acquire network client endpoint clientId secret backend.network
  { result := answer.result
    events := answer.events
    next := { backend with network := answer.next } }

end Backend

/-- Why a service cannot be deployed. -/
inductive DeploymentFault where
  | settings (fault : SettingsFault)
  | keysHeldTooLong
  deriving DecidableEq, Repr

/-- The wording of a fault. -/
def DeploymentFault.message : DeploymentFault → String
  | settings fault => fault.message
  | keysHeldTooLong => "time_to_live is longer than 1000 years"

/-- Which access tokens a service accepts. -/
inductive Acceptance where
  | signed (settings : JwtSettings)
  | registered
  deriving DecidableEq, Repr

namespace Acceptance

/-- The acceptance that settings ask for: tokens have to be signed. -/
def ofSettings (settings : Settings) : Except SettingsFault Acceptance :=
  match settings.jwt with
  | some jwt => .ok (.signed jwt)
  | none => .error (.missing .keysEndpoint)

/-- Checks that published keys may be held as long as settings say. -/
def checkExpiry (settings : JwtSettings) : Except DeploymentFault Unit :=
  if Jwt.maxExpirySeconds < settings.expirySeconds then .error .keysHeldTooLong else .ok ()

/-- Checks that tokens can be validated: keys have to be requested and held. -/
def check (acceptance : Acceptance) (transport : TransportSettings) :
    Except DeploymentFault Unit := do
  match acceptance with
  | signed settings =>
    transport.check.mapError .settings
    checkExpiry settings
  | registered => return

/-- The peers of a service. -/
def peers (acceptance : Acceptance) (network : Network ν) (client : TokenEndpoint.Client) :
    Peers (Backend ν) where
  validatorName :=
    match acceptance with
    | signed _ => Jwt.validatorName
    | registered => RegisteredTokens.validatorName
  acquirerName := TokenEndpoint.clientName
  validate :=
    match acceptance with
    | signed settings => Backend.validateSigned network settings
    | registered => Backend.validateRegistered
  acquire := Backend.acquire network client

end Acceptance

/-- The client of the token endpoint that settings describe. -/
def Settings.client (settings : Settings) : TokenEndpoint.Client :=
  ⟨settings.scope, settings.audience, settings.transport.retries⟩

namespace Service

/-- Deploys a service, and reports its settings.  The validator is set up first, then the client of
the token endpoint; the mechanism is looked at last. -/
def deploy (network : Network ν) (mechanism : String) (settings : Settings)
    (acceptance : Acceptance) : Except DeploymentFault (Service (Backend ν) × Event) := do
  acceptance.check settings.transport
  settings.transport.check.mapError .settings
  (configure mechanism settings (acceptance.peers network settings.client)).mapError .settings

/-- Deploys a service that accepts what its settings ask for. -/
def deploySigned (network : Network ν) (mechanism : String) (settings : Settings) :
    Except DeploymentFault (Service (Backend ν) × Event) := do
  let acceptance ← (Acceptance.ofSettings settings).mapError .settings
  deploy network mechanism settings acceptance

end Service

end BearerLogin
