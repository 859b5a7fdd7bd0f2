import BearerLogin.Jwt.Claims
import BearerLogin.Jwt.KeySet
import BearerLogin.Login
import BearerLogin.Network
import BearerLogin.Text.Blank

/-! Validating JSON web tokens of one issuer.  The published keys are fetched when they are needed
and held for a time; a token that asks for an unknown key makes the validator fetch them anew, but
not again before a pause is over.  Of the claims, expiry, issuer and audience are checked; then the
token is accepted if it names a user. -/

namespace BearerLogin

/-- The settings of a validator. -/
structure JwtSettings where
  issuer : String
  keysUrl : Url
  audience : Option String := none
  usernameClaim : String := "sub"
  /-- The names of the admitted algorithms; a name that is none admits nothing. -/
  algorithms : List String := ["RS256", "ES256"]
  /-- How long fetched keys are held, in seconds. -/
  expirySeconds : Nat := 360
  /-- How long no second fetch is forced, in seconds. -/
  refreshPauseSeconds : Nat := 1
  deriving DecidableEq, Repr

namespace Jwt

/-- What a validator remembers: the keys that it holds and when they were fetched, and when it last
fetched keys because one was unknown. -/
structure KeyCache where
  held : Option (KeySet × Instant) := none
  lastForced : Option Instant := none
  deriving DecidableEq, Repr

namespace KeyCache

/-- Whether less than a number of seconds have passed since an instant. -/
def within (now since : Instant) (seconds : Nat) : Bool :=
  now.before (since.plusSeconds seconds)

/-- The keys that are held and not too old. -/
def fresh? (cache : KeyCache) (now : Instant) (expirySeconds : Nat) : Option KeySet :=
  match cache.held with
  | some (keys, since) => if within now since expirySeconds then some keys else none
  | none => none

/-- Whether a fetch may not be forced yet. -/
def refusesRefresh (cache : KeyCache) (now : Instant) (pauseSeconds : Nat) : Bool :=
  match cache.lastForced with
  | some since => within now since pauseSeconds
  | none => false

end KeyCache

/-- What validation reads and changes. -/
structure ValidatorState (ν : Type) where
  cache : KeyCache := {}
  network : ν
  events : List Event := []

/-- A step of validation, which may fail. -/
abbrev ValidatorM (ν : Type) := ExceptT TokenError (StateM (ValidatorState ν))

namespace ValidatorM

/-- Reports an event. -/
def report (event : Event) : ValidatorM ν Unit :=
  modify fun s => { s with events := s.events ++ [event] }

/-- Changes what is remembered. -/
def setCache (change : KeyCache → KeyCache) : ValidatorM ν Unit :=
  modify fun s => { s with cache := change s.cache }

/-- Goes on with a part of a token unless it has a fault. -/
def ofFault (result : Except Fault α) : ValidatorM ν α :=
  ofExcept (result.mapError Fault.toTokenError)

end ValidatorM

open ValidatorM

/-- The keys in a response. -/
def keysOf (url : Url) : Except HttpFault Response → Except HttpFault KeySet
  | .error fault => .error fault
  | .ok response =>
    if HttpFault.statusFails response.status then
      .error (.badStatus response.status (Request.reported url).render)
    else
      match response.body.bind KeySet.ofBytes? with
      | some keys => .ok keys
      | none => .error .badBody

/-- Requests the published keys. -/
def requestKeys (network : Network ν) (url : Url) : ValidatorM ν KeySet := do
  let state ← get
  let (response, next) := network.exchange url { method := "GET", url } state.network
  set { state with network := next }
  match keysOf url response with
  | .ok keys => return keys
  | .error fault => throw (.keysUnavailable fault.message)

/-- The published keys: those that are held, or else newly fetched ones, which are held from now
on. -/
def fetchKeys (network : Network ν) (settings : JwtSettings) (now : Instant) :
    ValidatorM ν KeySet := do
  let url := settings.keysUrl.render
  match (← get).cache.fresh? now settings.expirySeconds with
  | some keys =>
    report (.usingCachedKeys url)
    return keys
  | none =>
    report (.fetchingKeys url)
    let keys ← requestKeys network settings.keysUrl
    setCache fun cache => { cache with held := some (keys, now) }
    return keys

/-- The key for a token.  When it is unknown, the keys are fetched anew unless the pause forbids it.
-/
def keyFor (network : Network ν) (settings : JwtSettings) (now : Instant)
    (keyId : Option String) : ValidatorM ν Key := do
  let keys ← fetchKeys network settings now
  match keys.find? keyId with
  | some published => ofExcept published.toKey
  | none =>
    if (← get).cache.refusesRefresh now settings.refreshPauseSeconds then
      report (.refreshRefused keyId)
      throw (.keyNotFound (KeySet.missing keyId))
    else
      setCache fun cache => { cache with lastForced := some now }
      report (.refreshingKeys keyId)
      setCache fun cache => { cache with held := none }
      let keys ← fetchKeys network settings now
      match keys.find? keyId with
      | some published => ofExcept published.toKey
      | none => throw (.keyNotFound (KeySet.missing keyId))

/-- Whether the settings admit an algorithm. -/
def admits (settings : JwtSettings) (algorithm : Algorithm) : Bool :=
  settings.algorithms.any fun name => Algorithm.ofName? name == some algorithm

/-- Reads bytes as a JSON value. -/
def valueOf (payload : List UInt8) : Except Fault Json :=
  (Json.Reader.run (Json.Reader.readValue Json.Reader.maxDepth) payload).mapError .json

/-- The payload of a token whose signature fits and whose claims are in order. -/
def verifiedPayload (settings : JwtSettings) (now : Instant) (algorithm : Algorithm) (key : Key)
    (token : String) : Except Fault Json := do
  if key.family ≠ algorithm.family then throw .invalidAlgorithm
  match Parts.ofText? token with
  | none => throw .invalidToken
  | some parts =>
    if !(← key.verifies algorithm parts.signed parts.signature) then throw .invalidSignature
    let bytes ← decodePart parts.payload
    let payload ← valueOf bytes
    (← Claims.ofBytes bytes).check now.seconds settings.issuer settings.audience
    return payload

/-- The instant in a member of a payload: an integer of 64 bits that the calendar has. -/
def instantIn? (payload : Json) (name : String) : Option Instant :=
  ((payload.get? name).bind Json.int64?).bind Instant.ofSeconds?

/-- The user that a payload names in a claim. -/
def userIn? (payload : Json) (claim : String) : Option String :=
  ((payload.get? claim).bind Json.str?).filter (· ≠ "")

/-- The scopes that a payload lists. -/
def scopesIn (payload : Json) : List String :=
  match (payload.get? "scope").bind Json.str? with
  | some text => Text.words text
  | none => []

/-- The validated token of a payload. -/
def tokenOf (settings : JwtSettings) (payload : Json) : Except TokenError Token := do
  let some principalName := userIn? payload settings.usernameClaim
    | throw (.missingClaim settings.usernameClaim)
  let some expiresAt := instantIn? payload "exp" | throw (.missingClaim "exp")
  return {
    principalName, expiresAt, payload
    issuedAt := instantIn? payload "iat"
    scopes := scopesIn payload }

/-- Validates a token. -/
def validate (network : Network ν) (settings : JwtSettings) (now : Instant) (token : String) :
    ValidatorM ν Token := do
  let header ← ofExcept ((Header.ofToken token).mapError fun fault => .invalidFormat fault.message)
  if !admits settings header.algorithm then
    throw (.unsupportedAlgorithm header.algorithm.name)
  let key ← keyFor network settings now header.keyId
  let payload ← ofFault (verifiedPayload settings now header.algorithm key token)
  ofExcept (tokenOf settings payload)

/-- How a validator names itself. -/
def validatorName : String := "JWT/JWKS validator"

/-- The longest time for which keys can be held, in seconds: a thousand years of 365 days. -/
def maxExpirySeconds : Nat := 1000 * 365 * 86400

end Jwt

end BearerLogin
