import BearerLogin.Event
import BearerLogin.Store
import BearerLogin.Url

/-! Logging in: the submitted password is turned into an access token, the token is validated, and
the principal that it names is stored under the submitted name.  Validation and the purchase of
tokens are left to peers, whose answers may depend on everything that was asked of them before. -/

namespace BearerLogin

/-- What a peer answers: a result, the events that it reports, and its state from then on. -/
structure Answer (σ α : Type) where
  result : Except AuthError α
  events : List Event := []
  next : σ

/-- The peers of a login: one validates access tokens, the other buys them at the token endpoint for
the name and the secret of a client. -/
structure Peers (σ : Type) where
  validatorName : String
  acquirerName : String
  validate : String → σ → Answer σ Token
  acquire : Url → String → String → σ → Answer σ String

/-- What a login reads and changes. -/
structure World (σ : Type) where
  peers : σ
  store : Store := .empty
  /-- The events so far, oldest first. -/
  log : List Event := []

namespace World

/-- The world after further events. -/
def noting (world : World σ) (events : List Event) : World σ :=
  { world with log := world.log ++ events }

/-- Reports an event outside of a login. -/
def report (event : Event) : StateM (World σ) Unit :=
  modify (·.noting [event])

end World

/-- A step of a login, which may fail. -/
abbrev LoginM (σ : Type) := ExceptT AuthError (StateM (World σ))

namespace LoginM

/-- Reports an event. -/
def report (event : Event) : LoginM σ Unit :=
  modify (·.noting [event])

/-- Asks a peer. -/
def ask (question : σ → Answer σ α) : LoginM σ α := fun world =>
  let answer := question world.peers
  (answer.result, { world.noting answer.events with peers := answer.next })

/-- Fails because a login lacks something. -/
def lacking (fault : SetupFault) : LoginM σ α :=
  throw (.configuration fault)

end LoginM

open LoginM

/-- Stores a principal and reports whether it replaces another one. -/
def storePrincipal (key : String) (principal : Principal) : LoginM σ Unit := do
  let replaced := ((← get).store.get? key).isSome
  modify fun world => { world with store := world.store.put key principal }
  report (.stored key replaced)

/-- Makes the principal of a validated token and stores it under the submitted name.  Where a match
is required, the token has to be issued for that name. -/
def bindPrincipal (username : String) (requiresMatch : Bool) (token : Token) :
    LoginM σ Principal := do
  if requiresMatch && username ≠ token.principalName then
    report (.mismatched username token.principalName)
    throw (.identityMismatch username token.principalName)
  let principal := Principal.user token
  storePrincipal username principal
  report (.bound username principal.display token.expiresAt)
  return principal

/-- Everything that a login needs from outside.  Passwords can be client secrets only where there is
a token endpoint. -/
structure Service (σ : Type) where
  peers : Peers σ
  endpoint : Option Url := none

namespace Service

/-- Whether there is a token endpoint. -/
def hasEndpoint (service : Service σ) : Bool :=
  service.endpoint.isSome

/-- Buys an access token with a client secret. -/
def exchange (service : Service σ) (clientId : String) (secret : Option String) :
    LoginM σ String := do
  match service.endpoint with
  | none => lacking .endpointMissing
  | some endpoint =>
    match secret with
    | none => lacking .secretMissing
    | some secret =>
      report (.exchanging clientId endpoint.render service.peers.acquirerName)
      ask (service.peers.acquire endpoint clientId secret)

/-- The access token of a source. -/
def bearerToken (service : Service σ) : TokenSource → LoginM σ String
  | .marked token => return token
  | .bare token => return token
  | .clientCredentials clientId secret => service.exchange clientId secret

/-- Turns a submission into an access token. -/
def resolve (service : Service σ) (submission : Submission) : LoginM σ ResolvedToken := do
  match submission.username with
  | none => lacking .usernameMissing
  | some username =>
    let source := classify username submission.password service.hasEndpoint
    report (.classified username source.kind)
    let bearerToken ← service.bearerToken source
    return ⟨bearerToken, source.requiresMatch, source.kind⟩

/-- Has an access token validated, and reports a rejection. -/
def validate (service : Service σ) (username : String) (resolved : ResolvedToken) :
    LoginM σ Token := do
  try ask (service.peers.validate resolved.bearerToken)
  catch cause =>
    report (.tokenRejected username resolved.source service.peers.validatorName cause)
    throw cause

/-- Logs a client in. -/
def authenticate (service : Service σ) (submission : Submission) : LoginM σ Principal := do
  match submission.username with
  | none => lacking .usernameMissing
  | some username =>
    let resolved ← service.resolve submission
    let token ← service.validate username resolved
    let principal ← bindPrincipal username resolved.requiresMatch token
    report (.loggedIn username resolved.source principal.display)
    return principal

end Service

end BearerLogin
