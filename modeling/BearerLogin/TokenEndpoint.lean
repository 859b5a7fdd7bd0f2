import BearerLogin.Json.Record
import BearerLogin.Login
import BearerLogin.Network
import BearerLogin.TokenError

/-! Buying access tokens at a token endpoint with the name and the secret of a client.  A request
that finds no connection or meets a failure of the server is repeated a limited number of times; the
attempts are counted in 32 bits. -/

namespace BearerLogin.TokenEndpoint

open Json

/-- What a client of a token endpoint asks for, and how often it repeats a request. -/
structure Client where
  scope : Option String := none
  audience : Option String := none
  retries : Nat := 0
  deriving DecidableEq, Repr

/-- How a client names itself. -/
def clientName : String := "client credentials client"

/-- The fields of the form that is sent. -/
def Client.form (client : Client) : List (String × String) :=
  [("grant_type", "client_credentials")] ++ (client.scope.toList.map (("scope", ·))) ++
    (client.audience.toList.map (("audience", ·)))

/-- The request for a token, apart from its URL. -/
def Client.request (client : Client) (endpoint : Url) (clientId secret : String) : Request where
  method := "POST"
  url := endpoint
  authorization := [Request.basic clientId secret]
  contentType := some "application/x-www-form-urlencoded"
  body := Url.Percent.form client.form

/-- Whether a request is worth repeating. -/
def isRetryable : Except HttpFault Response → Bool
  | .ok response => 500 ≤ response.status && response.status < 600
  | .error (.unbuildable _) => false
  | .error _ => true

/-- What came of all attempts: the last result, the events, and the state of the network. -/
structure Outcome (ν : Type) where
  result : Except HttpFault Response
  events : List Event
  network : ν

/-- The largest count of attempts. -/
def maxAttempts : Nat := 4294967295

/-- Makes one attempt, and further ones as long as the result is worth it and there are retries
left.  `left` is how often the count of attempts can still grow. -/
def attempts (send : ν → Except HttpFault Response × ν) (endpoint : String) (retries : Nat) :
    Nat → ν → Outcome ν
  | 0, state => ⟨.error .tooManyAttempts, [], state⟩
  | left + 1, state =>
    let attempt := maxAttempts - left
    let (result, state) := send state
    if !isRetryable result || retries < attempt then ⟨result, [], state⟩
    else
      let rest := attempts send endpoint retries left state
      { rest with events := .retrying endpoint attempt :: rest.events }

/-- The answer of a token endpoint. -/
structure Grant where
  accessToken : Option String := none
  tokenType : Option String := none
  expiresIn : Option Nat := none
  deriving DecidableEq, Repr

namespace Grant

/-- A grant of which some members have been read. -/
structure Draft where
  grant : Grant := {}
  /-- The names of the members that were read. -/
  seen : List String := []

/-- A member of a grant.  Only the ones that say nothing about the token may be missing at the end
of a list. -/
def field (name : String) (short : Bool) (read : Reader (Grant → Grant)) : Reader.Field Draft where
  name := name
  isSet := fun d => d.seen.contains name
  read := do
    let set ← read
    return fun d => ⟨set d.grant, name :: d.seen⟩
  ifMissing := some id
  ifShort := if short then some id else none

/-- The members of a grant in their order. -/
def fields : List (Reader.Field Draft) := [
  field "access_token" false
    (do let t ← Reader.optional Reader.text; return fun g => { g with accessToken := t }),
  field "token_type" true
    (do let t ← Reader.optional Reader.text; return fun g => { g with tokenType := t }),
  field "expires_in" true
    (do let n ← Reader.optional Reader.natural; return fun g => { g with expiresIn := n })]

/-- The grant that bytes stand for, if they stand for one. -/
def ofBytes? (bytes : List UInt8) : Option Grant :=
  (Reader.run (do return (← Reader.record "TokenResponse" fields {}).grant) bytes).toOption

end Grant

/-- The token in the response to the last attempt, and the grant that it came with. -/
def tokenIn (result : Except HttpFault Response) : Except TokenError String × Option Grant :=
  match result with
  | .error fault => (.error (.http fault.message), none)
  | .ok response =>
    if response.status < 200 ∨ 300 ≤ response.status then
      (.error (.endpointStatus response.status), none)
    else
      match response.body.bind Grant.ofBytes? with
      | none => (.error (.http HttpFault.badBody.message), none)
      | some grant =>
        match grant.accessToken.filter (· ≠ "") with
        | some token => (.ok token, some grant)
        | none => (.error (.missingClaim "access_token"), some grant)

/-- Buys an access token. -/
def acquire (network : Network ν) (client : Client) (endpoint : Url) (clientId secret : String)
    (state : ν) : Answer ν String :=
  let request := client.request endpoint clientId secret
  let outcome := attempts (network.exchange endpoint request) endpoint.render client.retries
    maxAttempts state
  let (token, grant) := tokenIn outcome.result
  { result := token.mapError fun error => .transport error.message
    events := outcome.events ++
      (grant.toList.map fun g => .tokenObtained clientId g.tokenType g.expiresIn)
    next := outcome.network }

end BearerLogin.TokenEndpoint
