import BearerLogin.Http.MediaType
import BearerLogin.Http.Refusal
import BearerLogin.Instant.Printer
import BearerLogin.Json.Record
import BearerLogin.Text.Blank

/-! The service over HTTP: its health, a login with one SASL message, and the principal that is
stored under a name.  The last is for operators: it needs the administrator's token and is disabled
where there is none. -/

namespace BearerLogin.Http

/-- A service and the token of its administrator, if one is set. -/
structure App (σ : Type) where
  service : Service σ
  adminToken : Option String := none

namespace App

/-- The service with an administrator's token; an empty one is none. -/
def withAdminToken (app : App σ) (token : String) : App σ :=
  { app with adminToken := if token.isEmpty then none else some token }

/-- The version that the service reports. -/
def version : String := "0.1.0"

/-- A response with a JSON object. -/
def ok (members : List (String × Json)) : Outgoing :=
  { status := 200, body := .json (.obj members) }

/-- Tells that the service runs. -/
def health : Outgoing :=
  ok [("status", .str "ok"), ("version", .str version)]

/-- Tells how many names have a principal, and whether passwords can be client secrets. -/
def ready (app : App σ) (store : Store) : Outgoing :=
  ok [("ready", .bool true), ("client_credentials_enabled", .bool app.service.hasEndpoint),
    ("bound_principals", .int store.size)]

/-- The longest body that is read, in bytes. -/
def maxBody : Nat := 2 * 1024 * 1024

/-- A response with a text. -/
def plain (status : Nat) (text : String) : Outgoing :=
  { status, body := .text text }

/-- Reads the Base64 text in the body of a login request. -/
def readAuthBytes : Json.Reader String := do
  let field : Json.Reader.Field (Option String) := {
    name := "auth_bytes"
    isSet := (·.isSome)
    read := do let text ← Json.Reader.text; return fun _ => some text }
  return (← Json.Reader.record "AuthenticateRequest" [field] none).getD ""

/-- The Base64 text in the body of a request, or the response that there is none. -/
def authText (request : Incoming) : Except Outgoing String :=
  if !((request.headerText? "content-type").any MediaType.isJson) then
    .error (plain 415 "Expected request with `Content-Type: application/json`")
  else if maxBody < request.body.length then
    .error (plain 413 "Failed to buffer the request body: length limit exceeded")
  else
    match Json.Reader.run readAuthBytes request.body with
    | .ok text => .ok text
    | .error fault =>
      if fault.isSyntax then
        .error (plain 400 ("Failed to parse the request body as JSON: " ++ fault.messageWithPath))
      else
        .error (plain 422 ("Failed to deserialize the JSON body into the target type: " ++
          fault.messageWithPath))

/-- The SASL message in a Base64 text with blanks around it. -/
def saslMessage (text : String) : Except Refusal (List UInt8) :=
  (Base64.decode Base64.standard (Text.utf8 (Text.trim text))).mapError Refusal.ofBase64

/-- The response to a login. -/
def admission (identity : String) (principal : Principal) : Outgoing :=
  ok [("authorization_id", .str identity), ("principal", .str principal.name),
    ("principal_type", .str principal.type.name),
    ("expires_at", .str principal.token.expiresAt.rfc3339)]

/-- Runs one exchange with one message. -/
def runExchange (app : App σ) (id : ErrorId) (message : List UInt8) :
    StateM (World σ) (Except Refusal Outgoing) := do
  let (result, exchange) ← ({} : Exchange).respond app.service id message
  match result, exchange.authorizationId, exchange.principal with
  | .error error, _, _ => return .error (.ofExchange error)
  | .ok _, some identity, some principal =>
    World.report (.admitted identity principal.display)
    return .ok (admission identity principal)
  | .ok _, _, _ => return .error (.internal "exchange did not complete")

/-- Answers a login request. -/
def logIn (app : App σ) (id : ErrorId) (request : Incoming) : StateM (World σ) Outgoing := do
  match authText request with
  | .error response => return response
  | .ok text =>
    match saslMessage text with
    | .error refusal => return refusal.response
    | .ok message =>
      match ← app.runExchange id message with
      | .ok response => return response
      | .error refusal => return refusal.response

/-- The token in an authorization header. -/
def bearerToken? (request : Incoming) : Option String :=
  ((request.headerText? "authorization").bind fun text =>
    dropFront? "Bearer ".toList text.toList).map fun rest => String.ofList (Text.trimChars rest)

/-- The bits in which two lists of bytes differ, added up over all places that both have. -/
def difference (presented expected : List UInt8) : UInt8 :=
  (presented.zip expected).foldl (fun bits pair => bits ||| (pair.1 ^^^ pair.2)) 0

/-- Whether two tokens are the same.  The time that this takes does not depend on where they differ.
-/
def tokensMatch (presented expected : String) : Bool :=
  let presented := Text.utf8 presented
  let expected := Text.utf8 expected
  presented.length == expected.length && difference presented expected == 0

/-- Admits an administrator. -/
def requireAdmin (app : App σ) (request : Incoming) : StateM (World σ) (Except Refusal Unit) := do
  match app.adminToken with
  | none => return .error (.forbidden "principal lookup is disabled")
  | some expected =>
    let presented := bearerToken? request
    if presented.any fun token => tokensMatch token expected then return .ok ()
    else
      World.report (.lookupRejected presented.isSome)
      return .error (.unauthorized "admin token required")

/-- What an administrator is told of a principal. -/
def description (now : Instant) (username : String) (principal : Principal) : Outgoing :=
  let token := principal.token
  ok ([("username", .str username), ("principal", .str principal.name),
    ("principal_type", .str principal.type.name), ("expires_at", .str token.expiresAt.rfc3339)] ++
    (token.issuedAt.toList.map fun issued => ("issued_at", .str issued.rfc3339)) ++
    [("scopes", .arr (token.scopes.map .str)), ("expired", .bool (token.expired now))])

/-- Looks up the principal that is stored under a name. -/
def lookUp (app : App σ) (now : Instant) (username : String) (request : Incoming) :
    StateM (World σ) Outgoing := do
  match ← app.requireAdmin request with
  | .error refusal => return refusal.response
  | .ok _ =>
    match (← get).store.get? username with
    | some principal => return description now username principal
    | none => return (Refusal.notFound s!"No principal bound to '{username}'").response

/-- Where a request goes. -/
inductive Route where
  | health
  | ready
  | login
  | principal (segment : List Char)
  | unknown
  deriving DecidableEq, Repr

/-- The route of a path. -/
def Route.ofPath (path : List Char) : Route :=
  if path = "/health".toList then .health
  else if path = "/ready".toList then .ready
  else if path = "/v1/sasl/plain".toList then .login
  else
    match dropFront? "/v1/principals/".toList path with
    | some segment =>
      if segment.isEmpty || segment.contains '/' then .unknown else .principal segment
    | none => .unknown

/-- The name in a segment of a path. -/
def username? (segment : List Char) : Option String :=
  Text.ofUtf8? (Url.Percent.decode (Text.utf8 (String.ofList segment)))

/-- Answers a request to read. -/
def read (app : App σ) (now : Instant) (request : Incoming) (route : Route) :
    StateM (World σ) Outgoing := do
  match route with
  | .health => return health
  | .ready => return app.ready (← get).store
  | .principal segment =>
    match username? segment with
    | none => return plain 400 "Invalid URL: Invalid UTF-8 in `username`"
    | some username => app.lookUp now username request
  | _ => return { status := 404 }

/-- The response to a method that a route does not have. -/
def notAllowed (methods : String) : Outgoing :=
  { status := 405, allow := some methods }

/-- Answers a request; a failed login is reported under the identifier given. -/
def serve (app : App σ) (now : Instant) (id : ErrorId) (request : Incoming) :
    StateM (World σ) Outgoing := do
  match Route.ofPath request.path with
  | .unknown => return { status := 404 }
  | .login => if request.method = "POST" then app.logIn id request else return notAllowed "POST"
  | route =>
    if request.method = "GET" then app.read now request route
    else if request.method = "HEAD" then
      return { (← app.read now request route) with headOnly := true }
    else return notAllowed "GET,HEAD"

end App

end BearerLogin.Http
