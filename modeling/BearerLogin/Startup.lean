import BearerLogin.Deployment
import BearerLogin.Http.Router

/-! The start of the server.  All its settings come from the environment; it starts only if they are
sound, and tells what it is about to serve. -/

namespace BearerLogin

/-- How much is logged. -/
inductive Verbosity where
  | error
  | warn
  | info
  | debug
  | trace
  deriving DecidableEq, Repr

namespace Verbosity

/-- The names of the verbosities; each also has a number. -/
def names : List (String × String × Verbosity) :=
  [("error", "1", error), ("warn", "2", warn), ("info", "3", info), ("debug", "4", debug),
    ("trace", "5", trace)]

/-- The number of a verbosity as it is written without a sign and without leading zeros. -/
def plainNumber (text : String) : Option String :=
  (Text.Decimal.read? Text.Decimal.max64 text).map fun (n : Nat) => toString n

/-- The verbosity of a name, in any case, or of a number; for any other text the usual one. -/
def ofText (text : String) : Verbosity :=
  let lower := String.ofList (text.toList.map Char.toLower)
  match names.find? fun v => v.1 == lower || plainNumber text == some v.2.1 with
  | some (_, _, verbosity) => verbosity
  | none => info

/-- Whether events of a level are logged. -/
def admits (verbosity : Verbosity) (level : Level) : Bool :=
  match verbosity, level with
  | error, _ => false
  | warn, .warn => true
  | warn, _ => false
  | info, .debug => false
  | _, _ => true

end Verbosity

/-- What the server logs. -/
inductive Notice where
  | starting (port : Nat) (tokenEndpoint issuer : Option String)
  | lookupDisabled
  | listening (address : String)
  | reported (event : Event)
  deriving DecidableEq, Repr

namespace Notice

/-- How severe a notice is. -/
def level : Notice → Level
  | .reported event => event.level
  | _ => .info

/-- The message of a notice. -/
def message : Notice → String
  | .starting .. => "Starting OAuth over PLAIN server"
  | .lookupDisabled => "OAUTH_PLAIN_ADMIN_TOKEN not set, principal lookup disabled"
  | .listening _ => "OAuth over PLAIN server listening"
  | .reported event => event.message

/-- The fields of a notice. -/
def fields : Notice → List (String × Json)
  | .starting port tokenEndpoint issuer =>
    [("port", .int port), ("token_endpoint", Event.optionalText tokenEndpoint),
      ("issuer", Event.optionalText issuer)]
  | .lookupDisabled => []
  | .listening address => [("addr", .str address)]
  | .reported event => event.fields

/-- A field as it stands in a line of the log. -/
def renderField (entry : String × Json) : String :=
  let value := match entry.2 with
    | .str text => text
    | value => value.render
  " " ++ entry.1 ++ "=" ++ value

/-- A notice as a line of the log. -/
def render (notice : Notice) : String :=
  notice.level.name ++ " " ++ notice.message ++ String.join (notice.fields.map renderField)

end Notice

/-- Why the server does not start. -/
inductive StartFault where
  | badPort
  | deployment (fault : DeploymentFault)
  | addressInUse
  deriving DecidableEq, Repr

namespace StartFault

/-- The text of a fault for diagnostics. -/
def debugText : StartFault → String
  | badPort => Text.Quoted.text "OAUTH_PLAIN_PORT must be a valid port number"
  | deployment (.settings fault) => fault.debugText
  | deployment fault => Text.Quoted.text fault.message
  | addressInUse =>
    Text.Quoted.record "Os"
      [("code", "98"), ("kind", "AddrInUse"),
        ("message", Text.Quoted.text "Address already in use")]

/-- What the server says when it does not start. -/
def message (fault : StartFault) : String :=
  "Error: " ++ fault.debugText

end StartFault

/-- A server that is ready to listen. -/
structure Server (ν : Type) where
  port : Nat
  verbosity : Verbosity
  app : Http.App (Backend ν)
  /-- What is told before the server listens. -/
  notices : List Notice

namespace Server

/-- The names in the environment of the settings that only the server has. -/
def portName : String := "OAUTH_PLAIN_PORT"
def verbosityName : String := "OAUTH_PLAIN_LOG_LEVEL"
def adminTokenName : String := "OAUTH_PLAIN_ADMIN_TOKEN"

/-- The names of everything that is looked up in the environment. -/
def environmentNames : List String :=
  [portName, verbosityName, adminTokenName] ++
    SettingKey.all.map fun key => environmentName key.name

/-- The port where none is set. -/
def usualPort : Nat := 8080

/-- The port to listen at. -/
def port? (environment : List (String × String)) : Option Nat :=
  match Sources.valueOf? portName environment with
  | none => some usualPort
  | some text => Text.Decimal.read? Text.Decimal.max16 text

/-- How much is to be logged. -/
def verbosityIn (environment : List (String × String)) : Verbosity :=
  match Sources.valueOf? verbosityName environment with
  | none => .info
  | some text => .ofText text

/-- The token of the administrator, unless it is empty. -/
def adminToken? (environment : List (String × String)) : Option String :=
  (Sources.valueOf? adminTokenName environment).filter (· ≠ "")

/-- Prepares a server, with the settings in the environment and nothing else. -/
def prepare (network : Network ν) (environment : List (String × String)) :
    Except StartFault (Server ν) := do
  let some port := port? environment | throw .badPort
  let settings ← (Settings.ofSources { environment }).mapError (.deployment <| .settings ·)
  let (service, configured) ←
    (Service.deploySigned network Service.mechanism settings).mapError .deployment
  let starting := Notice.starting port (settings.tokenEndpoint.map Url.render)
    (settings.jwt.map (·.issuer))
  let adminToken := adminToken? environment
  return {
    port, verbosity := verbosityIn environment
    app := { service, adminToken }
    notices :=
      [.reported configured, starting] ++ (if adminToken.isNone then [.lookupDisabled] else []) }

/-- The lines that are logged before the server listens. -/
def lines (server : Server ν) : List String :=
  (server.notices.filter fun notice => server.verbosity.admits notice.level).map Notice.render

end Server

end BearerLogin
