import BearerLogin.Callback
import BearerLogin.Text.Utf8

/-! The SASL exchange of the mechanism PLAIN.  The client sends one message: an authorization
identity, which may be empty, the name under which it logs in, and a password, separated by NUL.  A
message that is not well-formed, or a login that fails, leaves the exchange open. -/

namespace BearerLogin

/-- What a well-formed message carries. -/
structure Credentials where
  username : String
  password : String
  deriving DecidableEq, Repr

/-- Why a message is not well-formed. -/
inductive MessageFault where
  | notText
  | notThreeParts
  | noUsername
  | noPassword
  | foreignIdentity
  deriving DecidableEq, Repr

/-- The wording of a fault. -/
def MessageFault.message : MessageFault → String
  | .notText => "Invalid SASL/PLAIN response: not valid UTF-8"
  | .notThreeParts => "Invalid SASL/PLAIN response: expected 3 tokens"
  | .noUsername => "Authentication failed: username not specified"
  | .noPassword => "Authentication failed: password not specified"
  | .foreignIdentity =>
    "Authentication failed: Client requested an authorization id that is different from username"

namespace Credentials

/-- The parts of a message between the NULs. -/
def parts (chars : List Char) : List (List Char) :=
  Url.parts (· == '\x00') chars

/-- Reads a message.  The authorization identity is empty or the name itself. -/
def ofMessage (bytes : List UInt8) : Except MessageFault Credentials :=
  match Text.ofUtf8? bytes with
  | none => .error .notText
  | some text =>
    match parts text.toList with
    | [identity, username, password] =>
      if username.isEmpty then .error .noUsername
      else if password.isEmpty then .error .noPassword
      else if !identity.isEmpty && identity ≠ username then .error .foreignIdentity
      else .ok ⟨String.ofList username, String.ofList password⟩
    | _ => .error .notThreeParts

/-- The message of a client. -/
def toMessage (identity username password : String) : List UInt8 :=
  Text.utf8 (String.ofList
    (identity.toList ++ '\x00' :: (username.toList ++ '\x00' :: password.toList)))

end Credentials

/-- Why a message does not end an exchange. -/
inductive ExchangeError where
  | invalidResponse (detail : String)
  | authentication (failure : LoginFailure)
  | alreadyComplete
  deriving DecidableEq, Repr

/-- The wording of an error. -/
def ExchangeError.message : ExchangeError → String
  | .invalidResponse detail => detail
  | .authentication failure => failure.message
  | .alreadyComplete => "SASL/PLAIN authentication already complete"

/-- An exchange: the identity that the client is authorized for and its principal, once it has
logged in. -/
structure Exchange where
  authorizationId : Option String := none
  principal : Option Principal := none
  deriving Repr

namespace Exchange

/-- Whether the exchange is over. -/
def isComplete (exchange : Exchange) : Bool :=
  exchange.principal.isSome

/-- The callbacks for the credentials of a message. -/
def callbacksFor (credentials : Credentials) : List Callback :=
  [.name { defaultName := some credentials.username },
    .password { password := credentials.password }]

/-- Takes a message of the client; a failed login is reported under the identifier given. -/
def respond (service : Service σ) (id : ErrorId) (exchange : Exchange) (message : List UInt8) :
    StateM (World σ) (Except ExchangeError Unit × Exchange) := do
  if exchange.isComplete then return (.error .alreadyComplete, exchange)
  match Credentials.ofMessage message with
  | .error fault =>
    World.report (.malformed fault.message)
    return (.error (.invalidResponse fault.message), exchange)
  | .ok credentials =>
    match (← service.handle id (callbacksFor credentials)).1 with
    | .error failure => return (.error (.authentication failure), exchange)
    | .ok principal =>
      World.report (.exchanged credentials.username principal.display)
      return (.ok (), ⟨some credentials.username, some principal⟩)

end Exchange

end BearerLogin
