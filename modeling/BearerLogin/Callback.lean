import BearerLogin.Login
import BearerLogin.Settings

/-! The callbacks through which a SASL server asks for a login, and the handler that answers them.
The last name and the last password count.  A failure is logged once, under an identifier, and the
caller is told the identifier alone. -/

namespace BearerLogin

open Text

/-- Asks for the name under which a client logs in. -/
structure NameCallback where
  prompt : String := "username"
  defaultName : Option String := none
  deriving DecidableEq, Repr

/-- Asks whether a password is the right one. -/
structure PasswordCallback where
  password : String
  authenticated : Bool := false
  deriving DecidableEq, Repr

/-- A question of a SASL server. -/
inductive Callback where
  | name (callback : NameCallback)
  | password (callback : PasswordCallback)
  | unsupported (kind : String)
  deriving DecidableEq, Repr

namespace Callback

/-- The text of a callback for diagnostics, which does not show the password. -/
def debugText : Callback → String
  | .name c =>
    Quoted.tagged "Name" (Quoted.record "NameCallback"
      [("prompt", Quoted.text c.prompt),
        ("default_name", Quoted.optional Quoted.text c.defaultName)])
  | .password c =>
    Quoted.tagged "PlainAuthenticate" (Quoted.recordWithHidden "PlainAuthenticateCallback"
      [("authenticated", Quoted.flag c.authenticated)])
  | .unsupported kind => Quoted.tagged "Unsupported" (Quoted.text kind)

/-- The name that the last callback for a name has, given the one of those before. -/
def lastName (before : Option String) : List Callback → Option String
  | [] => before
  | .name c :: rest => lastName c.defaultName rest
  | _ :: rest => lastName before rest

/-- The last password, given the one of the callbacks before. -/
def lastPassword (before : Option String) : List Callback → Option String
  | [] => before
  | .password c :: rest => lastPassword (some c.password) rest
  | _ :: rest => lastPassword before rest

/-- The first callback that is not supported. -/
def firstUnsupported? : List Callback → Option String
  | [] => none
  | .unsupported kind :: _ => some kind
  | _ :: rest => firstUnsupported? rest

/-- Whether a callback is for a password. -/
def isPassword : Callback → Bool
  | .password _ => true
  | _ => false

/-- Marks the last callback for a password as authenticated. -/
def markLast : List Callback → List Callback
  | [] => []
  | .password c :: rest =>
    if rest.any isPassword then .password c :: markLast rest
    else .password { c with authenticated := true } :: rest
  | c :: rest => c :: markLast rest

end Callback

/-- A failure as the caller gets to know it: its message names nothing but the identifier. -/
structure LoginFailure where
  id : ErrorId
  kind : AuthError.Kind
  detail : String
  deriving DecidableEq, Repr

namespace LoginFailure

/-- The failure for an error. -/
def ofError (id : ErrorId) (error : AuthError) : LoginFailure :=
  ⟨id, error.kind, error.message⟩

/-- The message of a failure. -/
def message (failure : LoginFailure) : String :=
  s!"Authentication failed (ErrId: {failure.id.render})"

end LoginFailure

namespace Service

/-- The only mechanism that is spoken. -/
def mechanism : String := "PLAIN"

/-- A service with the settings given, unless it is asked for another mechanism; also the event that
tells so. -/
def configure (name : String) (settings : Settings) (peers : Peers σ) :
    Except SettingsFault (Service σ × Event) :=
  if name ≠ mechanism then .error (.unsupportedMechanism name)
  else
    .ok (⟨peers, settings.tokenEndpoint⟩,
      .configured (settings.tokenEndpoint.map Url.render) peers.validatorName)

/-- Logs in with the name and the password that callbacks give. -/
def answer (service : Service σ) (callbacks : List Callback) : LoginM σ Principal := do
  match Callback.firstUnsupported? callbacks with
  | some kind => LoginM.lacking (.unsupportedCallback kind)
  | none =>
    match Callback.lastPassword none callbacks with
    | none => LoginM.lacking .passwordMissing
    | some password =>
      match Callback.lastName none callbacks with
      | none => LoginM.lacking .usernameMissing
      | some username => service.authenticate ⟨some username, some password⟩

/-- The name that is logged with a failure. -/
def loggedName (callbacks : List Callback) : Option String :=
  if (Callback.firstUnsupported? callbacks).isSome then none
  else Callback.lastName none callbacks

/-- Answers callbacks.  After a login, the callback for the password that was checked is marked;
after a failure all callbacks are as they were.  A failure is reported under the identifier given.
-/
def handle (service : Service σ) (id : ErrorId) (callbacks : List Callback) :
    StateM (World σ) (Except LoginFailure Principal × List Callback) := do
  match ← (service.answer callbacks).run with
  | .ok principal => return (.ok principal, Callback.markLast callbacks)
  | .error error =>
    let failure := LoginFailure.ofError id error
    World.report (.failed id failure.kind (loggedName callbacks) failure.detail)
    return (.error failure, callbacks)

end Service

end BearerLogin
