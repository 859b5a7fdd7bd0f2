import BearerLogin.Text.Quoted

/-! What a client submits to log in, and what the password in it stands for: a marked access token,
an access token as such, or a client secret that buys one.  Which of these it is depends only on the
marker and on whether there is a token endpoint. -/

namespace BearerLogin

open Text

/-- What a client submits. -/
structure Submission where
  username : Option String := none
  password : Option String := none
  deriving DecidableEq, Repr

/-- The text of a submission for diagnostics, which does not show the password. -/
def Submission.debugText (s : Submission) : String :=
  Quoted.record "CredentialSubmission"
    [("username", Quoted.optional Quoted.text s.username),
      ("password_set", Quoted.flag s.password.isSome)]

/-- What a password can stand for. -/
inductive SourceKind where
  | marked
  | bare
  | clientCredentials
  deriving DecidableEq, Repr

namespace SourceKind

/-- The name of a kind. -/
def name : SourceKind → String
  | marked => "prefixed"
  | bare => "bare_password"
  | clientCredentials => "client_credentials"

/-- The text of a kind for diagnostics. -/
def debugText : SourceKind → String
  | marked => "Prefixed"
  | bare => "BarePassword"
  | clientCredentials => "ClientCredentials"

/-- All kinds. -/
def all : List SourceKind := [marked, bare, clientCredentials]

end SourceKind

/-- Where the access token of a login comes from. -/
inductive TokenSource where
  | marked (token : String)
  | bare (token : String)
  | clientCredentials (clientId : String) (secret : Option String)
  deriving DecidableEq, Repr

namespace TokenSource

/-- The kind of a source. -/
def kind : TokenSource → SourceKind
  | marked _ => .marked
  | bare _ => .bare
  | clientCredentials _ _ => .clientCredentials

/-- Whether the token has to be issued for the name under which the client logs in.  The account of
a client secret may have another name. -/
def requiresMatch : TokenSource → Bool
  | clientCredentials _ _ => false
  | _ => true

/-- The text of a source for diagnostics, which shows neither token nor secret. -/
def debugText : TokenSource → String
  | marked _ => "Prefixed(<redacted>)"
  | bare _ => "BarePassword(<redacted>)"
  | clientCredentials clientId secret =>
    Quoted.record "ClientCredentials"
      [("client_id", Quoted.text clientId), ("client_secret_set", Quoted.flag secret.isSome)]

end TokenSource

/-- What marks a password as an access token. -/
def tokenMarker : String := "$accessToken:"

/-- The rest of a list behind another list. -/
def dropFront? [DecidableEq α] : List α → List α → Option (List α)
  | [], rest => some rest
  | _ :: _, [] => none
  | a :: front, b :: rest => if a = b then dropFront? front rest else none

/-- The token in a marked password.  The marker is taken off once. -/
def markedToken? (password : String) : Option String :=
  (dropFront? tokenMarker.toList password.toList).map String.ofList

/-- What a password stands for; `hasEndpoint` tells whether there is a token endpoint. -/
def classify (username : String) (password : Option String) (hasEndpoint : Bool) : TokenSource :=
  match password with
  | none => .clientCredentials username none
  | some text =>
    match markedToken? text with
    | some token => .marked token
    | none => if hasEndpoint then .clientCredentials username (some text) else .bare text

/-- An access token that is ready to be validated. -/
structure ResolvedToken where
  bearerToken : String
  requiresMatch : Bool
  source : SourceKind
  deriving DecidableEq, Repr

/-- The text of a resolved token for diagnostics, which does not show the token. -/
def ResolvedToken.debugText (r : ResolvedToken) : String :=
  Quoted.record "ResolvedTokenRequest"
    [("bearer_token", Quoted.text "<redacted>"),
      ("require_username_match", Quoted.flag r.requiresMatch), ("source", r.source.debugText)]

end BearerLogin
