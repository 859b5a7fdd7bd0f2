import BearerLogin.Base64
import BearerLogin.Url

/-! Requests over HTTP and the networks that answer them.  A network may answer differently each
time; what it is then like is its state.  A user name and a password in a URL are not sent as part
of it, but as a basic authorization of their own. -/

namespace BearerLogin

/-- A request as it is sent. -/
structure Request where
  method : String
  url : Url
  /-- The values of all authorization headers. -/
  authorization : List String := []
  contentType : Option String := none
  body : String := ""
  deriving DecidableEq, Repr

/-- What becomes of a request: the connection is lost, or there is a response.  A response whose
body breaks off is not complete. -/
inductive Reply where
  | lost
  | answered (status : Nat) (body : List UInt8) (complete : Bool)
  deriving DecidableEq, Repr

/-- A network answers requests. -/
structure Network (ν : Type) where
  send : Request → ν → Reply × ν

/-- A response. -/
structure Response where
  status : Nat
  /-- The body, unless it broke off. -/
  body : Option (List UInt8)
  deriving DecidableEq, Repr

/-- Why a request has no useful response. -/
inductive HttpFault where
  | unbuildable (url : String)
  | unsent (url : String)
  | badStatus (status : Nat) (url : String)
  | badBody
  | tooManyAttempts
  deriving DecidableEq, Repr

namespace HttpFault

/-- Whether a status is one of failure, of the client or of the server. -/
def statusFails (status : Nat) : Bool :=
  400 ≤ status && status < 600

/-- The usual wording of a status of failure. -/
def reason (status : Nat) : String :=
  match reasons.find? fun r => r.1 == status with
  | some (_, text) => text
  | none => "<unknown status code>"
where
  /-- The statuses that have a usual wording. -/
  reasons : List (Nat × String) := [
    (400, "Bad Request"), (401, "Unauthorized"), (402, "Payment Required"), (403, "Forbidden"),
    (404, "Not Found"), (405, "Method Not Allowed"), (406, "Not Acceptable"),
    (407, "Proxy Authentication Required"), (408, "Request Timeout"), (409, "Conflict"),
    (410, "Gone"), (411, "Length Required"), (412, "Precondition Failed"),
    (413, "Payload Too Large"), (414, "URI Too Long"), (415, "Unsupported Media Type"),
    (416, "Range Not Satisfiable"), (417, "Expectation Failed"), (418, "I'm a teapot"),
    (421, "Misdirected Request"), (422, "Unprocessable Entity"), (423, "Locked"),
    (424, "Failed Dependency"), (425, "Too Early"), (426, "Upgrade Required"),
    (428, "Precondition Required"), (429, "Too Many Requests"),
    (431, "Request Header Fields Too Large"), (451, "Unavailable For Legal Reasons"),
    (500, "Internal Server Error"), (501, "Not Implemented"), (502, "Bad Gateway"),
    (503, "Service Unavailable"), (504, "Gateway Timeout"), (505, "HTTP Version Not Supported"),
    (506, "Variant Also Negotiates"), (507, "Insufficient Storage"), (508, "Loop Detected"),
    (510, "Not Extended"), (511, "Network Authentication Required")]

/-- The wording of a fault. -/
def message : HttpFault → String
  | unbuildable url => s!"builder error for url ({url})"
  | unsent url => s!"error sending request for url ({url})"
  | badStatus status url =>
    let side := if status < 500 then "client" else "server"
    s!"HTTP status {side} error ({status} {reason status}) for url ({url})"
  | badBody => "error decoding response body"
  | tooManyAttempts => "attempt to add with overflow"

end HttpFault

namespace Request

/-- The value of a basic authorization header. -/
def basic (user password : String) : String :=
  let plain := Text.utf8 (user ++ ":" ++ password)
  "Basic " ++ String.ofList ((Base64.encode Base64.standard plain).map fun b => Char.ofNat b.toNat)

/-- The user name and the password of a URL, decoded.  A password that is no text counts as none;
with a user name that is no text there is nothing to take out. -/
def userOf? (url : Url) : Option (String × Option String) := do
  let authority ← url.authority
  let username ← Text.ofUtf8? (Url.Percent.decode (Text.utf8 authority.username))
  let password := authority.password.bind fun p =>
    Text.ofUtf8? (Url.Percent.decode (Text.utf8 p))
  if username.isEmpty && password.isNone then none else some (username, password)

/-- The URL under which a request is reported: the user is left out where it is taken out. -/
def reported (url : Url) : Url :=
  if (userOf? url).isSome then url.withoutUser else url

/-- The basic authorization for the user in a URL. -/
def urlAuthorization (url : Url) : List String :=
  (userOf? url).toList.map fun (user, password) => basic user (password.getD "")

/-- The length that a URL in a request can have. -/
def maxLength : Nat := 65534

/-- Whether a host is written with characters that a request does not admit. -/
def hostRefused (host : Url.Host) : Bool :=
  host.render.any fun c => c == '"' || c.toNat == 96 || c == '\x7b' || c == '\x7d'

/-- Whether a request can be made for a URL. -/
def canRequest (url : Url) : Bool :=
  (url.scheme == "http" || url.scheme == "https") &&
    !(url.authority.any fun a => hostRefused a.host) && url.render.utf8ByteSize ≤ maxLength

end Request

namespace Network

/-- Sends a request to a URL.  The URL of the draft is replaced by the one that is sent. -/
def exchange (network : Network ν) (url : Url) (draft : Request) (state : ν) :
    Except HttpFault Response × ν :=
  let reported := (Request.reported url).render
  if Request.canRequest (Request.reported url) then
    let request := { draft with
      url := url.withoutUser.withoutFragment
      authorization := Request.urlAuthorization url ++ draft.authorization }
    match network.send request state with
    | (.lost, state) => (.error (.unsent reported), state)
    | (.answered status body complete, state) =>
      (.ok ⟨status, if complete then some body else none⟩, state)
  else (.error (.unbuildable reported), state)

/-- The network without any connection. -/
def unreachable : Network Unit where
  send _ _ := (.lost, ())

end Network

/-- What a scripted network does with a request. -/
inductive ScriptedReply where
  /-- The connection is closed without an answer. -/
  | drop
  | respond (status : Nat) (body : List UInt8) (complete : Bool)
  deriving DecidableEq, Repr

/-- A network that answers from a script: for a method and a URL, the replies to the first requests
in order, the last of which is repeated. -/
structure Script where
  replies : List (String × List ScriptedReply)
  /-- The requests that were received, oldest first. -/
  received : List Request := []
  deriving DecidableEq, Repr

namespace Script

/-- The name under which a script lists the replies to a request. -/
def keyOf (request : Request) : String :=
  request.method ++ " " ++ request.url.render

/-- The next reply to a request; without one in the script it is the status 404. -/
def next (script : Script) (request : Request) : ScriptedReply :=
  let key := keyOf request
  let earlier := (script.received.filter fun r => keyOf r == key).length
  match script.replies.find? fun r => r.1 == key with
  | none => .respond 404 [] true
  | some (_, replies) =>
    match replies[earlier]? with
    | some reply => reply
    | none => replies.getLast?.getD (.respond 404 [] true)

/-- The network that follows a script.  It has no secure connections. -/
def network : Network Script where
  send request script :=
    if request.url.scheme ≠ "http" then (.lost, script)
    else
      let received := { script with received := script.received ++ [request] }
      match script.next request with
      | .drop => (.lost, received)
      | .respond status body complete => (.answered status body complete, received)

end Script

end BearerLogin
