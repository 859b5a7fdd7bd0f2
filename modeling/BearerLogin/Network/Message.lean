import BearerLogin.Network
import BearerLogin.Text.Decimal

/-! Requests and replies as they pass over a connection.  Every request has a connection of its own,
whose end is the end of the reply at the latest. -/

namespace BearerLogin

namespace Request

/-- What is asked of the host: the path and the query. -/
def target (request : Request) : String :=
  let path := request.url.path.render
  (if path.isEmpty then "/" else path) ++ Url.renderPart "?" request.url.query

/-- The host and the port as they stand in a header. -/
def hostHeader (request : Request) : String :=
  match request.url.authority with
  | some authority =>
    authority.host.render ++ (match authority.port with | some port => s!":{port}" | none => "")
  | none => ""

/-- The headers. -/
def headers (request : Request) : List (String × String) :=
  [("host", request.hostHeader), ("accept", "*/*"), ("connection", "close")] ++
    (request.authorization.map fun value => ("authorization", value)) ++
    (request.contentType.toList.map fun value => ("content-type", value)) ++
    (if request.method == "GET" then []
      else [("content-length", toString request.body.utf8ByteSize)])

/-- A request as it is sent. -/
def toMessage (request : Request) : List UInt8 :=
  let first := s!"{request.method} {request.target} HTTP/1.0\r\n"
  let rest := request.headers.map fun (key, value) => s!"{key}: {value}\r\n"
  Text.utf8 (first ++ String.join rest ++ "\r\n" ++ request.body)

end Request

namespace Reply

/-- The lines of the head of a message, and its body; `none` if the head does not end. -/
def splitHead (line : List UInt8) : List UInt8 → Option (List (List UInt8) × List UInt8)
  | [] => none
  | 13 :: 10 :: rest =>
    if line.isEmpty then some ([], rest)
    else (splitHead [] rest).map fun (lines, body) => (line.reverse :: lines, body)
  | b :: rest => splitHead (b :: line) rest

/-- Bytes as characters of the same number. -/
def characters (bytes : List UInt8) : String :=
  String.ofList (bytes.map fun b => Char.ofNat b.toNat)

/-- The status in the first line of a message. -/
def statusOf? (line : List UInt8) : Option Nat :=
  match (characters line).splitOn " " with
  | version :: status :: _ =>
    if version.startsWith "HTTP/" then Text.Decimal.read? 999 status else none
  | _ => none

/-- The length that a header declares, if it is the one that does. -/
def lengthIn? (line : List UInt8) : Option Nat :=
  let name := line.takeWhile (· ≠ 58)
  if (characters name).toLower == "content-length" then
    let value := (characters (line.drop (name.length + 1))).toList
    Text.Decimal.read? Text.Decimal.max64 (String.ofList (value.filter (· ≠ ' ')))
  else none

/-- Reads a reply from everything that came over its connection. -/
def ofMessage (bytes : List UInt8) : Reply :=
  match splitHead [] bytes with
  | some (first :: headers, body) =>
    match statusOf? first with
    | some status =>
      match headers.findSome? lengthIn? with
      | some length => .answered status (body.take length) (length ≤ body.length)
      | none => .answered status body true
    | none => .lost
  | _ => .lost

end Reply

end BearerLogin
