import BearerLogin.Json.Printer
import BearerLogin.Text.Utf8

/-! Requests and responses of the service over HTTP. -/

namespace BearerLogin.Http

/-- A request that the service receives. -/
structure Incoming where
  method : String
  /-- The path, with a query if there is one. -/
  target : String
  /-- The headers in order; their names are compared without regard to case. -/
  headers : List (String × List UInt8) := []
  body : List UInt8 := []
  deriving DecidableEq, Repr

namespace Incoming

/-- A text in ASCII lower case. -/
def lower (text : String) : String :=
  String.ofList (text.toList.map Char.toLower)

/-- The first value of a header. -/
def header? (request : Incoming) (name : String) : Option (List UInt8) :=
  (request.headers.find? fun h => lower h.1 == name).map (·.2)

/-- The first value of a header as text: it has to consist of visible ASCII characters, blanks and
tabs. -/
def headerText? (request : Incoming) (name : String) : Option String :=
  (request.header? name).bind fun bytes =>
    if bytes.all fun b => b == 9 || (32 ≤ b && b < 127) then
      some (String.ofList (bytes.map fun b => Char.ofNat b.toNat))
    else none

/-- The path without the query. -/
def path (request : Incoming) : List Char :=
  request.target.toList.takeWhile fun c => c ≠ '?' && c ≠ '#'

end Incoming

/-- The body of a response. -/
inductive Body where
  | empty
  | text (content : String)
  | json (content : Json)
  deriving Repr

namespace Body

/-- The type of a body, as it is declared. -/
def contentType : Body → Option String
  | empty => none
  | text _ => some "text/plain; charset=utf-8"
  | json _ => some "application/json"

/-- A body as it is sent. -/
def render : Body → String
  | empty => ""
  | text content => content
  | json content => content.render

end Body

/-- A response of the service. -/
structure Outgoing where
  status : Nat
  body : Body := .empty
  /-- The methods that are allowed, where another one was used. -/
  allow : Option String := none
  /-- Whether the body is declared but not sent. -/
  headOnly : Bool := false
  deriving Repr

end BearerLogin.Http
