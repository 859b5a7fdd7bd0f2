import BearerLogin.Url.Host

/-! URLs in normal form.  The special schemes always have an authority with a host and a path of
segments; any other scheme may lack the authority, and its path is then either one of segments or a
plain text.  All texts in a URL are percent-encoded already. -/

namespace BearerLogin

namespace Url

/-- Who and where: everything between `//` and the path. -/
structure Authority where
  username : String := ""
  password : Option String := none
  host : Host
  /-- The port, unless it is the usual one of the scheme. -/
  port : Option Nat := none
  deriving DecidableEq, Repr

/-- What stands behind the authority. -/
inductive Path where
  | segments (list : List String)
  /-- A text that does not begin with a slash. -/
  | rootless (text : String)
  deriving DecidableEq, Repr

/-- The path as text. -/
def Path.render : Path → String
  | .segments list => String.join (list.map fun segment => "/" ++ segment)
  | .rootless text => text

end Url

/-- A URL. -/
structure Url where
  scheme : String
  authority : Option Url.Authority
  path : Url.Path
  query : Option String := none
  fragment : Option String := none
  deriving DecidableEq, Repr

namespace Url

/-- The user name and the password as they stand in front of the host. -/
def Authority.renderUser (a : Authority) : String :=
  match a.password with
  | some password => a.username ++ ":" ++ password ++ "@"
  | none => if a.username.isEmpty then "" else a.username ++ "@"

/-- The authority as text. -/
def Authority.render (a : Authority) : String :=
  "//" ++ a.renderUser ++ a.host.render ++
    (match a.port with | some port => s!":{port}" | none => "")

/-- The part of a URL before the path.  Without an authority, a path that begins with two slashes is
kept apart from the scheme. -/
def renderFront (url : Url) : String :=
  match url.authority with
  | some authority => url.scheme ++ ":" ++ authority.render
  | none => url.scheme ++ ":" ++ (if url.path.render.startsWith "//" then "/." else "")

/-- An optional part behind the character that introduces it. -/
def renderPart (mark : String) : Option String → String
  | some text => mark ++ text
  | none => ""

/-- The URL as text. -/
def render (url : Url) : String :=
  url.renderFront ++ url.path.render ++ renderPart "?" url.query ++ renderPart "#" url.fragment

/-- The URL without user name and password. -/
def withoutUser (url : Url) : Url :=
  { url with
    authority := url.authority.map fun a => { a with username := "", password := none } }

/-- The URL without its fragment. -/
def withoutFragment (url : Url) : Url :=
  { url with fragment := none }

end Url

end BearerLogin
