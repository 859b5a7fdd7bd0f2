import BearerLogin.Url

/-! Reading URLs.  Control characters and blanks at both ends and tabs and line ends anywhere are
passed over; a URL has to name its scheme.  For the special schemes any number of slashes and
backslashes may stand in front of the authority. -/

namespace BearerLogin.Url

/-- The characters that the reader sees. -/
def clean (chars : List Char) : List Char :=
  let isEdge (c : Char) : Bool := c.toNat ≤ 32
  (((chars.dropWhile isEdge).reverse.dropWhile isEdge).reverse).filter fun c =>
    c ≠ '\t' ∧ c ≠ '\n' ∧ c ≠ '\r'

/-- Whether a character may stand in a scheme behind the first one. -/
def inScheme (c : Char) : Bool :=
  c.isAlphanum || c == '+' || c == '-' || c == '.'

/-- The scheme at the front, in lower case, and what follows its colon. -/
def takeScheme? (chars : List Char) : Option (String × List Char) :=
  let scheme := chars.takeWhile inScheme
  match scheme, chars.drop scheme.length with
  | first :: _, ':' :: rest =>
    if first.isAlpha then some (String.ofList (scheme.map Char.toLower), rest) else none
  | _, _ => none

/-- The special schemes other than `file`, and their usual ports. -/
def usualPorts : List (String × Nat) :=
  [("http", 80), ("https", 443), ("ws", 80), ("wss", 443), ("ftp", 21)]

/-- How the part behind the scheme is read. -/
inductive SchemeKind where
  | special (port : Nat)
  | file
  | plain
  deriving DecidableEq, Repr

/-- The kind of a scheme. -/
def SchemeKind.of (scheme : String) : SchemeKind :=
  if scheme = "file" then .file
  else
    match usualPorts.find? fun p => p.1 == scheme with
    | some (_, port) => .special port
    | none => .plain

/-- Whether backslashes count as slashes. -/
def SchemeKind.isSpecial : SchemeKind → Bool
  | .plain => false
  | _ => true

/-- Whether a character separates the segments of a path. -/
def isSlash (special : Bool) (c : Char) : Bool :=
  c == '/' || (special && c == '\\')

/-- The text before the first occurrence of a character, and what follows it if it occurs. -/
def cutAt (mark : Char) (chars : List Char) : List Char × Option (List Char) :=
  let before := chars.takeWhile (· ≠ mark)
  (before, if before.length < chars.length then some (chars.drop (before.length + 1)) else none)

/-- Whether a segment stands for the segment before it being left out. -/
def isDoubleDot (segment : List Char) : Bool :=
  ["..", "%2e.", ".%2e", "%2e%2e"].contains (String.ofList (segment.map Char.toLower))

/-- Whether a segment stands for nothing. -/
def isSingleDot (segment : List Char) : Bool :=
  [".", "%2e"].contains (String.ofList (segment.map Char.toLower))

/-- Whether a segment names a drive; no double dot leaves it out. -/
def isDrive (segment : List Char) : Bool :=
  match segment with
  | [letter, mark] => letter.isAlpha && (mark == ':' || mark == '|')
  | _ => false

/-- The segments, last one first, after a double dot. -/
def leaveOut : List (List Char) → List (List Char)
  | [] => []
  | segment :: others => if isDrive segment then segment :: others else others

/-- Puts segments behind those of `done`, which stand last one first.  A dot or a double dot at the
end leaves an empty segment. -/
def resolveDots (done : List (List Char)) : List (List Char) → List (List Char)
  | [] => done.reverse
  | segment :: rest =>
    let done :=
      if isDoubleDot segment then leaveOut done
      else if isSingleDot segment then done
      else segment :: done
    if rest.isEmpty && (isDoubleDot segment || isSingleDot segment) then ([] :: done).reverse
    else resolveDots done rest

/-- The segments of a path whose first slash was taken off. -/
def readSegments (special : Bool) (chars : List Char) : List (List Char) :=
  resolveDots [] ((parts (isSlash special) chars).map (Percent.encode Percent.inPath))

/-- A path from its segments. -/
def pathOf (segments : List (List Char)) : Path :=
  .segments (segments.map String.ofList)

/-- The path of a file, in which no empty segments stand at the front. -/
def filePath (chars : List Char) : Path :=
  let segments := (readSegments true chars).dropWhile (·.isEmpty)
  pathOf (if segments.isEmpty then [[]] else segments)

/-- The path behind an authority. -/
def readPath (special : Bool) (chars : List Char) : Path :=
  match chars with
  | [] => if special then .segments [""] else .segments []
  | c :: rest => pathOf (readSegments special (if isSlash special c then rest else c :: rest))

/-- A user name and an optional password, split at the first colon.  An empty password counts as
none. -/
def readUser (chars : List Char) : String × Option String :=
  let encoded (part : List Char) := String.ofList (Percent.encode Percent.inUserinfo part)
  match cutAt ':' chars with
  | (username, none) => (encoded username, none)
  | (username, some password) =>
    (encoded username, if password.isEmpty then none else some (encoded password))

/-- What stands before and behind the last `@`. -/
def cutAtLast (chars : List Char) : Option (List Char × List Char) :=
  let after := chars.reverse.takeWhile (· ≠ '@')
  if after.length < chars.length then
    some (chars.take (chars.length - after.length - 1), after.reverse)
  else none

/-- The host at the front of a text and what follows it.  A colon in brackets belongs to the host.
-/
def takeHost (bracketed : Bool) : List Char → List Char × List Char
  | [] => ([], [])
  | c :: rest =>
    if c == ':' && !bracketed then ([], c :: rest)
    else
      let bracketed := c == '[' || (bracketed && c ≠ ']')
      let (host, rest) := takeHost bracketed rest
      (c :: host, rest)

/-- The port that the digits stand for, continuing from `n`. -/
def portFrom (n : Nat) : List Char → Option Nat
  | [] => some n
  | c :: rest =>
    if c.isDigit then
      let n := 10 * n + (c.toNat - 48)
      if 65535 < n then none else portFrom n rest
    else none

/-- Reads what stands behind the host: nothing, or a colon and the digits of a port.  Any backslash
ends the port. -/
def readPort (usual : Option Nat) (chars : List Char) :
    Except Fault (Option Nat × List Char) :=
  match chars with
  | ':' :: rest =>
    let digits := rest.takeWhile (· ≠ '\\')
    match portFrom 0 digits with
    | none => .error .badPort
    | some port =>
      .ok (if digits.isEmpty ∨ some port = usual then none else some port,
        rest.drop digits.length)
  | rest => .ok (none, rest)

/-- Reads an authority: user, host and port.  `ended` tells whether the text behind it is missing,
as opposed to a path, a query or a fragment; the result has what is left of the text. -/
def readAuthority (kind : SchemeKind) (ended : Bool) (chars : List Char) :
    Except Fault (Authority × List Char) := do
  let (user, rest) :=
    match cutAtLast chars with
    | some (user, rest) => (some user, rest)
    | none => (none, chars)
  if user = some [] ∧ rest = [] ∧ !ended then throw .emptyHost
  let (username, password) := readUser (user.getD [])
  let (hostText, rest) := takeHost false rest
  if hostText.isEmpty ∧ kind.isSpecial then throw .emptyHost
  let host ← if kind.isSpecial then Host.ofSpecial hostText else Host.ofPlain hostText
  if host.isEmpty ∧ rest.head? = some ':' then throw .emptyHost
  let usual := match kind with | .special port => some port | _ => none
  let (port, rest) ← readPort usual rest
  if host.isEmpty ∧ (username ≠ "" ∨ password.isSome) then throw .emptyHost
  return (⟨username, password, host, port⟩, rest)

/-- Reads what stands behind the two slashes: the authority reaches to the next slash. -/
def readHierarchy (kind : SchemeKind) (ended : Bool) (chars : List Char) :
    Except Fault (Option Authority × Path) := do
  let special := kind.isSpecial
  let front := chars.takeWhile fun c => !isSlash special c
  let path := chars.drop front.length
  let (authority, rest) ← readAuthority kind (ended && path.isEmpty) front
  return (some authority, readPath special (rest ++ path))

/-- Reads what stands behind `file:`. -/
def readFile (chars : List Char) : Except Fault (Option Authority × Path) := do
  let noHost : Option Authority := some { host := .name "" }
  match chars with
  | a :: b :: rest =>
    if isSlash true a && isSlash true b then
      let front := rest.takeWhile fun c => !isSlash true c
      if front.isEmpty ∨ isDrive front then return (noHost, filePath rest)
      else
        let host ← Host.ofSpecial front
        let host := if host = .name "localhost" then .name "" else host
        return (some { host }, filePath (rest.drop front.length))
    else return (noHost, filePath chars)
  | _ => return (noHost, filePath chars)

/-- Reads what stands behind the colon of a scheme, up to the query. -/
def readBody (kind : SchemeKind) (ended : Bool) (chars : List Char) :
    Except Fault (Option Authority × Path) :=
  match kind, chars with
  | .special _, _ => readHierarchy kind ended (chars.dropWhile (isSlash true))
  | .file, _ => readFile chars
  | .plain, '/' :: '/' :: rest => readHierarchy kind ended rest
  | .plain, '/' :: rest => .ok (none, pathOf (readSegments false rest))
  | .plain, rest =>
    .ok (none, .rootless (String.ofList (Percent.encode Percent.isControl rest)))

/-- Reads a URL. -/
def ofText (text : String) : Except Fault Url := do
  match takeScheme? (clean text.toList) with
  | none => throw .relative
  | some (scheme, rest) =>
    let kind := SchemeKind.of scheme
    let (rest, fragment) := cutAt '#' rest
    let (body, query) := cutAt '?' rest
    let (authority, path) ← readBody kind (query.isNone && fragment.isNone) body
    let inQuery := if kind.isSpecial then Percent.inSpecialQuery else Percent.inQuery
    return {
      scheme, authority, path
      query := query.map fun q => String.ofList (Percent.encode inQuery q)
      fragment := fragment.map fun f => String.ofList (Percent.encode Percent.inFragment f) }

end BearerLogin.Url
