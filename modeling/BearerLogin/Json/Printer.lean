import BearerLogin.Double.Shortest
import BearerLogin.Json.Value

/-! JSON values as text, without spaces.  Strings escape what JSON demands and nothing else, with
the short escapes where there are any; doubles are written with the shortest digits that read back.
-/

namespace BearerLogin.Json

/-- A hexadecimal digit in lower case. -/
def hexDigit (n : Nat) : Char := Nat.digitChar n

/-- How one character is written inside a string. -/
def escapeChar (c : Char) : List Char :=
  match c with
  | '"' => ['\\', '"']
  | '\\' => ['\\', '\\']
  | '\n' => ['\\', 'n']
  | '\r' => ['\\', 'r']
  | '\t' => ['\\', 't']
  | '\x08' => ['\\', 'b']
  | '\x0c' => ['\\', 'f']
  | c =>
    if c.toNat < 32 then
      ['\\', 'u', '0', '0', hexDigit (c.toNat / 16), hexDigit (c.toNat % 16)]
    else [c]

/-- A string in quotes. -/
def renderString (s : String) : List Char :=
  '"' :: (s.toList.flatMap escapeChar ++ ['"'])

mutual

/-- A value as text. -/
def renderChars : Json → List Char
  | .null => ['n', 'u', 'l', 'l']
  | .bool true => ['t', 'r', 'u', 'e']
  | .bool false => ['f', 'a', 'l', 's', 'e']
  | .int n => (toString n).toList
  | .real d => d.render.toList
  | .str s => renderString s
  | .arr [] => ['[', ']']
  | .arr (item :: rest) => '[' :: (renderChars item ++ renderItems rest)
  | .obj [] => ['\x7b', '\x7d']
  | .obj ((key, value) :: rest) =>
    '\x7b' :: (renderString key ++ ':' :: (renderChars value ++ renderMembers rest))

/-- The items after the first one, and the end of the list. -/
def renderItems : List Json → List Char
  | [] => [']']
  | item :: rest => ',' :: (renderChars item ++ renderItems rest)

/-- The members after the first one, and the end of the object. -/
def renderMembers : List (String × Json) → List Char
  | [] => ['\x7d']
  | (key, value) :: rest =>
    ',' :: (renderString key ++ ':' :: (renderChars value ++ renderMembers rest))

end

/-- A value as text. -/
def render (value : Json) : String :=
  String.ofList value.renderChars

end BearerLogin.Json
