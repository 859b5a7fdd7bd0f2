import BearerLogin.Text.Printable

/-! Quoted text for diagnostics: a value written so that it can be read back by a person, with
escapes for quotes, backslashes and every character that has no visible form of its own.  Records,
tagged values and optional values are written around such texts. -/

namespace BearerLogin.Text.Quoted

/-- The lower-case hexadecimal digits of a number, at least one. -/
def hexDigits (n : Nat) : List Char :=
  Nat.toDigits 16 n

/-- The escape that names a character by its code point. -/
def codePoint (c : Char) : List Char :=
  ['\\', 'u', '\x7b'] ++ hexDigits c.toNat ++ ['\x7d']

/-- How one character is written between the quotes. -/
def encodeChar (c : Char) : List Char :=
  match c with
  | '\x00' => ['\\', '0']
  | '\t' => ['\\', 't']
  | '\n' => ['\\', 'n']
  | '\r' => ['\\', 'r']
  | '"' => ['\\', '"']
  | '\\' => ['\\', '\\']
  | c => if isExtending c || !isPrintable c then codePoint c else [c]

/-- The characters of a quoted text, quotes included. -/
def encodeChars (chars : List Char) : List Char :=
  '"' :: (chars.flatMap encodeChar ++ ['"'])

/-- The text in quotes. -/
def text (s : String) : String :=
  String.ofList (encodeChars s.toList)

/-- An optional value, given how a present one is written. -/
def optional (written : α → String) : Option α → String
  | none => "None"
  | some a => "Some(" ++ written a ++ ")"

/-- A truth value. -/
def flag (b : Bool) : String :=
  if b then "true" else "false"

/-- The fields of a record, separated by commas. -/
def fields (entries : List (String × String)) : String :=
  ", ".intercalate (entries.map fun (name, value) => name ++ ": " ++ value)

/-- A record with named fields; the field values are written already. -/
def record (name : String) (entries : List (String × String)) : String :=
  name ++ " \x7b " ++ fields entries ++ " \x7d"

/-- A record that hides some of its fields. -/
def recordWithHidden (name : String) (entries : List (String × String)) : String :=
  name ++ " \x7b " ++ fields entries ++ ", .. \x7d"

/-- A tagged value with one component, written already. -/
def tagged (name value : String) : String :=
  name ++ "(" ++ value ++ ")"

end BearerLogin.Text.Quoted
