import BearerLogin.Text.Utf8

/-! Percent encoding: a byte that may not stand in a place is written as `%` and two upper-case
hexadecimal digits.  Each place has its own set of characters that are encoded; characters outside
ASCII always are.  The form encoding of name and value pairs is built on the same digits. -/

namespace BearerLogin.Url.Percent

/-- The value of a hexadecimal digit. -/
def hexValue? (b : UInt8) : Option Nat :=
  let n := b.toNat
  if 48 ≤ n ∧ n ≤ 57 then some (n - 48)
  else if 65 ≤ n ∧ n ≤ 70 then some (n - 55)
  else if 97 ≤ n ∧ n ≤ 102 then some (n - 87)
  else none

/-- An upper-case hexadecimal digit. -/
def hexDigit (n : Nat) : Char :=
  if n < 10 then Char.ofNat (48 + n) else Char.ofNat (55 + n)

/-- The escape for a byte. -/
def escape (b : UInt8) : List Char :=
  ['%', hexDigit (b.toNat / 16), hexDigit (b.toNat % 16)]

/-- Whether a character is a control character of ASCII. -/
def isControl (c : Char) : Bool :=
  c.toNat < 32 || c.toNat == 127

/-- The characters encoded in a fragment. -/
def inFragment (c : Char) : Bool :=
  isControl c || c == ' ' || c == '"' || c == '<' || c == '>' || c.toNat == 96

/-- The characters encoded in a path. -/
def inPath (c : Char) : Bool :=
  inFragment c || c == '#' || c == '?' || c == '\x7b' || c == '\x7d'

/-- The characters encoded in a user name or a password. -/
def inUserinfo (c : Char) : Bool :=
  inPath c || "/:;=@[\\]^|".toList.contains c

/-- The characters encoded in a query. -/
def inQuery (c : Char) : Bool :=
  isControl c || c == ' ' || c == '"' || c == '#' || c == '<' || c == '>'

/-- The characters encoded in the query of a special scheme. -/
def inSpecialQuery (c : Char) : Bool :=
  inQuery c || c.toNat == 39

/-- How one character is written, given which ASCII characters are encoded. -/
def encodeChar (encoded : Char → Bool) (c : Char) : List Char :=
  if c.toNat < 128 ∧ !encoded c then [c] else (String.utf8EncodeChar c).flatMap escape

/-- The encoding of a text. -/
def encode (encoded : Char → Bool) (chars : List Char) : List Char :=
  chars.flatMap (encodeChar encoded)

/-- The bytes that an encoded text stands for.  A percent sign without two digits behind it stands
for itself. -/
def decode : List UInt8 → List UInt8
  | 37 :: a :: b :: rest =>
    match hexValue? a, hexValue? b with
    | some high, some low => UInt8.ofNat (16 * high + low) :: decode rest
    | _, _ => 37 :: decode (a :: b :: rest)
  | b :: rest => b :: decode rest
  | [] => []

/-- Whether a byte stands for itself in a form. -/
def isPlainInForm (b : UInt8) : Bool :=
  let n := b.toNat
  (48 ≤ n && n ≤ 57) || (65 ≤ n && n ≤ 90) || (97 ≤ n && n ≤ 122) || n == 42 || n == 45 ||
    n == 46 || n == 95

/-- How one byte is written in a form. -/
def formByte (b : UInt8) : List Char :=
  if isPlainInForm b then [Char.ofNat b.toNat] else if b = 32 then ['+'] else escape b

/-- How a text is written in a form. -/
def formText (text : String) : String :=
  String.ofList ((Text.utf8 text).flatMap formByte)

/-- Names and values as a form. -/
def form (pairs : List (String × String)) : String :=
  "&".intercalate (pairs.map fun (name, value) => formText name ++ "=" ++ formText value)

end BearerLogin.Url.Percent
