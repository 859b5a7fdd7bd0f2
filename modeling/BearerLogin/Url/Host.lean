import BearerLogin.Url.Domain
import BearerLogin.Url.Percent

/-! The host of a URL: a name, an address of 32 bits or an address of 128 bits.  The host of a
special scheme is decoded, brought into the form of a domain name, and read as an address if its
last part is a number; any other host is a name that only has to be free of separating characters.
-/

namespace BearerLogin.Url

/-- The host of a URL. -/
inductive Host where
  | name (text : String)
  /-- An address of 32 bits. -/
  | ipv4 (address : Nat)
  /-- An address in eight pieces of 16 bits. -/
  | ipv6 (pieces : List Nat)
  deriving DecidableEq, Repr

/-- Why a text is no URL. -/
inductive Fault where
  | emptyHost
  | badDomain
  | badPort
  | badIpv4
  | badIpv6
  | forbiddenInHost
  | relative
  deriving DecidableEq, Repr

/-- The wording of a fault. -/
def Fault.message : Fault → String
  | .emptyHost => "empty host"
  | .badDomain => "invalid international domain name"
  | .badPort => "invalid port number"
  | .badIpv4 => "invalid IPv4 address"
  | .badIpv6 => "invalid IPv6 address"
  | .forbiddenInHost => "invalid domain character"
  | .relative => "relative URL without a base"

/-- The parts of a text between the occurrences of a separator. -/
def parts (isSeparator : Char → Bool) : List Char → List (List Char)
  | [] => [[]]
  | c :: rest =>
    if isSeparator c then [] :: parts isSeparator rest
    else
      match parts isSeparator rest with
      | [] => [[c]]
      | part :: others => (c :: part) :: others

namespace Host

/-- The value of a digit in any case. -/
def digitValue? (c : Char) : Option Nat :=
  if c.toNat < 128 then Percent.hexValue? c.toNat.toUInt8 else none

/-- The number that digits of a base stand for, continuing from `n`. -/
def numberFrom (base n : Nat) : List Char → Option Nat
  | [] => some n
  | c :: rest =>
    match digitValue? c with
    | some digit => if digit < base then numberFrom base (base * n + digit) rest else none
    | none => none

/-- One number of an address of 32 bits: hexadecimal behind `0x`, octal behind `0`, otherwise
decimal.  Nothing behind `0x` is zero. -/
def ipv4Number? : List Char → Option Nat
  | [] => none
  | '0' :: 'x' :: digits => numberFrom 16 0 digits
  | '0' :: 'X' :: digits => numberFrom 16 0 digits
  | '0' :: c :: digits => numberFrom 8 0 (c :: digits)
  | digits => numberFrom 10 0 digits

/-- The parts of a name, without an empty last one. -/
def dottedParts (name : List Char) : List (List Char) :=
  let all := parts (· == '.') name
  if 1 < all.length && all.getLast? == some [] then all.dropLast else all

/-- Whether the last part of a name is a number, so that the name has to be an address. -/
def endsInNumber (name : List Char) : Bool :=
  match (dottedParts name).getLast? with
  | none => false
  | some last => (last ≠ [] && last.all Char.isDigit) || (ipv4Number? last).isSome

/-- The address of a list of numbers: all but the last one are bytes, and the last one fills the
bytes that are left. -/
def ipv4OfNumbers? (numbers : List Nat) : Option Nat :=
  match numbers.reverse with
  | [] => none
  | last :: others =>
    let bytes := others.reverse
    if 3 < bytes.length ∨ bytes.any (255 < ·) ∨ 0x100000000 ≤ last * Nat.pow 256 bytes.length
    then none
    else some (bytes.foldl (256 * · + ·) 0 * Nat.pow 256 (4 - bytes.length) + last)

/-- The address of 32 bits that a name stands for. -/
def ipv4? (name : List Char) : Option Nat := do
  ipv4OfNumbers? (← (dottedParts name).mapM ipv4Number?)

/-- A byte in decimal digits without a leading zero. -/
def byte? : List Char → Option Nat
  | [] => none
  | ['0'] => some 0
  | '0' :: _ => none
  | digits => (numberFrom 10 0 digits).filter (· ≤ 255)

/-- The last two pieces of an address of 128 bits, written as four bytes. -/
def dottedPieces? (chars : List Char) : Option (List Nat) := do
  match ← (parts (· == '.') chars).mapM byte? with
  | [a, b, c, d] => some [256 * a + b, 256 * c + d]
  | _ => none

/-- One piece of an address of 128 bits. -/
def piece? (chars : List Char) : Option Nat :=
  if chars.isEmpty ∨ 4 < chars.length then none else numberFrom 16 0 chars

/-- Pieces separated by colons; the last one may be written as four bytes if `dotted` allows it. -/
def pieces? (dotted : Bool) : List (List Char) → Option (List Nat)
  | [] => some []
  | [last] => if dotted && last.contains '.' then dottedPieces? last else (piece? last).map ([·])
  | part :: rest => do
    let piece ← piece? part
    return piece :: (← pieces? dotted rest)

/-- The pieces on one side of a double colon, of which there may be none. -/
def sidePieces? (dotted : Bool) (chars : List Char) : Option (List Nat) :=
  if chars.isEmpty then some [] else pieces? dotted (parts (· == ':') chars)

/-- What stands before and behind the first double colon. -/
def aroundDoubleColon? : List Char → Option (List Char × List Char)
  | [] => none
  | ':' :: ':' :: rest => some ([], rest)
  | c :: rest => (aroundDoubleColon? rest).map fun (before, after) => (c :: before, after)

/-- The address of 128 bits that a text stands for.  A double colon stands for one or more pieces
that are zero. -/
def ipv6? (chars : List Char) : Option (List Nat) := do
  match aroundDoubleColon? chars with
  | none => (sidePieces? true chars).filter (·.length = 8)
  | some (before, after) =>
    let front ← sidePieces? false before
    let back ← sidePieces? true after
    if front.length + back.length ≤ 7 then
      some (front ++ List.replicate (8 - (front.length + back.length)) 0 ++ back)
    else none

/-- Reads a host in brackets. -/
def ofBracketed (chars : List Char) : Except Fault Host :=
  match chars.getLast? with
  | some ']' =>
    match ipv6? (chars.drop 1).dropLast with
    | some pieces => .ok (.ipv6 pieces)
    | none => .error .badIpv6
  | _ => .error .badIpv6

/-- Reads the host of a special scheme. -/
def ofSpecial (chars : List Char) : Except Fault Host :=
  if chars.head? = some '[' then ofBracketed chars
  else
    match (Text.ofUtf8? (Percent.decode (Text.utf8 (String.ofList chars)))).bind
        Domain.toAscii? with
    | none => .error .badDomain
    | some domain =>
      if domain.isEmpty then .error .emptyHost
      else if endsInNumber domain.toList then
        match ipv4? domain.toList with
        | some address => .ok (.ipv4 address)
        | none => .error .badIpv4
      else .ok (.name domain)

/-- The characters that no host holds as it is. -/
def isForbidden (c : Char) : Bool :=
  c.toNat == 0 || "\t\n\r #/:<>?@[\\]^|".toList.contains c

/-- Reads the host of any other scheme. -/
def ofPlain (chars : List Char) : Except Fault Host :=
  if chars.head? = some '[' then ofBracketed chars
  else if chars.any isForbidden then .error .forbiddenInHost
  else .ok (.name (String.ofList (Percent.encode Percent.isControl chars)))

/-- An address of 32 bits in decimal bytes. -/
def renderIpv4 (address : Nat) : String :=
  ".".intercalate ([3, 2, 1, 0].map fun i => toString (address / Nat.pow 256 i % 256))

/-- The number of zeros at the front. -/
def leadingZeros (pieces : List Nat) : Nat :=
  (pieces.takeWhile (· == 0)).length

/-- Where the longest run of at least two zeros begins, and its length; the first one of equally
long runs. -/
def longestZeros (index : Nat) (best : Nat × Nat) : List Nat → Nat × Nat
  | [] => best
  | piece :: rest =>
    let length := leadingZeros (piece :: rest)
    longestZeros (index + 1) (if 1 < length ∧ best.2 < length then (index, length) else best) rest

/-- Pieces in hexadecimal digits, separated by colons. -/
def renderPieces (pieces : List Nat) : String :=
  ":".intercalate (pieces.map fun piece => String.ofList (Nat.toDigits 16 piece))

/-- An address of 128 bits, with a double colon for its longest run of zeros. -/
def renderIpv6 (pieces : List Nat) : String :=
  let (start, length) := longestZeros 0 (0, 0) pieces
  if length = 0 then renderPieces pieces
  else renderPieces (pieces.take start) ++ "::" ++ renderPieces (pieces.drop (start + length))

/-- A host as it is written in a URL. -/
def render : Host → String
  | .name text => text
  | .ipv4 address => renderIpv4 address
  | .ipv6 pieces => "[" ++ renderIpv6 pieces ++ "]"

/-- Whether the host is the empty name. -/
def isEmpty : Host → Bool
  | .name text => text.isEmpty
  | _ => false

end Host

end BearerLogin.Url
