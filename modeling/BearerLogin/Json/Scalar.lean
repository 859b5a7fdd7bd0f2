import BearerLogin.Json.Cursor

/-! The parts of JSON text without inner structure: literals, numbers and strings.  A number that is
written without fraction and exponent and fits into 64 bits is an integer, except that `-0` is a
double; every other number is a double. -/

namespace BearerLogin.Json.Reader

/-- Whether the byte is an ASCII digit. -/
def isDigit (b : UInt8) : Bool := 48 ≤ b && b ≤ 57

/-- The value of an ASCII digit. -/
def digitValue (b : UInt8) : Nat := b.toNat - 48

/-- Reads the rest of a literal, of which the first letter has been read. -/
def literal : List UInt8 → Reader Unit
  | [] => return
  | expected :: rest => do
    match ← next with
    | none => failHere .endInValue
    | some b => if b = expected then literal rest else failHere .expectedIdentifier

def nullRest : List UInt8 := [117, 108, 108]
def trueRest : List UInt8 := [114, 117, 101]
def falseRest : List UInt8 := [97, 108, 115, 101]

/-- The length of the run of digits at the front. -/
def digitRun : List UInt8 → Nat
  | [] => 0
  | b :: rest => if isDigit b then digitRun rest + 1 else 0

/-- Moves behind `n` bytes. -/
def skipMany : Nat → Reader Unit
  | 0 => return
  | n + 1 => do skip; skipMany n

/-- Moves behind the digits at the front and tells how many there were. -/
def skipDigits : Reader Nat := do
  let n ← (fun c => .ok (digitRun c.rest) c : Reader Nat)
  skipMany n
  return n

/-- Takes digits as long as the number they continue fits into 64 bits.  The answer is the number,
how many digits were taken, and whether another digit follows. -/
def takeDigits (value taken : Nat) : List UInt8 → Nat × Nat × Bool
  | [] => (value, taken, false)
  | b :: rest =>
    if isDigit b then
      let longer := value * 10 + digitValue b
      if longer < 0x10000000000000000 then takeDigits longer (taken + 1) rest
      else (value, taken, true)
    else (value, taken, false)

/-- Reads digits that continue a number, as `takeDigits` does. -/
def readDigits (value : Nat) : Reader (Nat × Nat × Bool) := do
  let found ← (fun c => .ok (takeDigits value 0 c.rest) c : Reader (Nat × Nat × Bool))
  skipMany found.2.1
  return found

/-- A number as it is written. -/
inductive Number where
  | int (n : Int)
  | real (d : Double)
  deriving DecidableEq, Repr

/-- The double for a sign, a significand and an exponent. -/
def decimal (negative : Bool) (significand : Nat) (exponent : Int) : Reader Double :=
  match Double.ofDecimal? negative significand exponent with
  | some d => return d
  | none => failHere .numberOutOfRange

/-- The largest exponent that is kept; a larger one decides the result by its sign alone. -/
def maxExponent : Nat := 2147483647

/-- Takes the digits of an exponent as long as it is at most `maxExponent`; the flag tells whether a
digit was left because of that. -/
def takeExponent (value taken : Nat) : List UInt8 → Nat × Nat × Bool
  | [] => (value, taken, false)
  | b :: rest =>
    if isDigit b then
      let longer := value * 10 + digitValue b
      if longer ≤ maxExponent then takeExponent longer (taken + 1) rest
      else (value, taken + 1, true)
    else (value, taken, false)

/-- Reads an exponent behind its letter. -/
def readExponent (negative : Bool) (significand : Nat) (exponent : Int) : Reader Double := do
  skip
  let down ← do
    match ← peek with
    | some 43 => skip; pure false
    | some 45 => skip; pure true
    | _ => pure false
  match ← next with
  | none => failHere .endInValue
  | some b =>
    if !isDigit b then failHere .invalidNumber
    else
      let (value, taken, overflow) ←
        (fun c => .ok (takeExponent (digitValue b) 0 c.rest) c : Reader (Nat × Nat × Bool))
      skipMany taken
      if overflow then
        if significand ≠ 0 && !down then failHere .numberOutOfRange
        else
          let _ ← skipDigits
          decimal negative 0 0
      else decimal negative significand (if down then exponent - value else exponent + value)

/-- Whether the byte is the letter of an exponent. -/
def isExponentLetter (b : Option UInt8) : Bool := b == some 101 || b == some 69

/-- Reads a fraction behind its point.  Digits that no longer fit are dropped. -/
def readFraction (negative : Bool) (significand : Nat) (exponent : Int) : Reader Double := do
  skip
  let (value, taken, more) ← readDigits significand
  if taken = 0 && !more then
    match ← peek with
    | some _ => failAhead .invalidNumber
    | none => failAhead .endInValue
  else
    if more then let _ ← skipDigits
    let exponent := exponent - taken
    if isExponentLetter (← peek) then readExponent negative value exponent
    else decimal negative value exponent

/-- The integer, or the double that stands for it when it is `-0` or too small. -/
def wholeNumber (negative : Bool) (value : Nat) : Reader Number := do
  if !negative then return .int value
  else if value = 0 ∨ 0x8000000000000000 < value then return .real (← decimal true value 0)
  else return .int (-(value : Int))

/-- What may follow the digits of an integer: a fraction, an exponent or nothing. -/
def afterInteger (negative : Bool) (value : Nat) : Reader Number := do
  match ← peek with
  | some 46 => return .real (← readFraction negative value 0)
  | b =>
    if isExponentLetter b then return .real (← readExponent negative value 0)
    else wholeNumber negative value

/-- An integer of more than 64 bits: the digits that do not fit count as powers of ten. -/
def longInteger (negative : Bool) (value : Nat) : Reader Double := do
  let dropped ← skipDigits
  match ← peek with
  | some 46 => readFraction negative value dropped
  | b =>
    if isExponentLetter b then readExponent negative value dropped
    else decimal negative value dropped

/-- Reads a number, of which a minus sign has been read if it is negative. -/
def readNumber (negative : Bool) : Reader Number := do
  match ← next with
  | none => failHere .endInValue
  | some 48 =>
    match ← peek with
    | some b => if isDigit b then failAhead .invalidNumber else afterInteger negative 0
    | none => afterInteger negative 0
  | some b =>
    if isDigit b then
      let (value, _, more) ← readDigits (digitValue b)
      if more then return .real (← longInteger negative value)
      else afterInteger negative value
    else failHere .invalidNumber

/-- The value of a hexadecimal digit. -/
def hexValue? (b : UInt8) : Option Nat :=
  let n := b.toNat
  if 48 ≤ n ∧ n ≤ 57 then some (n - 48)
  else if 97 ≤ n ∧ n ≤ 102 then some (n - 87)
  else if 65 ≤ n ∧ n ≤ 70 then some (n - 55)
  else none

/-- The number written with four hexadecimal digits. -/
def hexFour? (a b c d : UInt8) : Option Nat := do
  return (((← hexValue? a) * 16 + (← hexValue? b)) * 16 + (← hexValue? c)) * 16 + (← hexValue? d)

/-- Reads four hexadecimal digits. -/
def readHexFour : Reader Nat := do
  let rest ← (fun c => .ok c.rest c : Reader (List UInt8))
  match rest with
  | a :: b :: c :: d :: _ =>
    skipMany 4
    match hexFour? a b c d with
    | some n => return n
    | none => failHere .invalidEscape
  | _ =>
    skipMany rest.length
    failHere .endInString

/-- The UTF-8 encoding of a code point. -/
def utf8Point (point : Nat) : List UInt8 :=
  String.utf8EncodeChar (Char.ofNat point)

/-- Reads a low surrogate that has to follow the high surrogate `high`. -/
def readLowSurrogate (high : Nat) : Reader (List UInt8) := do
  match ← peek with
  | none => failHere .endInString
  | some b =>
    skip
    if b ≠ 92 then failHere .unexpectedEndOfEscape
    else
      match ← peek with
      | none => failHere .endInString
      | some b =>
        skip
        if b ≠ 117 then failHere .unexpectedEndOfEscape
        else
          let low ← readHexFour
          if low < 0xDC00 ∨ 0xDFFF < low then failHere .loneSurrogate
          else return utf8Point (0x10000 + (high - 0xD800) * 0x400 + (low - 0xDC00))

/-- Reads an escape behind its backslash and gives the bytes it stands for. -/
def readEscape : Reader (List UInt8) := do
  match ← next with
  | none => failHere .endInString
  | some 34 => return [34]
  | some 92 => return [92]
  | some 47 => return [47]
  | some 98 => return [8]
  | some 102 => return [12]
  | some 110 => return [10]
  | some 114 => return [13]
  | some 116 => return [9]
  | some 117 =>
    let n ← readHexFour
    if 0xDC00 ≤ n ∧ n ≤ 0xDFFF then failHere .loneSurrogate
    else if 0xD800 ≤ n ∧ n ≤ 0xDBFF then readLowSurrogate n
    else return utf8Point n
  | some _ => failHere .invalidEscape

/-- Reads the bytes of a string behind its opening quote; `taken` holds the bytes before, the last
one first. -/
def stringBytes (taken : List UInt8) : Nat → Reader (List UInt8)
  | 0 => failHere .endInString
  | fuel + 1 => do
    match ← peek with
    | none => failHere .endInString
    | some b =>
      skip
      if b = 34 then return taken.reverse
      else if b = 92 then stringBytes ((← readEscape).reverse ++ taken) fuel
      else if b < 32 then failHere .controlCharacter
      else stringBytes (b :: taken) fuel

/-- Reads a string behind its opening quote. -/
def readString : Reader String := do
  let bytes ← stringBytes [] ((← left) + 1)
  match Text.ofUtf8? bytes with
  | some s => return s
  | none => failHere .invalidCodePoint

end BearerLogin.Json.Reader
