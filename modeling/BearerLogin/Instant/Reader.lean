import BearerLogin.Instant
import BearerLogin.Text.Blank

/-! Reading instants from a generous form of RFC 3339: blanks may stand between the parts, a leading
sign lifts the limit of four digits from the year, a blank may stand for the `T`, months, days and
times may have one digit, and the offset may be `Z`, `UTC` or hours and minutes with or without
separators. -/

namespace BearerLogin.Instant

/-- Why a text is no instant. -/
inductive Fault where
  | outOfRange
  | impossible
  | invalid
  | tooShort
  | tooLong
  deriving DecidableEq, Repr

/-- The wording of a fault. -/
def Fault.message : Fault → String
  | .outOfRange => "input is out of range"
  | .impossible => "no possible date and time matching input"
  | .invalid => "input contains invalid characters"
  | .tooShort => "premature end of input"
  | .tooLong => "trailing input"

/-- A step of reading: takes characters from the front. -/
abbrev Step := StateT (List Char) (Except Fault)

/-- Drops the blanks at the front. -/
def dropBlanks : Step Unit :=
  modify (·.dropWhile Text.isBlank)

/-- The number that decimal digits stand for. -/
def digitsValue (digits : List Char) : Nat :=
  digits.foldl (fun n c => 10 * n + (c.toNat - '0'.toNat)) 0

/-- Takes digits, at least one and at most `limit`. -/
def takeDigits (limit : Nat) : Step (List Char) := do
  let chars ← get
  let digits := (chars.take limit).takeWhile Char.isDigit
  if chars.isEmpty then throw .tooShort
  else if digits.isEmpty then throw .invalid
  else
    set (chars.drop digits.length)
    return digits

/-- Takes a number of at most `limit` digits. -/
def takeNumber (limit : Nat) : Step Nat := do
  return digitsValue (← takeDigits limit)

/-- Takes a number that has to lie between two others. -/
def takeBetween (low high : Nat) : Step Nat := do
  dropBlanks
  let n ← takeNumber 2
  if low ≤ n ∧ n ≤ high then return n else throw .outOfRange

/-- Takes a given character after any blanks. -/
def takeSeparator (c : Char) : Step Unit := do
  dropBlanks
  match ← get with
  | [] => throw .tooShort
  | d :: rest => if d = c then set rest else throw .invalid

/-- Takes a year: four digits at most, or a sign and any number of digits. -/
def takeYear : Step Int := do
  dropBlanks
  let chars ← get
  let year : Int ← (do
    match chars with
    | '-' :: rest => set rest; return -(← takeNumber rest.length : Int)
    | '+' :: rest => set rest; return (← takeNumber rest.length : Int)
    | _ => return (← takeNumber 4 : Int))
  if -2147483648 ≤ year ∧ year ≤ 2147483647 then return year else throw .outOfRange

/-- Takes a day. -/
def takeDate : Step Date := do
  let year ← takeYear
  takeSeparator '-'
  let month ← takeBetween 1 12
  takeSeparator '-'
  let day ← takeBetween 1 31
  return ⟨year, month, day⟩

/-- Takes what divides the day from the time. -/
def takeDivider : Step Unit := do
  match ← get with
  | [] => throw .tooShort
  | c :: rest => if c = 't' ∨ c = 'T' ∨ c = ' ' then set rest else throw .invalid

/-- Takes the fraction of a second, in nanoseconds; digits after the ninth do not count. -/
def takeFraction : Step Nat := do
  match ← get with
  | '.' :: rest =>
    set rest
    let digits ← takeDigits 9
    modify (·.dropWhile Char.isDigit)
    return digitsValue digits * Nat.pow 10 (9 - digits.length)
  | _ => return 0

/-- Takes a time of day, as seconds since midnight and nanoseconds. -/
def takeTime : Step (Nat × Nat) := do
  let hour ← takeBetween 0 23
  takeSeparator ':'
  let minute ← takeBetween 0 59
  takeSeparator ':'
  let second ← takeBetween 0 60
  let nanos ← takeFraction
  dropBlanks
  let base := hour * 3600 + minute * 60
  if second = 60 then return (base + 59, nanos + 1000000000) else return (base + second, nanos)

/-- Takes two characters, both of which have to be digits.  A single character of more than one byte
is not too short but wrong. -/
def takeTwoDigits : Step Nat := do
  match ← get with
  | a :: b :: rest =>
    if a.isDigit ∧ b.isDigit then
      set rest
      return digitsValue [a, b]
    else throw .invalid
  | [a] => throw (if a.toNat < 128 then .tooShort else .invalid)
  | [] => throw .tooShort

/-- Takes the hours and minutes of an offset, in seconds. -/
def takeOffsetDigits : Step Int := do
  let hours ← takeTwoDigits
  modify (·.dropWhile fun c => c = ':' ∨ Text.isBlank c)
  let minutes ← takeTwoDigits
  if 59 < minutes then throw .outOfRange
  else return hours * 3600 + minutes * 60

/-- Takes an offset from universal time, in seconds. -/
def takeOffset : Step Int := do
  match ← get with
  | [] => throw .tooShort
  | c :: rest =>
    if c = 'Z' ∨ c = 'z' then set rest; return 0
    else if ((c :: rest).take 3).map Char.toUpper = ['U', 'T', 'C'] then set (rest.drop 2); return 0
    else if c = '+' then set rest; takeOffsetDigits
    else if c = '-' ∨ c = '\u2212' then set rest; return -(← takeOffsetDigits)
    else throw .invalid

/-- The instant of a local day and time with an offset. -/
def resolve (day : Date) (time : Nat × Nat) (offset : Int) : Except Fault Instant :=
  if !day.exists then .error .outOfRange
  else if secondsPerDay ≤ offset.natAbs then .error .outOfRange
  else
    let seconds := day.toDays * secondsPerDay + time.1 - offset
    if minSeconds ≤ seconds ∧ seconds ≤ maxSeconds then .ok ⟨seconds, time.2⟩
    else .error .impossible

/-- Reads an instant. -/
def ofText (text : String) : Except Fault Instant := do
  let read : Step (Date × (Nat × Nat) × Int) := do
    let day ← takeDate
    takeDivider
    let time ← takeTime
    let offset ← takeOffset
    dropBlanks
    return (day, time, offset)
  let ((day, time, offset), rest) ← read.run text.toList
  if rest.isEmpty then resolve day time offset else throw .tooLong

end BearerLogin.Instant
