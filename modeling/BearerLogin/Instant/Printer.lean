import BearerLogin.Instant

/-! Instants as text: the form of RFC 3339, and a form for diagnostics that puts blanks where the
former has letters.  A fraction is written with three, six or nine digits, as many as it needs, and
a year outside 0 to 9999 with its sign. -/

namespace BearerLogin.Instant

/-- The decimal digits of a number, filled with zeros in front up to a width. -/
def padded (width n : Nat) : List Char :=
  let digits := Nat.toDigits 10 n
  List.replicate (width - digits.length) '0' ++ digits

/-- A year: four digits, or a sign and at least four digits. -/
def yearChars (year : Int) : List Char :=
  if 0 ≤ year ∧ year ≤ 9999 then padded 4 year.toNat
  else (if year < 0 then '-' else '+') :: padded 4 year.natAbs

/-- A day: year, month and day. -/
def dateChars (d : Date) : List Char :=
  yearChars d.year ++ '-' :: padded 2 d.month ++ '-' :: padded 2 d.day

/-- The fraction of a second, nothing if it is zero. -/
def fractionChars (nanos : Nat) : List Char :=
  if nanos = 0 then []
  else if nanos % 1000000 = 0 then '.' :: padded 3 (nanos / 1000000)
  else if nanos % 1000 = 0 then '.' :: padded 6 (nanos / 1000)
  else '.' :: padded 9 nanos

/-- The time of day.  A leap second is the sixtieth second of its minute. -/
def timeChars (a : Instant) : List Char :=
  let s := a.secondOfDay
  let leap := 1000000000 ≤ a.nanos
  let second := if leap then s % 60 + 1 else s % 60
  let nanos := if leap then a.nanos - 1000000000 else a.nanos
  padded 2 (s / 3600) ++ ':' :: padded 2 (s / 60 % 60) ++ ':' :: padded 2 second ++
    fractionChars nanos

/-- The instant as RFC 3339 writes it. -/
def rfc3339 (a : Instant) : String :=
  String.ofList (dateChars a.date ++ 'T' :: timeChars a ++ ['Z'])

/-- The instant as diagnostics write it. -/
def display (a : Instant) : String :=
  String.ofList (dateChars a.date ++ ' ' :: timeChars a ++ [' ', 'U', 'T', 'C'])

end BearerLogin.Instant
