import BearerLogin.Text.Blank
import BearerLogin.Text.CodeRange

/-! Tables of code points in a written form: entries separated by blanks, each of which begins with
a code point or a range in hexadecimal digits, as in `41-5A`.  A set of code points needs nothing
else; a table that gives values to code points has them behind the range. -/

namespace BearerLogin.Text

/-- A value for each range of a sorted list of ranges. -/
structure CodeTable (α : Type) where
  entries : Array (CodeRange × α)

namespace CodeTable

/-- The value of an upper-case hexadecimal digit. -/
def hexValue? (c : Char) : Option Nat :=
  if '0' ≤ c ∧ c ≤ '9' then some (c.toNat - 48)
  else if 'A' ≤ c ∧ c ≤ 'F' then some (c.toNat - 55)
  else none

/-- The hexadecimal number at the front, continuing from `n`, and what follows it. -/
def takeHex (n : Nat) : List Char → Nat × List Char
  | [] => (n, [])
  | c :: rest =>
    match hexValue? c with
    | some digit => takeHex (16 * n + digit) rest
    | none => (n, c :: rest)

/-- The decimal number at the front, continuing from `n`, and what follows it. -/
def takeDecimal (n : Nat) : List Char → Nat × List Char
  | [] => (n, [])
  | c :: rest =>
    if c.isDigit then takeDecimal (10 * n + (c.toNat - 48)) rest else (n, c :: rest)

/-- One more character of a list of hexadecimal numbers, the last of which comes first here: a digit
belongs to the last number, anything else begins another. -/
def extendHexList (numbers : List Nat) (c : Char) : List Nat :=
  match hexValue? c, numbers with
  | some digit, n :: rest => (16 * n + digit) :: rest
  | some _, [] => []
  | none, numbers => 0 :: numbers

/-- The hexadecimal numbers that each follow one separating character. -/
def hexList (chars : List Char) : List Nat :=
  (chars.foldl extendHexList []).reverse

/-- The range at the front of an entry and what follows it. -/
def takeRange (entry : List Char) : CodeRange × List Char :=
  let (first, rest) := takeHex 0 entry
  match rest with
  | '-' :: rest =>
    let (last, rest) := takeHex 0 rest
    (⟨first, last⟩, rest)
  | _ => (⟨first, first⟩, rest)

/-- Reads a table, given how the value of an entry is written behind its range. -/
def read (value : List Char → α) (text : String) : CodeTable α where
  entries := ((wordChars text.toList).map fun entry =>
    let (range, rest) := takeRange entry
    (range, value rest)).toArray

/-- Bisection: looks for the code point among the entries `low ≤ i < high`. -/
def search (entries : Array (CodeRange × α)) (point low high : Nat) : Option (CodeRange × α) :=
  if low < high then
    let middle := (low + high) / 2
    match entries[middle]? with
    | none => none
    | some entry =>
      if point < entry.1.first then search entries point low middle
      else if entry.1.last < point then search entries point (middle + 1) high
      else some entry
  else none
termination_by high - low

/-- The entry for a character. -/
def find? (table : CodeTable α) (c : Char) : Option (CodeRange × α) :=
  search table.entries c.toNat 0 table.entries.size

end CodeTable

/-- Reads a set of code points. -/
def CodeRange.table (text : String) : Array CodeRange :=
  ((wordChars text.toList).map fun entry => (CodeTable.takeRange entry).1).toArray

end BearerLogin.Text
