/-! Sets of code points as sorted tables of closed ranges, and membership in such a set by
bisection.  The tables of this library that come from the Unicode character database are written in
this form. -/

namespace BearerLogin.Text

/-- The code points from `first` to `last`, both included. -/
structure CodeRange where
  first : Nat
  last : Nat
  deriving Repr, DecidableEq

namespace CodeRange

/-- Whether the range holds the code point. -/
def holds (range : CodeRange) (point : Nat) : Bool :=
  range.first ≤ point && point ≤ range.last

/-- Bisection: looks for the code point among the entries `low ≤ i < high` of a sorted table. -/
def search (table : Array CodeRange) (point low high : Nat) : Bool :=
  if low < high then
    let middle := (low + high) / 2
    match table[middle]? with
    | none => false
    | some range =>
      if point < range.first then search table point low middle
      else if range.last < point then search table point (middle + 1) high
      else true
  else false
termination_by high - low

/-- Whether some range of a sorted table holds the character. -/
def memberOf (table : Array CodeRange) (c : Char) : Bool :=
  search table c.toNat 0 table.size

end CodeRange

end BearerLogin.Text
