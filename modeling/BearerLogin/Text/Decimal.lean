/-! Unsigned decimal numbers with an upper bound, as they are written in settings: an optional plus
sign and then ASCII digits, at least one and nothing else. -/

namespace BearerLogin.Text.Decimal

/-- The number that the digits stand for, continuing from `value`; `none` if some character is no
ASCII digit. -/
def digitsFrom (value : Nat) : List Char → Option Nat
  | [] => some value
  | c :: rest => if c.isDigit then digitsFrom (10 * value + (c.toNat - '0'.toNat)) rest else none

/-- The digits without a leading plus sign. -/
def withoutPlus : List Char → List Char
  | '+' :: rest => rest
  | chars => chars

/-- The number that the text stands for, if it is a number and at most `limit`. -/
def read? (limit : Nat) (text : String) : Option Nat :=
  match withoutPlus text.toList with
  | [] => none
  | digits => (digitsFrom 0 digits).filter (· ≤ limit)

/-- The largest number of 16 bits. -/
def max16 : Nat := 65535

/-- The largest number of 32 bits. -/
def max32 : Nat := 4294967295

/-- The largest number of 64 bits. -/
def max64 : Nat := 18446744073709551615

end BearerLogin.Text.Decimal
