import BearerLogin.Double

/-! The shortest decimal digits that stand for a double: of all decimal numerals that lie closer to
the double than to any other, those with the fewest digits, and of these the one nearest to the
double.  Numerals are written positionally between `0.00001` and `10 ^ 16`, otherwise with an
exponent; a whole number keeps one zero after the point. -/

namespace BearerLogin.Double

/-- A decimal numeral: the value is `digits · 10 ^ exponent`. -/
structure Digits where
  digits : Nat
  exponent : Int
  deriving Repr, DecidableEq

/-- The quotient times `10 ^ k`. -/
def Quotient.shift (v : Quotient) (k : Int) : Quotient :=
  if k < 0 then ⟨v.num, v.den * Nat.pow 10 k.natAbs⟩ else ⟨v.num * Nat.pow 10 k.natAbs, v.den⟩

/-- The number of decimal digits of a natural number, none for zero. -/
def digitCount (n : Nat) : Nat :=
  if n = 0 then 0 else digitCount (n / 10) + 1
termination_by n
decreasing_by omega

/-- How often a quotient below one can be multiplied by ten before it reaches one tenth, up to a
bound. -/
def leadingZeros (v : Quotient) : Nat → Nat
  | 0 => 0
  | fuel + 1 => if v.den ≤ 10 * v.num then 0 else leadingZeros ⟨10 * v.num, v.den⟩ fuel + 1

/-- The exponent `e` with `10 ^ (e - 1) ≤ v < 10 ^ e`, for a positive quotient. -/
def Quotient.magnitude (v : Quotient) : Int :=
  if v.den ≤ v.num then digitCount (v.num / v.den) else -(leadingZeros v 400 : Int)

/-- The interval of numbers that round to a double, and whether its ends do. -/
structure Interval where
  low : Quotient
  high : Quotient
  closed : Bool

/-- Whether `n · 10 ^ -k` lies in the interval. -/
def Interval.holds (i : Interval) (n : Nat) (k : Int) : Bool :=
  let low := i.low.shift k
  let high := i.high.shift k
  if i.closed then low.num ≤ n * low.den && n * high.den ≤ high.num
  else low.num < n * low.den && n * high.den < high.num

/-- The rounding interval of a finite double other than zero.  Below a power of two the neighbours
are half as far away. -/
def interval (d : Double) : Interval :=
  let m := d.mantissa
  let q := d.scale
  let low := if d.fractionBits = 0 ∧ d.exponentBits > 1 then 4 * m - 1 else 4 * m - 2
  ⟨.dyadic low (q - 2), .dyadic (4 * m + 2) (q - 2), m % 2 == 0⟩

/-- The numeral of `count` digits that stands for the double, if there is one: the nearer of the two
grid points beside it, on a tie the even one. -/
def onGrid? (d : Double) (e : Int) (count : Nat) : Option Digits :=
  let v := Quotient.dyadic d.mantissa d.scale
  let k : Int := count - e
  let w := v.shift k
  let below := w.num / w.den
  let rest := w.num % w.den
  let i := d.interval
  let inLow := i.holds below k
  let inHigh := i.holds (below + 1) k
  let takeHigh :=
    if inLow && inHigh then
      if 2 * rest == w.den then below % 2 == 1 else w.den < 2 * rest
    else inHigh
  if inLow || inHigh then some ⟨if takeHigh then below + 1 else below, -k⟩ else none

/-- The first grid, from `count` digits on, that has a numeral for the double. -/
def searchGrids (d : Double) (e : Int) (count : Nat) : Nat → Digits
  | 0 => ⟨0, 0⟩
  | fuel + 1 => (onGrid? d e count).getD (searchGrids d e (count + 1) fuel)

/-- The shortest numeral of a finite double other than zero. -/
def shortest (d : Double) : Digits :=
  searchGrids d (Quotient.dyadic d.mantissa d.scale).magnitude 1 17

/-- Removes the zeros at the end of a list of digits. -/
def withoutTrailingZeros (digits : List Char) : List Char :=
  (digits.reverse.dropWhile (· == '0')).reverse

/-- Writes digits around the point: the value is `0.d₁d₂… · 10 ^ point`. -/
def layout (digits : List Char) (point : Int) : List Char :=
  let count : Int := digits.length
  if count ≤ point ∧ point ≤ 16 then
    digits ++ List.replicate (point - count).toNat '0' ++ ['.', '0']
  else if 0 < point ∧ point ≤ 16 then
    digits.take point.toNat ++ '.' :: digits.drop point.toNat
  else if -5 < point ∧ point ≤ 0 then
    ['0', '.'] ++ List.replicate point.natAbs '0' ++ digits
  else
    let exponent := (toString (point - 1)).toList
    match digits with
    | [] => []
    | [d] => d :: 'e' :: exponent
    | d :: rest => d :: '.' :: (rest ++ 'e' :: exponent)

/-- The written form of a finite double. -/
def render (d : Double) : String :=
  let sign := if d.isNegative then ['-'] else []
  if d.mantissa = 0 then String.ofList (sign ++ ['0', '.', '0'])
  else
    let found := d.shortest
    let digits := Nat.toDigits 10 found.digits
    String.ofList (sign ++ layout (withoutTrailingZeros digits) (digits.length + found.exponent))

end BearerLogin.Double
