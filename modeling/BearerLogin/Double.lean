/-! Numbers of IEEE 754 double precision, kept as their bit patterns so that equality is equality of
bits.  A decimal numeral is turned into a double in two roundings: first its leading digits, as an
integer of 64 bits, then the product or quotient with a power of ten.  Each rounding takes the exact
result, a quotient of two natural numbers, to the nearest double. -/

namespace BearerLogin

/-- A double, by its bit pattern. -/
structure Double where
  bits : UInt64
  deriving DecidableEq, Repr, Inhabited

namespace Double

/-- The sign bit. -/
def isNegative (d : Double) : Bool := d.bits >>> 63 != 0

/-- The biased exponent, of 11 bits. -/
def exponentBits (d : Double) : Nat := (d.bits >>> 52).toNat % 2048

/-- The fraction, of 52 bits. -/
def fractionBits (d : Double) : Nat := d.bits.toNat % 0x10000000000000

/-- The integer `m` of the magnitude `m · 2 ^ q`. -/
def mantissa (d : Double) : Nat :=
  if d.exponentBits = 0 then d.fractionBits else 0x10000000000000 + d.fractionBits

/-- The exponent `q` of the magnitude `m · 2 ^ q`. -/
def scale (d : Double) : Int :=
  (max d.exponentBits 1 : Nat) - 1075

/-- A quotient of two natural numbers, compared with others by cross-multiplication. -/
structure Quotient where
  num : Nat
  den : Nat

namespace Quotient

/-- The quotient `m · 2 ^ q`. -/
def dyadic (m : Nat) (q : Int) : Quotient :=
  if q < 0 then ⟨m, Nat.pow 2 q.natAbs⟩ else ⟨m * Nat.pow 2 q.natAbs, 1⟩

/-- The quotient times `2 ^ q`. -/
def scaled (v : Quotient) (q : Int) : Quotient :=
  if q < 0 then ⟨v.num, v.den * Nat.pow 2 q.natAbs⟩ else ⟨v.num * Nat.pow 2 q.natAbs, v.den⟩

/-- The exponent `e` with `2 ^ e ≤ v < 2 ^ (e + 1)`, for a positive quotient. -/
def binade (v : Quotient) : Int :=
  let e : Int := Nat.log2 v.num - Nat.log2 v.den
  let w := v.scaled (-e)
  if w.den ≤ w.num then e else e - 1

/-- The natural number nearest to a quotient; a half goes to the even neighbour. -/
def toNearest (v : Quotient) : Nat :=
  let below := v.num / v.den
  let rest := v.num % v.den
  if v.den < 2 * rest ∨ (2 * rest = v.den ∧ below % 2 = 1) then below + 1 else below

end Quotient

/-- The bits of a double whose exponent is the largest; it is not finite. -/
def infinityBits : Nat := 0x7FF0000000000000

/-- The double nearest to a quotient, unless it is too large; of two that are equally near, the one
with the even fraction. -/
def nearest? (v : Quotient) : Option Double :=
  if v.num = 0 then some ⟨0⟩
  else
    let q := max (v.binade - 52) (-1074)
    -- A significand of 53 bits carries the lowest bit of the exponent with it.
    let bits := (q + 1074).toNat * 0x10000000000000 + (v.scaled (-q)).toNearest
    if bits < infinityBits then some ⟨bits.toUInt64⟩ else none

/-- The magnitude of a finite double. -/
def abs (d : Double) : Quotient :=
  .dyadic d.mantissa d.scale

/-- The largest power of ten that is a finite double has this exponent. -/
def maxPower : Nat := 308

/-- The magnitude times the double nearest to `10 ^ n`. -/
def timesPower? (d : Double) (n : Nat) : Option Double := do
  let power ← nearest? ⟨Nat.pow 10 n, 1⟩
  nearest? ⟨d.abs.num * power.abs.num, d.abs.den * power.abs.den⟩

/-- The magnitude divided by the double nearest to `10 ^ n`. -/
def overPower? (d : Double) (n : Nat) : Option Double := do
  let power ← nearest? ⟨Nat.pow 10 n, 1⟩
  nearest? ⟨d.abs.num * power.abs.den, d.abs.den * power.abs.num⟩

/-- Multiplication by a power of ten, unless the product is too large for a double. -/
def multiplyPower? (d : Double) (n : Nat) : Option Double :=
  if n ≤ maxPower then d.timesPower? n
  else if d.mantissa = 0 then some d
  else none

/-- Division by a power of ten: first by the largest one, a number of times, then by `10 ^ n`. -/
def dividePower? (d : Double) (n : Nat) : Nat → Option Double
  | 0 => d.overPower? n
  | times + 1 =>
    if d.mantissa = 0 then some d
    else do dividePower? (← d.overPower? maxPower) n times

/-- The double of the same magnitude with the sign bit set. -/
def negated (d : Double) : Double := ⟨d.bits ||| 0x8000000000000000⟩

/-- The value `significand · 10 ^ exponent` with the given sign, unless it is too large.  The
significand has at most 64 bits. -/
def ofDecimal? (negative : Bool) (significand : Nat) (exponent : Int) : Option Double := do
  let whole ← nearest? ⟨significand, 1⟩
  let n := exponent.natAbs
  let times := (n - 1) / maxPower
  let d ← if exponent < 0 then whole.dividePower? (n - maxPower * times) times
    else whole.multiplyPower? n
  return if negative then d.negated else d

/-- The natural number nearest to a double of at least zero and below `2 ^ 64`; a half goes up. -/
def nearestNat? (d : Double) : Option Nat :=
  let magnitude :=
    if 0 ≤ d.scale then d.mantissa * Nat.pow 2 d.scale.natAbs
    else (2 * d.mantissa + Nat.pow 2 d.scale.natAbs) / Nat.pow 2 (d.scale.natAbs + 1)
  let isBelow := d.mantissa * Nat.pow 2 d.scale.toNat < Nat.pow 2 (64 + (-d.scale).toNat)
  if d.exponentBits = 2047 ∨ !isBelow ∨ (d.isNegative ∧ d.mantissa ≠ 0) then none
  else some magnitude

end Double

end BearerLogin
