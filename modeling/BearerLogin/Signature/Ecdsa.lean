import BearerLogin.Signature.Rsa

/-! Signatures with points of the elliptic curves P-256 and P-384.  A signature is the two numbers
`r` and `s`, each as long as a coordinate; a public key is a point in uncompressed form. -/

namespace BearerLogin.Signature.Ecdsa

/-- A curve `y² = x³ - 3 x + b` over the numbers modulo the prime `p`, with a generator of prime
order. -/
structure Curve where
  /-- The bytes of a coordinate. -/
  size : Nat
  p : Nat
  b : Nat
  generatorX : Nat
  generatorY : Nat
  order : Nat

def p256 : Curve where
  size := 32
  p := 0xffffffff00000001000000000000000000000000ffffffffffffffffffffffff
  b := 0x5ac635d8aa3a93e7b3ebbd55769886bc651d06b0cc53b0f63bce3c3e27d2604b
  generatorX := 0x6b17d1f2e12c4247f8bce6e563a440f277037d812deb33a0f4a13945d898c296
  generatorY := 0x4fe342e2fe1a7f9b8ee7eb4a7c0f9e162bce33576b315ececbb6406837bf51f5
  order := 0xffffffff00000000ffffffffffffffffbce6faada7179e84f3b9cac2fc632551

/-- A number of 384 bits from its two halves. -/
def ofHalves (high low : Nat) : Nat :=
  high * 0x1000000000000000000000000000000000000000000000000 + low

def p384 : Curve where
  size := 48
  p := ofHalves 0xffffffffffffffffffffffffffffffffffffffffffffffff
    0xfffffffffffffffeffffffff0000000000000000ffffffff
  b := ofHalves 0xb3312fa7e23ee7e4988e056be3f82d19181d9c6efe814112
    0x0314088f5013875ac656398d8a2ed19d2a85c8edd3ec2aef
  generatorX := ofHalves 0xaa87ca22be8b05378eb1c71ef320ad746e1d3b628ba79b98
    0x59f741e082542a385502f25dbf55296c3a545e3872760ab7
  generatorY := ofHalves 0x3617de4a96262c6f5d9e98bf9292dc29f8f41dbd289a147c
    0xe9da3113b5f0b8c00a60b1ce1d7e819d7a431d7c90ea0e5f
  order := ofHalves 0xffffffffffffffffffffffffffffffffffffffffffffffff
    0xc7634d81f4372ddf581a0db248b0a77aecec196accc52973

/-- A point of a curve; `none` is the one at infinity. -/
abbrev Point := Option (Nat × Nat)

namespace Curve

/-- The difference of two numbers modulo `p`. -/
def minus (c : Curve) (a b : Nat) : Nat :=
  (a + (c.p - b % c.p)) % c.p

/-- The quotient of two numbers modulo a prime. -/
def quotient (p a b : Nat) : Nat :=
  a * Rsa.powMod p b (p - 2) % p

/-- The third point on the line of slope `slope` through two points, mirrored. -/
def reflect (c : Curve) (slope x₁ y₁ x₂ : Nat) : Point :=
  let x := c.minus (slope * slope) (x₁ + x₂)
  some (x, c.minus (slope * c.minus x₁ x) y₁)

/-- The sum of two points. -/
def add (c : Curve) : Point → Point → Point
  | none, q => q
  | p, none => p
  | some (x₁, y₁), some (x₂, y₂) =>
    if x₁ ≠ x₂ then c.reflect (quotient c.p (c.minus y₂ y₁) (c.minus x₂ x₁)) x₁ y₁ x₂
    else if y₁ ≠ y₂ ∨ y₁ = 0 then none
    else c.reflect (quotient c.p (c.minus (3 * (x₁ * x₁)) 3) (2 * y₁ % c.p)) x₁ y₁ x₁

/-- A multiple of a point. -/
def multiple (c : Curve) (n : Nat) (q : Point) : Point :=
  if n = 0 then none
  else
    let half := c.multiple (n / 2) (c.add q q)
    if n % 2 = 1 then c.add q half else half
termination_by n
decreasing_by omega

/-- Whether two numbers are the coordinates of a point. -/
def holds (c : Curve) (x y : Nat) : Bool :=
  x < c.p && y < c.p && y * y % c.p == c.minus (x * x * x + c.b) (3 * x)

/-- The point in uncompressed form. -/
def point? (c : Curve) (bytes : List UInt8) : Option (Nat × Nat) :=
  match bytes with
  | 4 :: coordinates =>
    let x := numberOf (coordinates.take c.size)
    let y := numberOf (coordinates.drop c.size)
    if coordinates.length = 2 * c.size ∧ c.holds x y then some (x, y) else none
  | _ => none

/-- Whether a signature fits a message. -/
def verifies (c : Curve) (d : Digest) (key message signature : List UInt8) : Bool :=
  match c.point? key with
  | none => false
  | some q =>
    let r := numberOf (signature.take c.size)
    let s := numberOf (signature.drop c.size)
    if signature.length ≠ 2 * c.size ∨ r = 0 ∨ s = 0 ∨ c.order ≤ r ∨ c.order ≤ s then false
    else
      let z := numberOf ((d.hash message).take c.size)
      let first := c.multiple (quotient c.order z s) (some (c.generatorX, c.generatorY))
      match c.add first (c.multiple (quotient c.order r s) (some q)) with
      | none => false
      | some (x, _) => x % c.order == r

end Curve

end BearerLogin.Signature.Ecdsa
