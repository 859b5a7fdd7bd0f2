import BearerLogin.Signature.Digest

/-! Signatures with RSA keys of 2048 to 8192 bits, in the two encodings of PKCS #1: the one of
version 1.5, and the probabilistic one with a salt as long as the digest. -/

namespace BearerLogin.Signature.Rsa

/-- A power modulo `m`, by repeated squaring. -/
def powMod (m base exponent : Nat) : Nat :=
  if exponent = 0 then 1 % m
  else
    let half := powMod m (base * base % m) (exponent / 2)
    if exponent % 2 = 1 then base * half % m else half
termination_by exponent
decreasing_by omega

/-- A public key. -/
structure PublicKey where
  modulus : Nat
  exponent : Nat

/-- The number that bytes without a leading zero stand for. -/
def minimalNumber? (bytes : List UInt8) : Option Nat :=
  match bytes with
  | [] => none
  | 0 :: _ => none
  | _ => some (numberOf bytes)

/-- The number of bytes of a number that is not zero. -/
def byteLength (n : Nat) : Nat :=
  Nat.log2 n / 8 + 1

/-- The key of a modulus and an exponent, if they are of the right size and odd. -/
def PublicKey.ofBytes? (modulus exponent : List UInt8) : Option PublicKey := do
  let n ← minimalNumber? modulus
  let e ← minimalNumber? exponent
  guard (n % 2 = 1 ∧ 2048 ≤ 8 * byteLength n ∧ byteLength n ≤ 1024)
  guard (e % 2 = 1 ∧ 3 ≤ e ∧ e < 0x200000000)
  return ⟨n, e⟩

/-- The encoded message that a signature stands for: as many bytes as the modulus has. -/
def PublicKey.recover? (key : PublicKey) (signature : List UInt8) : Option (List UInt8) := do
  let length := byteLength key.modulus
  let s := numberOf signature
  guard (signature.length = length ∧ 0 < s ∧ s < key.modulus)
  return bytesOf (powMod key.modulus s key.exponent) length

/-- The prefix that names a digest in an encoded message. -/
def digestInfo (d : Digest) : List UInt8 :=
  let name : UInt8 := if d.size = 32 then 1 else if d.size = 48 then 2 else 3
  [0x30, UInt8.ofNat (d.size + 17), 0x30, 0x0d, 0x06, 0x09, 0x60, 0x86, 0x48, 0x01, 0x65, 0x03,
    0x04, 0x02, name, 0x05, 0x00, 0x04, UInt8.ofNat d.size]

/-- The encoding of version 1.5. -/
def encodeFixed (d : Digest) (length : Nat) (message : List UInt8) : List UInt8 :=
  let content := digestInfo d ++ d.hash message
  [0, 1] ++ List.replicate (length - content.length - 3) 255 ++ 0 :: content

/-- Whether a signature with the encoding of version 1.5 fits a message. -/
def verifiesFixed (d : Digest) (key : PublicKey) (message signature : List UInt8) : Bool :=
  match key.recover? signature with
  | some encoded => encoded == encodeFixed d (byteLength key.modulus) message
  | none => false

/-- The mask that a seed generates. -/
def mask (d : Digest) (seed : List UInt8) (length : Nat) : List UInt8 :=
  ((List.range (length / d.size + 1)).flatMap fun i => d.hash (seed ++ bytesOf i 4)).take length

/-- The bytes with the first `bits` bits cleared. -/
def clearFront (bits : Nat) : List UInt8 → List UInt8
  | [] => []
  | b :: rest => UInt8.ofNat (b.toNat % Nat.pow 2 (8 - bits)) :: rest

/-- Whether an encoded message of `bits` bits has the probabilistic encoding of a message. -/
def checksSalted (d : Digest) (bits : Nat) (message encoded : List UInt8) : Bool :=
  let length := (bits + 7) / 8
  let spare := 8 * length - bits
  let encoded := encoded.drop (encoded.length - length)
  let masked := encoded.take (length - d.size - 1)
  let digest := (encoded.drop masked.length).take d.size
  let plain := clearFront spare (List.zipWith (· ^^^ ·) masked (mask d digest masked.length))
  let zeros := masked.length - d.size - 1
  let salt := plain.drop (zeros + 1)
  2 * d.size + 2 ≤ length && encoded.getLast? == some 0xbc && clearFront spare masked == masked &&
    plain.take (zeros + 1) == List.replicate zeros 0 ++ [1] &&
    d.hash (List.replicate 8 0 ++ d.hash message ++ salt) == digest

/-- Whether a signature with the probabilistic encoding fits a message. -/
def verifiesSalted (d : Digest) (key : PublicKey) (message signature : List UInt8) : Bool :=
  match key.recover? signature with
  | none => false
  | some encoded =>
    let bits := Nat.log2 key.modulus
    let surplus := encoded.length - (bits + 7) / 8
    encoded.take surplus == List.replicate surplus 0 && checksSalted d bits message encoded

end BearerLogin.Signature.Rsa
