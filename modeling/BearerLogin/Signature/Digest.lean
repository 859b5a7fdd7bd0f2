/-! The digests SHA-256, SHA-384 and SHA-512 over lists of bytes.  The constants of the rounds and
the words that a digest starts with are the fractional parts of roots of prime numbers, and are
computed as such. -/

namespace BearerLogin.Signature

/-- A number as bytes, the most significant one first. -/
def bytesOf (n : Nat) : Nat → List UInt8
  | 0 => []
  | count + 1 => UInt8.ofNat (n / Nat.pow 256 count) :: bytesOf n count

/-- The number that bytes stand for, the most significant one first. -/
def numberOf (bytes : List UInt8) : Nat :=
  bytes.foldl (fun n b => 256 * n + b.toNat) 0

/-- A digest of the family. -/
structure Digest where
  /-- The bits of a word. -/
  width : Nat
  /-- The number of rounds for a block. -/
  rounds : Nat
  /-- The position of the first prime number whose square root starts the digest. -/
  firstPrime : Nat
  /-- The bytes of a digest. -/
  size : Nat
  /-- The rotations of the two functions on the working words. -/
  wide0 : Nat × Nat × Nat
  wide1 : Nat × Nat × Nat
  /-- The rotations and the shift of the two functions on the words of a block. -/
  narrow0 : Nat × Nat × Nat
  narrow1 : Nat × Nat × Nat

namespace Digest

def sha256 : Digest :=
  ⟨32, 64, 0, 32, (2, 13, 22), (6, 11, 25), (7, 18, 3), (17, 19, 10)⟩

def sha512 : Digest :=
  ⟨64, 80, 0, 64, (28, 34, 39), (14, 18, 41), (1, 8, 7), (19, 61, 6)⟩

def sha384 : Digest :=
  { sha512 with firstPrime := 8, size := 48 }

/-- Whether a number is prime. -/
def isPrime (n : Nat) : Bool :=
  2 ≤ n && (List.range n).all fun d => d < 2 || n % d ≠ 0

/-- The first eighty prime numbers. -/
def primes : List Nat :=
  (List.range 410).filter isPrime

/-- The greatest number whose power `k` is at most `target`, above `found` and with `bits` more bits
to settle. -/
def root (k target found : Nat) : Nat → Nat
  | 0 => found
  | bits + 1 =>
    let next := found + Nat.pow 2 bits
    root k target (if Nat.pow next k ≤ target then next else found) bits

/-- The first bits of the fractional part of the root of a number below `2 ^ 16`. -/
def rootFraction (width k n : Nat) : BitVec width :=
  BitVec.ofNat width (root k (n * Nat.pow 2 (k * width)) 0 (width + 16))

/-- The constants of the rounds. -/
def constants (d : Digest) : List (BitVec d.width) :=
  (primes.take d.rounds).map (rootFraction d.width 3)

/-- The words that a digest starts with. -/
def start (d : Digest) : List (BitVec d.width) :=
  ((primes.drop d.firstPrime).take 8).map (rootFraction d.width 2)

/-- The sum of three rotations. -/
def wide (amounts : Nat × Nat × Nat) (x : BitVec w) : BitVec w :=
  x.rotateRight amounts.1 ^^^ x.rotateRight amounts.2.1 ^^^ x.rotateRight amounts.2.2

/-- The sum of two rotations and a shift. -/
def narrow (amounts : Nat × Nat × Nat) (x : BitVec w) : BitVec w :=
  x.rotateRight amounts.1 ^^^ x.rotateRight amounts.2.1 ^^^ (x >>> amounts.2.2)

/-- The bytes of a block. -/
def blockSize (d : Digest) : Nat := 2 * d.width

/-- A message filled up to whole blocks: a one, zeros, and the length in bits. -/
def pad (d : Digest) (message : List UInt8) : List UInt8 :=
  let lengthSize := d.width / 4
  let zeros := (2 * d.blockSize - 1 - lengthSize - message.length % d.blockSize) % d.blockSize
  message ++ 128 :: (List.replicate zeros 0 ++ bytesOf (8 * message.length) lengthSize)

/-- The words of a list of bytes; `count` bounds their number. -/
def words (w : Nat) (bytes : List UInt8) : Nat → List (BitVec w)
  | 0 => []
  | count + 1 =>
    BitVec.ofNat w (numberOf (bytes.take (w / 8))) :: words w (bytes.drop (w / 8)) count

/-- The words of all rounds of a block, from its sixteen words on.  `recent` has the last sixteen
words, latest first. -/
def schedule (d : Digest) (recent : List (BitVec d.width)) : Nat → List (BitVec d.width)
  | 0 => []
  | count + 1 =>
    let word (i : Nat) := recent.getD i 0
    let next := narrow d.narrow1 (word 1) + word 6 + narrow d.narrow0 (word 14) + word 15
    next :: schedule d (next :: recent.dropLast) count

/-- The eight working words. -/
structure Working (w : Nat) where
  a : BitVec w
  b : BitVec w
  c : BitVec w
  d : BitVec w
  e : BitVec w
  f : BitVec w
  g : BitVec w
  h : BitVec w

/-- One round. -/
def round (digest : Digest) (s : Working digest.width)
    (input : BitVec digest.width × BitVec digest.width) : Working digest.width :=
  let choice := (s.e &&& s.f) ^^^ (~~~s.e &&& s.g)
  let majority := (s.a &&& s.b) ^^^ (s.a &&& s.c) ^^^ (s.b &&& s.c)
  let first := s.h + wide digest.wide1 s.e + choice + input.1 + input.2
  let second := wide digest.wide0 s.a + majority
  ⟨first + second, s.a, s.b, s.c, s.d + first, s.e, s.f, s.g⟩

/-- The state after a block. -/
def compress (d : Digest) (constants : List (BitVec d.width)) (s : Working d.width)
    (block : List UInt8) : Working d.width :=
  let first := words d.width block 16
  let all := first ++ schedule d first.reverse (d.rounds - 16)
  let t := (constants.zip all).foldl (round d) s
  ⟨s.a + t.a, s.b + t.b, s.c + t.c, s.d + t.d, s.e + t.e, s.f + t.f, s.g + t.g, s.h + t.h⟩

/-- Goes through the blocks of a padded message. -/
def blocks (d : Digest) (constants : List (BitVec d.width)) (s : Working d.width)
    (bytes : List UInt8) : Nat → Working d.width
  | 0 => s
  | count + 1 =>
    blocks d constants (compress d constants s (bytes.take d.blockSize))
      (bytes.drop d.blockSize) count

/-- The state that a digest starts with. -/
def initial (d : Digest) : Working d.width :=
  let word (i : Nat) := d.start.getD i 0
  ⟨word 0, word 1, word 2, word 3, word 4, word 5, word 6, word 7⟩

/-- The digest of a message. -/
def hash (d : Digest) (message : List UInt8) : List UInt8 :=
  let padded := d.pad message
  let s := blocks d d.constants d.initial padded (padded.length / d.blockSize)
  let state := [s.a, s.b, s.c, s.d, s.e, s.f, s.g, s.h]
  (state.flatMap fun word => bytesOf word.toNat (d.width / 8)).take d.size

/-- A key as a whole block: hashed if it is longer, filled up with zeros. -/
def blockKey (d : Digest) (key : List UInt8) : List UInt8 :=
  let key := if d.blockSize < key.length then d.hash key else key
  key ++ List.replicate (d.blockSize - key.length) 0

/-- The code that authenticates a message under a secret key. -/
def authenticationCode (d : Digest) (key message : List UInt8) : List UInt8 :=
  let key := d.blockKey key
  d.hash (key.map (· ^^^ 0x5c) ++ d.hash (key.map (· ^^^ 0x36) ++ message))

end Digest

end BearerLogin.Signature
