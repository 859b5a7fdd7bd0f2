import BearerLogin.Jwt.Header
import BearerLogin.Signature.Ecdsa

/-! The keys that tokens are verified with, and whether a signature fits. -/

namespace BearerLogin.Jwt

open Signature

/-- A key.  A point of a curve is in uncompressed form, whichever curve it is on. -/
inductive Key where
  | secret (bytes : List UInt8)
  | rsa (modulus exponent : List UInt8)
  | point (bytes : List UInt8)
  deriving DecidableEq, Repr

namespace Key

/-- The family of a key. -/
def family : Key → KeyFamily
  | secret _ => .secret
  | rsa _ _ => .rsa
  | point _ => .ellipticCurve

/-- Whether a text is the code of a message under a secret. -/
def fitsSecret (d : Digest) (secret message : List UInt8) (signature : List Char) : Bool :=
  Text.utf8 (String.ofList signature) ==
    Base64.encode Base64.urlSafe (d.authenticationCode secret message)

/-- Whether a signature fits a message under an RSA key. -/
def fitsRsa (salted : Bool) (d : Digest) (modulus exponent message signature : List UInt8) : Bool :=
  match Rsa.PublicKey.ofBytes? modulus exponent with
  | none => false
  | some key =>
    if salted then Rsa.verifiesSalted d key message signature
    else Rsa.verifiesFixed d key message signature

/-- Whether a signature fits a message.  It is decoded only where it is not a code under a secret.
-/
def verifies (key : Key) (algorithm : Algorithm) (message : List UInt8) (signature : List Char) :
    Except Fault Bool :=
  match key, algorithm with
  | secret bytes, .hs256 => .ok (fitsSecret .sha256 bytes message signature)
  | secret bytes, .hs384 => .ok (fitsSecret .sha384 bytes message signature)
  | secret bytes, .hs512 => .ok (fitsSecret .sha512 bytes message signature)
  | rsa n e, .rs256 => (fitsRsa false .sha256 n e message ·) <$> decodePart signature
  | rsa n e, .rs384 => (fitsRsa false .sha384 n e message ·) <$> decodePart signature
  | rsa n e, .rs512 => (fitsRsa false .sha512 n e message ·) <$> decodePart signature
  | rsa n e, .ps256 => (fitsRsa true .sha256 n e message ·) <$> decodePart signature
  | rsa n e, .ps384 => (fitsRsa true .sha384 n e message ·) <$> decodePart signature
  | rsa n e, .ps512 => (fitsRsa true .sha512 n e message ·) <$> decodePart signature
  | point q, .es256 => (Ecdsa.p256.verifies .sha256 q message ·) <$> decodePart signature
  | point q, .es384 => (Ecdsa.p384.verifies .sha384 q message ·) <$> decodePart signature
  | _, _ => .error .invalidAlgorithm

end Key

end BearerLogin.Jwt
