import BearerLogin.Jwt.Key

/-! The set of keys that an identity provider publishes, and the choice of the key for a token: by
its identifier, or, for a token that names none, the first key that may be used for signatures. -/

namespace BearerLogin.Jwt

open Json

/-- A published key.  Which members it needs depends on its type. -/
structure PublishedKey where
  keyId : Option String := none
  type : String
  use : Option String := none
  modulus : Option String := none
  exponent : Option String := none
  x : Option String := none
  y : Option String := none
  secret : Option String := none
  deriving DecidableEq, Repr

namespace PublishedKey

/-- The members that were read, by name. -/
abbrev Draft := List (String × Option String)

/-- A member that holds a text, which may be missing if it is optional. -/
def field (name : String) (optional : Bool) : Reader.Field Draft where
  name := name
  isSet := fun members => members.any (·.1 == name)
  read := do
    let value ← if optional then Reader.optional Reader.text else some <$> Reader.text
    return ((name, value) :: ·)
  ifMissing := if optional then some ((name, none) :: ·) else none

/-- The members of a published key in their order. -/
def fields : List (Reader.Field Draft) :=
  ["kid", "kty", "use", "n", "e", "x", "y", "k"].map fun name => field name (name ≠ "kty")

/-- Reads a published key. -/
def read : Reader PublishedKey := do
  let members ← Reader.record "Jwk" fields []
  let text (name : String) := ((members.find? (·.1 == name)).map (·.2)).join
  return {
    keyId := text "kid"
    type := (text "kty").getD ""
    use := text "use"
    modulus := text "n"
    exponent := text "e"
    x := text "x"
    y := text "y"
    secret := text "k" }

/-- The bytes that a member encodes. -/
def bytesOf (member : String) : Except TokenError (List UInt8) :=
  (decodePart member.toList).mapError fun fault => .invalidFormat fault.message

/-- A member that a key of some type needs. -/
def need (member : Option String) (description : String) : Except TokenError String :=
  match member with
  | some text => .ok text
  | none => .error (.invalidFormat ("Missing " ++ description))

/-- The key to verify with. -/
def toKey (published : PublishedKey) : Except TokenError Key := do
  if published.type = "RSA" then
    let modulus ← need published.modulus "RSA modulus"
    let exponent ← need published.exponent "RSA exponent"
    return .rsa (← bytesOf modulus) (← bytesOf exponent)
  else if published.type = "EC" then
    let x ← need published.x "EC x coordinate"
    let y ← need published.y "EC y coordinate"
    return .point (4 :: ((← bytesOf x) ++ (← bytesOf y)))
  else if published.type = "oct" then
    let secret ← need published.secret "symmetric key value"
    match Base64.decode Base64.urlSafe (Text.utf8 secret) with
    | .ok bytes => return .secret bytes
    | .error fault => throw (.invalidFormat fault.message)
  else throw (.unsupportedAlgorithm ("Key type: " ++ published.type))

/-- Whether a key may be used for signatures. -/
def isForSignatures (published : PublishedKey) : Bool :=
  published.use == none || published.use == some "sig"

end PublishedKey

/-- A set of published keys. -/
structure KeySet where
  keys : List PublishedKey
  deriving DecidableEq, Repr

namespace KeySet

/-- Reads a set of keys. -/
def read : Reader KeySet := do
  let field : Reader.Field (Option (List PublishedKey)) := {
    name := "keys"
    isSet := (·.isSome)
    read := do let keys ← Reader.list PublishedKey.read; return fun _ => some keys }
  let keys ← Reader.record "JwksResponse" [field] none
  return ⟨keys.getD []⟩

/-- The set that bytes stand for, if they stand for one. -/
def ofBytes? (bytes : List UInt8) : Option KeySet :=
  (Reader.run read bytes).toOption

/-- Which key a token asks for when it cannot be found. -/
def missing : Option String → String
  | some keyId => keyId
  | none => "no signing key found"

/-- The key for a token with the given key identifier. -/
def find? (set : KeySet) : Option String → Option PublishedKey
  | some keyId => set.keys.find? fun key => key.keyId == some keyId
  | none => set.keys.find? PublishedKey.isForSignatures

end KeySet

end BearerLogin.Jwt
