/-! The algorithms by which a JSON web token can be signed, and the families of keys that they take.
-/

namespace BearerLogin.Jwt

/-- The families of keys. -/
inductive KeyFamily where
  | secret
  | rsa
  | ellipticCurve
  | edwards
  deriving DecidableEq, Repr

/-- The signature algorithms. -/
inductive Algorithm where
  | hs256
  | hs384
  | hs512
  | es256
  | es384
  | rs256
  | rs384
  | rs512
  | ps256
  | ps384
  | ps512
  | edDsa
  deriving DecidableEq, Repr

namespace Algorithm

/-- All algorithms, in the order in which they are listed. -/
def all : List Algorithm :=
  [hs256, hs384, hs512, es256, es384, rs256, rs384, rs512, ps256, ps384, ps512, edDsa]

/-- The name of an algorithm. -/
def name : Algorithm → String
  | hs256 => "HS256"
  | hs384 => "HS384"
  | hs512 => "HS512"
  | es256 => "ES256"
  | es384 => "ES384"
  | rs256 => "RS256"
  | rs384 => "RS384"
  | rs512 => "RS512"
  | ps256 => "PS256"
  | ps384 => "PS384"
  | ps512 => "PS512"
  | edDsa => "EdDSA"

/-- The algorithm of a name. -/
def ofName? (text : String) : Option Algorithm :=
  all.find? fun algorithm => algorithm.name == text

/-- The family of the keys that an algorithm takes. -/
def family : Algorithm → KeyFamily
  | hs256 | hs384 | hs512 => .secret
  | es256 | es384 => .ellipticCurve
  | edDsa => .edwards
  | _ => .rsa

end Algorithm

end BearerLogin.Jwt
