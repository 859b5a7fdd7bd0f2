import BearerLogin.Json.Record
import BearerLogin.Jwt.Fault

/-! The claims of a token that are checked.  A claim that is missing or cannot be read does not make
the token malformed: it counts as not given, and only the expiry has to be given.  Issuer and
audience may be one name or a list of names. -/

namespace BearerLogin.Jwt

open Json

/-- A claim as far as it could be read. -/
inductive Claim (α : Type) where
  | absent
  | unreadable
  | given (value : α)
  deriving DecidableEq, Repr

namespace Claim

/-- The value of a claim that could be read. -/
def value? : Claim α → Option α
  | given value => some value
  | _ => none

/-- The claim that `r` reads; `null` is none. -/
def ofOptional (r : Reader α) : Reader (Claim α) := do
  match ← Reader.attempt (Reader.optional r) with
  | none => return .unreadable
  | some none => return .absent
  | some (some value) => return .given value

/-- The seconds that a number stands for. -/
def secondsOf? : Reader.Number → Option Nat
  | .int n => if 0 ≤ n then some n.toNat else none
  | .real d => d.nearestNat?

/-- Reads a point in time: a number from zero to `2 ^ 64`, rounded.  Inside a list or an object
nothing is passed over. -/
def readSeconds : Reader (Option Nat) := do
  let unfit : Reader (Option Nat) := Reader.failData (.other "no point in time")
  match ← Reader.peekToken with
  | some 34 => Reader.skip; let _ ← Reader.readString; return none
  | some 110 => Reader.skip; Reader.literal Reader.nullRest; return none
  | some 116 => Reader.skip; Reader.literal Reader.trueRest; return none
  | some 102 => Reader.skip; Reader.literal Reader.falseRest; return none
  | some 91 => Reader.skip; Reader.enclosed unfit Reader.endList
  | some 123 => Reader.skip; Reader.enclosed unfit Reader.endObject
  | some 45 => Reader.skip; return secondsOf? (← Reader.readNumber true)
  | _ => return secondsOf? (← Reader.readNumber false)

/-- Reads the claim of a point in time. -/
def ofSeconds : Reader (Claim Nat) := do
  match (← Reader.attempt readSeconds).join with
  | some seconds => return .given seconds
  | none => return .unreadable

/-- The names in a value: one name or a list of names. -/
def namesIn? : Json → Option (List String)
  | .str name => some [name]
  | .arr items => items.mapM Json.str?
  | _ => none

/-- Reads one name or a list of names. -/
def readNames : Reader (List String) := do
  match namesIn? (← Reader.readValue (Reader.maxDepth - 1)) with
  | some names => return names
  | none => Reader.failData (.noVariantMatches "Names")

end Claim

/-- The claims that are checked. -/
structure Claims where
  expiry : Claim Nat := .absent
  notBefore : Claim Nat := .absent
  subject : Claim String := .absent
  issuers : Claim (List String) := .absent
  audiences : Claim (List String) := .absent
  deriving DecidableEq, Repr

namespace Claims

/-- Claims of which some have been read. -/
structure Draft where
  claims : Claims := {}
  /-- The names of the claims that were read. -/
  seen : List String := []

/-- The member that holds a claim. -/
def field (name : String) (optional : Bool) (read : Reader (Claims → Claims)) :
    Reader.Field Draft where
  name := name
  isSet := fun d => d.seen.contains name
  read := do
    let set ← read
    return fun d => ⟨set d.claims, name :: d.seen⟩
  ifMissing := some id
  ifShort := if optional then some id else none

/-- The members that hold claims, in their order. -/
def fields : List (Reader.Field Draft) := [
  field "exp" true (do let c ← Claim.ofSeconds; return fun s => { s with expiry := c }),
  field "nbf" true (do let c ← Claim.ofSeconds; return fun s => { s with notBefore := c }),
  field "sub" false
    (do let c ← Claim.ofOptional Reader.text; return fun s => { s with subject := c }),
  field "iss" false
    (do let c ← Claim.ofOptional Claim.readNames; return fun s => { s with issuers := c }),
  field "aud" false
    (do let c ← Claim.ofOptional Claim.readNames; return fun s => { s with audiences := c })]

/-- Reads the claims that are checked. -/
def ofBytes (payload : List UInt8) : Except Fault Claims :=
  (Reader.run (do return (← Reader.record "ClaimsForValidation" fields {}).claims) payload).mapError
    .json

/-- How many seconds a token may have expired ago. -/
def leeway : Nat := 60

/-- Whether a claim, if it could be read, has a name. -/
def admits (claim : Claim (List String)) (name : String) : Bool :=
  match claim with
  | .given names => names.contains name
  | _ => true

/-- Checks claims at a time, given in seconds since 1970: the expiry has to be given and not to be
over, and issuer and audience, as far as they could be read, have to hold the wanted names. -/
def check (claims : Claims) (now : Int) (issuer : String) (audience : Option String) :
    Except Fault Unit := do
  match claims.expiry with
  | .given seconds => if seconds < now - leeway then throw .expiredSignature
  | _ => throw (.missingRequiredClaim "exp")
  if !admits claims.issuers issuer then throw .invalidIssuer
  match audience with
  | some name => if !admits claims.audiences name then throw .invalidAudience
  | none => return

end Claims

end BearerLogin.Jwt
