import BearerLogin.Json.Record
import BearerLogin.Jwt.Algorithm

/-! The key that the header of a JSON web token may carry.  It is never used; it only has to be
well-formed: the members that all keys have in common must be of the right types, and the others
must be those of one of four sorts of key. -/

namespace BearerLogin.Jwt.EmbeddedKey

open Json

/-- What a value is found to be. -/
def foundIn : Json → Found
  | .null => .null
  | .bool b => .bool b
  | .int n => .int n
  | .real d => .real d
  | .str s => .str s
  | .arr _ => .list
  | .obj _ => .object

/-- Checks that a value is a string. -/
def expectText : Json → Except DataFault Unit
  | .str _ => .ok ()
  | value => .error (.invalidType (foundIn value) "a string")

/-- Checks that a value is a list of strings. -/
def expectTexts : Json → Except DataFault Unit
  | .arr items => items.forM expectText
  | value => .error (.invalidType (foundIn value) "a sequence")

/-- The algorithms for which a key may be meant. -/
def keyAlgorithms : List String :=
  (Algorithm.all.map Algorithm.name) ++ ["RSA1_5", "RSA-OAEP", "RSA-OAEP-256"]

/-- Checks that a value is one of several names, or an object whose only member is the name with
`null`. -/
def expectName (names : List String) : Json → Except DataFault Unit
  | .str name => if names.contains name then .ok () else .error (.unknownVariant name names)
  | .obj [(name, value)] =>
    if !names.contains name then .error (.unknownVariant name names)
    else
      match value with
      | .null | .obj [] => .ok ()
      | value => .error (.invalidType (foundIn value) "unit")
  | .obj _ => .error (.other "invalid value: map, expected map with a single key")
  | value => .error (.invalidType (foundIn value) "string or map")

/-- The members that all keys have in common, and how each is checked unless it is `null`. -/
def commonMembers : List (String × (Json → Except DataFault Unit)) := [
  ("use", expectText), ("key_ops", expectTexts), ("alg", expectName keyAlgorithms),
  ("kid", expectText), ("x5u", expectText), ("x5c", expectTexts), ("x5t", expectText),
  ("x5t#S256", expectText)]

/-- Checks the common members in the order in which they stand. -/
def checkCommon (seen : List String) : List (String × Json) → Except DataFault Unit
  | [] => .ok ()
  | (name, value) :: rest =>
    match commonMembers.find? fun m => m.1 == name with
    | none => checkCommon seen rest
    | some (_, check) => do
      if seen.contains name then throw (.duplicateField name)
      match value with
      | .null => pure ()
      | value => check value
      checkCommon (name :: seen) rest

/-- The value of a member that occurs once. -/
def only? (name : String) (members : List (String × Json)) : Option Json :=
  match members.filter fun m => m.1 == name with
  | [(_, value)] => some value
  | _ => none

/-- Whether a member occurs once and is a string. -/
def hasText (members : List (String × Json)) (name : String) : Bool :=
  ((only? name members).bind Json.str?).isSome

/-- Whether a member occurs once and is one of several names. -/
def hasName (members : List (String × Json)) (name : String) (names : List String) : Bool :=
  match only? name members with
  | some value => (expectName names value).toBool
  | none => false

/-- The names of curves. -/
def curves : List String := ["P-256", "P-384", "P-521", "Ed25519"]

/-- Whether the members are those of one of the four sorts of key. -/
def isOfSomeSort (members : List (String × Json)) : Bool :=
  let text := hasText members
  let name := hasName members
  (name "kty" ["EC"] && name "crv" curves && text "x" && text "y") ||
    (name "kty" ["RSA"] && text "n" && text "e") ||
    (name "kty" ["oct"] && text "k") ||
    (name "kty" ["OKP"] && name "crv" curves && text "x")

/-- Checks the members of a key. -/
def check (members : List (String × Json)) : Except DataFault Unit := do
  checkCommon [] members
  if !isOfSomeSort members then throw (.noVariantMatches "AlgorithmParameters")

/-- Reads the members that are left of an object, and keeps those that occur more than once. -/
def allMembers (first : Bool) (taken : List (String × Json)) :
    Nat → Reader (List (String × Json))
  | 0 => return taken.reverse
  | fuel + 1 => do
    if ← Reader.hasKey first then
      let key ← Reader.readKey
      Reader.readColon
      allMembers false ((key, ← Reader.readValue (Reader.maxDepth - 2)) :: taken) fuel
    else return taken.reverse

/-- Reads a key. -/
def read : Reader Unit := do
  match ← Reader.peekToken with
  | none => Reader.failAhead .endInValue
  | some 123 =>
    Reader.skip
    let fuel ← Reader.left
    Reader.located (Reader.enclosed (do
      match check (← allMembers true [] (fuel + 1)) with
      | .ok _ => return
      | .error fault => Reader.failData fault) Reader.endObject)
  | some _ => Reader.unexpected "struct Jwk"

end BearerLogin.Jwt.EmbeddedKey
