import BearerLogin.Jwt.EmbeddedKey
import BearerLogin.Jwt.Fault
import BearerLogin.Text.Utf8

/-! The parts of a JSON web token and its header.  A token is cut at its last two dots; the header
is whatever stands before them. -/

namespace BearerLogin.Jwt

open Json

/-- The three parts of a token as texts, and the text that is signed. -/
structure Parts where
  header : List Char
  payload : List Char
  signature : List Char
  deriving DecidableEq, Repr

namespace Parts

/-- What stands before and behind the last dot. -/
def cutAtLastDot? (chars : List Char) : Option (List Char × List Char) :=
  let last := chars.reverse.takeWhile (· ≠ '.')
  if last.length < chars.length then
    some (chars.take (chars.length - last.length - 1), last.reverse)
  else none

/-- The parts of a token. -/
def ofText? (token : String) : Option Parts := do
  let (message, signature) ← cutAtLastDot? token.toList
  let (header, payload) ← cutAtLastDot? message
  return ⟨header, payload, signature⟩

/-- The text that is signed: the token before its last dot. -/
def signed (parts : Parts) : List UInt8 :=
  Text.utf8 (String.ofList (parts.header ++ '.' :: parts.payload))

end Parts

/-- The bytes that a part of a token encodes. -/
def decodePart (part : List Char) : Except Fault (List UInt8) :=
  (Base64.decode Base64.urlSafe (Text.utf8 (String.ofList part))).mapError .base64

/-- What the header of a token says about its signature. -/
structure Header where
  algorithm : Algorithm
  keyId : Option String
  deriving DecidableEq, Repr

namespace Header

/-- A header of which some members have been read. -/
structure Draft where
  algorithm : Option Algorithm := none
  keyId : Option (Option String) := none
  /-- The other members that were read. -/
  others : List String := []

/-- A member that is read and not used. -/
def unused (name : String) (read : Reader Unit) : Reader.Field Draft where
  name := name
  isSet := fun d => d.others.contains name
  read := do
    let _ ← Reader.optional read
    return fun d => { d with others := name :: d.others }
  ifMissing := some id

/-- A string that is read and not used. -/
def unusedText (name : String) : Reader.Field Draft :=
  unused name (do let _ ← Reader.text)

/-- The members of a header in their order. -/
def fields : List (Reader.Field Draft) := [
  unusedText "typ",
  { name := "alg"
    isSet := (·.algorithm.isSome)
    read := do
      let algorithm ← Reader.choice (Algorithm.all.map fun a => (a.name, a))
      return fun d => { d with algorithm := some algorithm } },
  unusedText "cty",
  unusedText "jku",
  unused "jwk" EmbeddedKey.read,
  { name := "kid"
    isSet := (·.keyId.isSome)
    read := do
      let keyId ← Reader.optional Reader.text
      return fun d => { d with keyId := some keyId }
    ifMissing := some id },
  unusedText "x5u",
  unused "x5c" (do let _ ← Reader.list Reader.text),
  unusedText "x5t",
  unusedText "x5t#S256"]

/-- Reads a header. -/
def read : Reader Header := do
  let draft ← Reader.record "Header" fields {}
  match draft.algorithm with
  | some algorithm => return ⟨algorithm, draft.keyId.join⟩
  | none => Reader.failData (.missingField "alg")

/-- The header of a token. -/
def ofToken (token : String) : Except Fault Header := do
  match Parts.ofText? token with
  | none => throw .invalidToken
  | some parts => (Reader.run read (← decodePart parts.header)).mapError .json

end Header

end BearerLogin.Jwt
