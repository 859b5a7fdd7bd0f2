import BearerLogin.Instant.Printer
import BearerLogin.Instant.Reader
import BearerLogin.Json.Printer
import BearerLogin.Json.Record
import BearerLogin.Token

/-! The JSON form of validated tokens.  A missing instant of issue is left out; when a token is read
back, scopes and payload may be missing too. -/

namespace BearerLogin.Token

open Json

/-- The members of the object that stands for a token. -/
def members (token : Token) : List (String × Json) :=
  [("principal_name", .str token.principalName), ("expires_at", .str token.expiresAt.rfc3339)] ++
    (token.issuedAt.toList.map fun issued => ("issued_at", .str issued.rfc3339)) ++
    [("scopes", .arr (token.scopes.map .str)), ("payload", token.payload)]

/-- The JSON form of a token. -/
def toJson (token : Token) : Json :=
  .obj token.members

/-- A token of which some members have been read. -/
structure Draft where
  principalName : Option String := none
  expiresAt : Option Instant := none
  issuedAt : Option (Option Instant) := none
  scopes : Option (List String) := none
  payload : Option Json := none

/-- Reads an instant. -/
def readInstant : Reader Instant :=
  Reader.parsed "an RFC 3339 formatted date and time string" fun text =>
    (Instant.ofText text).mapError fun fault => .other fault.message

/-- The members of a token in their order. -/
def fields : List (Reader.Field Draft) := [
  { name := "principal_name"
    isSet := (·.principalName.isSome)
    read := do let name ← Reader.text; return fun d => { d with principalName := some name } },
  { name := "expires_at"
    isSet := (·.expiresAt.isSome)
    read := do let at_ ← readInstant; return fun d => { d with expiresAt := some at_ } },
  { name := "issued_at"
    isSet := (·.issuedAt.isSome)
    read := do
      let issued ← Reader.optional readInstant
      return fun d => { d with issuedAt := some issued }
    ifMissing := some fun d => { d with issuedAt := some none } },
  { name := "scopes"
    isSet := (·.scopes.isSome)
    read := do
      let scopes ← Reader.list Reader.text
      return fun d => { d with scopes := some scopes }
    ifMissing := some fun d => { d with scopes := some [] }
    ifShort := some fun d => { d with scopes := some [] } },
  { name := "payload"
    isSet := (·.payload.isSome)
    read := do
      let payload ← Reader.readValue (Reader.maxDepth - 1)
      return fun d => { d with payload := some payload }
    ifMissing := some fun d => { d with payload := some .null }
    ifShort := some fun d => { d with payload := some .null } }]

/-- The token of a complete draft. -/
def Draft.finish (draft : Draft) : Reader Token :=
  match draft.principalName, draft.expiresAt with
  | some principalName, some expiresAt =>
    return {
      principalName, expiresAt
      issuedAt := draft.issuedAt.join
      scopes := draft.scopes.getD []
      payload := draft.payload.getD .null }
  | _, _ => Reader.failData (.missingField "principal_name")

/-- Reads a token from the text of its JSON form. -/
def ofJsonText (text : String) : Except Json.Fault Token :=
  Reader.run (do (← Reader.record "ValidatedToken" fields {}).finish) (Text.utf8 text)

end BearerLogin.Token
