import BearerLogin.Json.Scalar
import BearerLogin.Json.Value

/-! The parts of JSON text with inner structure: lists, objects, values of any kind, and values that
are passed over.  Lists and objects nest to a limited depth; passing over a value has no such limit
and leaves numbers and escapes unchecked. -/

namespace BearerLogin.Json.Reader

/-- How deep lists and objects may nest. -/
def maxDepth : Nat := 127

/-- Looks for one more item of a list; `first` tells that none was read yet. -/
def hasItem (first : Bool) : Reader Bool := do
  match ← peekToken with
  | none => failAhead .endInList
  | some 93 => return false
  | some b =>
    if first then return true
    else if b = 44 then
      skip
      match ← peekToken with
      | none => failAhead .endInValue
      | some 93 => failAhead .trailingComma
      | some _ => return true
    else failAhead .expectedListCommaOrEnd

/-- Looks for one more key of an object; `first` tells that none was read yet. -/
def hasKey (first : Bool) : Reader Bool := do
  match ← peekToken with
  | none => failAhead .endInObject
  | some 125 => return false
  | some b =>
    if first then
      if b = 34 then return true else failAhead .keyMustBeString
    else if b = 44 then
      skip
      match ← peekToken with
      | none => failAhead .endInValue
      | some 34 => return true
      | some 125 => failAhead .trailingComma
      | some _ => failAhead .keyMustBeString
    else failAhead .expectedObjectCommaOrEnd

/-- Reads a key whose quote is next. -/
def readKey : Reader String := do
  skip
  readString

/-- Reads the colon behind a key. -/
def readColon : Reader Unit := do
  match ← peekToken with
  | some 58 => skip
  | some _ => failAhead .expectedColon
  | none => failAhead .endInObject

/-- Reads the end of a list. -/
def endList : Reader Unit := do
  match ← peekToken with
  | some 93 => skip
  | some 44 =>
    skip
    match ← peekToken with
    | some 93 => failAhead .trailingComma
    | _ => failAhead .trailingCharacters
  | some _ => failAhead .trailingCharacters
  | none => failAhead .endInList

/-- Reads the end of an object. -/
def endObject : Reader Unit := do
  match ← peekToken with
  | some 125 => skip
  | some 44 => failAhead .trailingComma
  | some _ => failAhead .trailingCharacters
  | none => failAhead .endInObject

/-- Reads the items that are left of a list; each takes at least one byte. -/
def items (item : Reader α) (first : Bool) (taken : List α) : Nat → Reader (List α)
  | 0 => return taken.reverse
  | fuel + 1 => do
    if ← hasItem first then items item false ((← item) :: taken) fuel
    else return taken.reverse

/-- Reads the members that are left of an object; each takes at least one byte. -/
def members (value : Reader Json) (first : Bool) (taken : List (String × Json)) :
    Nat → Reader (List (String × Json))
  | 0 => return taken
  | fuel + 1 => do
    if ← hasKey first then
      let key ← readKey
      readColon
      members value false (Json.put key (← value) taken) fuel
    else return taken

/-- The value of a number. -/
def ofNumber : Number → Json
  | .int n => .int n
  | .real d => .real d

/-- Reads a value of any kind, inside which lists and objects may nest to the given depth. -/
def readValue (depth : Nat) : Reader Json := do
  match ← peekToken with
  | none => failAhead .endInValue
  | some 110 => skip; literal nullRest; return .null
  | some 116 => skip; literal trueRest; return .bool true
  | some 102 => skip; literal falseRest; return .bool false
  | some 45 => skip; return ofNumber (← readNumber true)
  | some 34 => skip; return .str (← readString)
  | some 91 =>
    match depth with
    | 0 => failAhead .nestedTooDeep
    | depth + 1 =>
      skip
      let fuel ← left
      located (enclosed (do return .arr (← items (readValue depth) true [] (fuel + 1))) endList)
  | some 123 =>
    match depth with
    | 0 => failAhead .nestedTooDeep
    | depth + 1 =>
      skip
      let fuel ← left
      located (enclosed (do return .obj (← members (readValue depth) true [] (fuel + 1))) endObject)
  | some b =>
    if isDigit b then return ofNumber (← readNumber false) else failAhead .expectedValue

/-- Passes over the digits of an exponent behind its letter. -/
def skipExponent : Reader Unit := do
  skip
  match ← peek with
  | some 43 => skip
  | some 45 => skip
  | _ => pure ()
  match ← next with
  | some b =>
    if isDigit b then let _ ← skipDigits
    else failHere .invalidNumber
  | none => failHere .invalidNumber

/-- Passes over a fraction behind its point. -/
def skipFraction : Reader Unit := do
  skip
  if (← skipDigits) = 0 then failAhead .invalidNumber
  else if isExponentLetter (← peek) then skipExponent

/-- Passes over a number, of which a minus sign has been read if it is negative. -/
def skipNumber : Reader Unit := do
  match ← next with
  | some 48 =>
    match ← peek with
    | some b => if isDigit b then failAhead .invalidNumber
    | none => pure ()
  | some b => if isDigit b then let _ ← skipDigits else failHere .invalidNumber
  | none => failHere .invalidNumber
  let b ← peek
  if b == some 46 then skipFraction
  else if isExponentLetter b then skipExponent

/-- Passes over an escape behind its backslash. -/
def skipEscape : Reader Unit := do
  match ← next with
  | none => failHere .endInString
  | some 117 => let _ ← readHexFour
  | some b =>
    if [34, 92, 47, 98, 102, 110, 114, 116].contains b then return else failHere .invalidEscape

/-- Passes over a string behind its opening quote. -/
def skipString : Nat → Reader Unit
  | 0 => failHere .endInString
  | fuel + 1 => do
    match ← peek with
    | none => failHere .endInString
    | some 34 => skip
    | some 92 => skip; skipEscape; skipString fuel
    | some b => if b < 32 then failHere .controlCharacter else skip; skipString fuel

/-- The kind of a list or object that is being passed over. -/
inductive Bracket where
  | list
  | object
  deriving DecidableEq, Repr

/-- Passes over a value that is no list or object, or over the opening bracket of one. -/
def skipOpening : Reader (Option Bracket) := do
  match ← peekToken with
  | none => failAhead .endInValue
  | some 110 => skip; literal nullRest; return none
  | some 116 => skip; literal trueRest; return none
  | some 102 => skip; literal falseRest; return none
  | some 45 => skip; skipNumber; return none
  | some 34 => skip; skipString ((← left) + 1); return none
  | some 91 => skip; return some .list
  | some 123 => skip; return some .object
  | some b => if isDigit b then skipNumber; return none else failAhead .expectedValue

/-- Passes over closing brackets, as many as there are, up to the next value or the end of the
outermost bracket; `comma` tells that a value of the innermost bracket was passed. -/
def skipClosing (comma : Bool) : Nat → List Bracket → Reader (List Bracket)
  | _, [] => return []
  | 0, open_ => return open_
  | fuel + 1, bracket :: outer => do
    match ← peekToken with
    | none => failAhead (match bracket with | .list => .endInList | .object => .endInObject)
    | some b =>
      if b = 44 ∧ comma then skip; return bracket :: outer
      else if b = (match bracket with | .list => 93 | .object => 125) then
        skip
        skipClosing true fuel outer
      else if comma then
        failAhead (match bracket with
          | .list => .expectedListCommaOrEnd
          | .object => .expectedObjectCommaOrEnd)
      else return bracket :: outer

/-- Passes over a key and its colon. -/
def skipKey : Reader Unit := do
  match ← peekToken with
  | some 34 => skip
  | some _ => failAhead .keyMustBeString
  | none => failAhead .endInObject
  skipString ((← left) + 1)
  readColon

/-- Passes over values until every open bracket is closed. -/
def skipOpen : Nat → List Bracket → Reader Unit
  | 0, _ => return
  | fuel + 1, open_ => do
    let opened ← skipOpening
    let bracket ← (match opened with
      | some bracket => skipClosing false (fuel + 1) (bracket :: open_)
      | none => skipClosing true (fuel + 1) open_)
    match bracket with
    | [] => return
    | .object :: _ => skipKey; skipOpen fuel bracket
    | .list :: _ => skipOpen fuel bracket

/-- Passes over one value of any kind. -/
def skipValue : Reader Unit := do
  skipOpen ((← left) + 1) []

/-- What stands at the cursor, read as far as a number, literal or string goes. -/
def found : Reader Found := do
  match ← peek with
  | some 110 => skip; literal nullRest; return .null
  | some 116 => skip; literal trueRest; return .bool true
  | some 102 => skip; literal falseRest; return .bool false
  | some 45 => skip; return ofRead (← readNumber true)
  | some 34 => skip; return .str (← readString)
  | some 91 => return .list
  | some 123 => return .object
  | some b => if isDigit b then return ofRead (← readNumber false) else failAhead .expectedValue
  | none => failAhead .expectedValue
where
  /-- What a number is found to be. -/
  ofRead : Number → Found
    | .int n => .int n
    | .real d => .real d

/-- Fails because something else stands at the cursor than what was wanted. -/
def unexpected (expected : String) : Reader α :=
  located do failData (.invalidType (← found) expected)

end BearerLogin.Json.Reader
