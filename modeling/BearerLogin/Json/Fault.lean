import BearerLogin.Double.Shortest
import BearerLogin.Text.Quoted

/-! Why a JSON text cannot be read as a value of the wanted shape.  A fault of syntax is one of the
text alone; a fault of data says which part of a well-formed text does not fit.  Both are reported
with the line and the column, in bytes, at which reading stopped. -/

namespace BearerLogin.Json

/-- Faults of the text alone. -/
inductive SyntaxFault where
  | endInList
  | endInObject
  | endInString
  | endInValue
  | expectedColon
  | expectedListCommaOrEnd
  | expectedObjectCommaOrEnd
  | expectedIdentifier
  | expectedValue
  | invalidEscape
  | invalidNumber
  | numberOutOfRange
  | invalidCodePoint
  | controlCharacter
  | keyMustBeString
  | loneSurrogate
  | trailingComma
  | trailingCharacters
  | unexpectedEndOfEscape
  | nestedTooDeep
  deriving DecidableEq, Repr

/-- The wording of a fault of syntax. -/
def SyntaxFault.message : SyntaxFault → String
  | .endInList => "EOF while parsing a list"
  | .endInObject => "EOF while parsing an object"
  | .endInString => "EOF while parsing a string"
  | .endInValue => "EOF while parsing a value"
  | .expectedColon => "expected `:`"
  | .expectedListCommaOrEnd => "expected `,` or `]`"
  | .expectedObjectCommaOrEnd => "expected `,` or `\x7d`"
  | .expectedIdentifier => "expected ident"
  | .expectedValue => "expected value"
  | .invalidEscape => "invalid escape"
  | .invalidNumber => "invalid number"
  | .numberOutOfRange => "number out of range"
  | .invalidCodePoint => "invalid unicode code point"
  | .controlCharacter => "control character (\\u0000-\\u001F) found while parsing a string"
  | .keyMustBeString => "key must be a string"
  | .loneSurrogate => "lone leading surrogate in hex escape"
  | .trailingComma => "trailing comma"
  | .trailingCharacters => "trailing characters"
  | .unexpectedEndOfEscape => "unexpected end of hex escape"
  | .nestedTooDeep => "recursion limit exceeded"

/-- What was found where something else was wanted. -/
inductive Found where
  | null
  | bool (b : Bool)
  | int (n : Int)
  | real (d : Double)
  | str (s : String)
  | list
  | object
  deriving DecidableEq, Repr

/-- The wording for what was found. -/
def Found.message : Found → String
  | .null => "null"
  | .bool b => s!"boolean `{Text.Quoted.flag b}`"
  | .int n => s!"integer `{n}`"
  | .real d => s!"floating point `{d.render}`"
  | .str s => "string " ++ Text.Quoted.text s
  | .list => "sequence"
  | .object => "map"

/-- Faults of the data in a well-formed text. -/
inductive DataFault where
  | invalidType (found : Found) (expected : String)
  | invalidLength (length : Nat) (expected : String)
  | unknownVariant (name : String) (variants : List String)
  | missingField (name : String)
  | duplicateField (name : String)
  | noVariantMatches (type : String)
  | other (detail : String)
  deriving DecidableEq, Repr

/-- The choice between names, each in backquotes. -/
def oneOf : List String → String
  | [] => "there are no variants"
  | [a] => s!"expected `{a}`"
  | [a, b] => s!"expected `{a}` or `{b}`"
  | names => "expected one of " ++ ", ".intercalate (names.map fun n => s!"`{n}`")

/-- The wording of a fault of data. -/
def DataFault.message : DataFault → String
  | .invalidType found expected => s!"invalid type: {found.message}, expected {expected}"
  | .invalidLength length expected => s!"invalid length {length}, expected {expected}"
  | .unknownVariant name variants => s!"unknown variant `{name}`, {oneOf variants}"
  | .missingField name => s!"missing field `{name}`"
  | .duplicateField name => s!"duplicate field `{name}`"
  | .noVariantMatches type => s!"data did not match any variant of untagged enum {type}"
  | .other detail => detail

/-- The cause of a fault. -/
inductive Cause where
  | badSyntax (fault : SyntaxFault)
  | badData (fault : DataFault)
  deriving DecidableEq, Repr

def Cause.message : Cause → String
  | .badSyntax fault => fault.message
  | .badData fault => fault.message

/-- A place in a text: a line, counted from one, and the number of bytes read of it. -/
structure Position where
  line : Nat
  column : Nat
  deriving DecidableEq, Repr

/-- A fault, the place where reading stopped, and the members and items on the way to it where
these are recorded. -/
structure Fault where
  cause : Cause
  position : Option Position := none
  path : Option String := none
  deriving DecidableEq, Repr

/-- Whether the text is malformed, as opposed to holding the wrong data. -/
def Fault.isSyntax (fault : Fault) : Bool :=
  match fault.cause with
  | .badSyntax _ => true
  | .badData _ => false

/-- The wording of a fault with its place. -/
def Fault.message (fault : Fault) : String :=
  match fault.position with
  | some p => s!"{fault.cause.message} at line {p.line} column {p.column}"
  | none => fault.cause.message

/-- The wording of a fault, with the path to it in front if there is one. -/
def Fault.messageWithPath (fault : Fault) : String :=
  match fault.path with
  | some path => path ++ ": " ++ fault.message
  | none => fault.message

end BearerLogin.Json
