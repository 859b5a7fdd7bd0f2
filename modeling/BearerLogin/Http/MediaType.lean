/-! Media types as they stand in the headers of a message: a type, a subtype that may have a suffix
behind a plus sign, and parameters. -/

namespace BearerLogin.Http.MediaType

/-- Whether a character may stand in a name. -/
def inName (c : Char) : Bool :=
  c.isAlphanum || "!#$%&'*+-.^_|~".toList.contains c || c.toNat == 96

/-- Whether a character may stand between quotes. -/
def inQuotes (c : Char) : Bool :=
  32 ≤ c.toNat && c.toNat ≠ 127

/-- What follows a value in quotes: spaces, and then nothing or the next parameter. -/
def afterQuotes? : List Char → Option (List Char)
  | [] => some []
  | ' ' :: rest => afterQuotes? rest
  | ';' :: rest => some rest
  | _ => none

/-- Passes over a value in quotes, which has at least one character; the first one may be a quote.
-/
def skipQuoted? : List Char → Option (List Char)
  | [] => none
  | c :: rest =>
    let value := rest.takeWhile fun c => inQuotes c && c ≠ '"'
    match rest.drop value.length with
    | '"' :: rest => if inQuotes c then afterQuotes? rest else none
    | _ => none

/-- Passes over the value of a parameter. -/
def skipValue? : List Char → Option (List Char)
  | '"' :: rest => skipQuoted? rest
  | chars =>
    let value := chars.takeWhile inName
    match chars.drop value.length with
    | [] => some []
    | ';' :: rest => if value.isEmpty then none else some rest
    | _ => none

/-- Whether what follows the first semicolon is a list of parameters; each takes at least one
character. -/
def parametersSound : Nat → List Char → Bool
  | _, [] => true
  | 0, _ => false
  | fuel + 1, chars =>
    let chars := chars.dropWhile (· == ' ')
    if chars.isEmpty then true
    else
      let name := chars.takeWhile inName
      match chars.drop name.length with
      | '=' :: rest =>
        if name.isEmpty then false
        else
          match skipValue? rest with
          | some rest => parametersSound fuel rest
          | none => false
      | _ => false

/-- Whether a subtype is JSON, or has JSON as its suffix behind the last plus sign. -/
def isJsonSubtype (subtype : List Char) : Bool :=
  let json := "json".toList
  let suffix := (subtype.reverse.takeWhile (· ≠ '+')).reverse
  if suffix.length + 1 < subtype.length then
    suffix == json || subtype.take (subtype.length - suffix.length - 1) == json
  else subtype == json

/-- Whether a text is a media type for JSON. -/
def isJson (text : String) : Bool :=
  let chars := text.toList.map Char.toLower
  let type := chars.takeWhile inName
  match chars.drop type.length with
  | '/' :: rest =>
    let subtype := rest.takeWhile inName
    let sound :=
      match rest.drop subtype.length with
      | [] => true
      | ';' :: parameters => !subtype.isEmpty && parametersSound text.length parameters
      | _ => false
    sound && type == "application".toList && isJsonSubtype subtype
  | _ => false

end BearerLogin.Http.MediaType
