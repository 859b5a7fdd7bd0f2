import BearerLogin.Text.Composition
import BearerLogin.Url.Domain.CharacterClass
import BearerLogin.Url.Domain.Mapping
import BearerLogin.Url.Punycode

/-! Domain names as they are sent: every character is mapped, the text is composed, each label is
checked, and labels with characters outside ASCII are written in Punycode behind `xn--`.  A label
that is already in this form is decoded and checked like the others.  Hyphens may stand anywhere,
and the length of labels is limited only where they have to be encoded or decoded. -/

namespace BearerLogin.Url.Domain

/-- The ASCII characters that no domain name holds. -/
def isForbidden (c : Char) : Bool :=
  c.toNat ≤ 32 || c.toNat == 127 || "%#/:<>?@[\\]^|".toList.contains c

/-- Whether a character is outside ASCII. -/
def isForeign (c : Char) : Bool :=
  128 ≤ c.toNat

/-- What marks a label as Punycode. -/
def marker : List Char := ['x', 'n', '-', '-']

/-- The longest texts that are encoded and decoded, in characters. -/
def maxEncoded : Nat := 1000
def maxDecoded : Nat := 2000

/-- The labels of a name: the runs of characters between dots. -/
def labels : List Char → List (List Char)
  | [] => [[]]
  | '.' :: rest => [] :: labels rest
  | c :: rest =>
    match labels rest with
    | [] => [[c]]
    | label :: others => (c :: label) :: others

/-- The mapped and composed form of a name. -/
def mapped? (name : List Char) : Option (List Char) := do
  let chars ← name.mapM mapChar?
  return Text.Composition.compose chars.flatten

/-- The text of a label that may be written in Punycode.  What is decoded has to be in the mapped
and composed form already, and to need Punycode. -/
def plainLabel? (label : List Char) : Option (List Char) :=
  if label.take 4 = marker then do
    guard (label.length - 4 ≤ maxDecoded)
    let text ← Punycode.decode? (label.drop 4)
    if text.any isForeign && text.all isKept && Text.Composition.compose text == text then
      some text
    else none
  else some label

/-- Whether a letter that joins the one behind it comes next in a text that is read backwards. -/
def joinsNext : List Char → Bool
  | [] => false
  | c :: rest =>
    match joining c with
    | .transparent => joinsNext rest
    | .left | .dual => true
    | _ => false

/-- Whether a letter that joins the one before it comes next in a text. -/
def joinsPrevious : List Char → Bool
  | [] => false
  | c :: rest =>
    match joining c with
    | .transparent => joinsPrevious rest
    | .right | .dual => true
    | _ => false

/-- Whether every joiner of a label stands where it has an effect: behind a virama, or, for the one
that keeps letters apart, between letters that would join.  `before` is read backwards. -/
def joinersAllowed (before : List Char) : List Char → Bool
  | [] => true
  | c :: rest =>
    let afterVirama := (before.head?.map Text.Composition.combiningClass) == some 9
    let allowed :=
      if c.toNat = 0x200D then afterVirama
      else if c.toNat = 0x200C then afterVirama || (joinsNext before && joinsPrevious rest)
      else true
    allowed && joinersAllowed (c :: before) rest

/-- Whether a label may stand in a name that is partly written from right to left.  The first
character settles the direction of the label; at the end, apart from marks, stands a letter of that
direction or a number. -/
def directionAllowed (label : List Char) : Bool :=
  let directions := label.map direction
  let body := (directions.reverse.dropWhile (· == .nonspacingMark))
  let neutral : List Direction :=
    [.europeanNumber, .europeanSeparator, .commonSeparator, .europeanTerminator, .otherNeutral,
      .boundaryNeutral, .nonspacingMark]
  match directions, body with
  | [], _ => true
  | .leftToRight :: _, last :: _ =>
    directions.all (fun d => d == .leftToRight || neutral.contains d) &&
      (last == .leftToRight || last == .europeanNumber)
  | first :: _, last :: _ =>
    (first == .rightToLeft || first == .arabicLetter) &&
      directions.all (fun d => d == .rightToLeft || d == .arabicLetter || d == .arabicNumber ||
        neutral.contains d) &&
      (last == .rightToLeft || last == .arabicLetter || last == .europeanNumber ||
        last == .arabicNumber) &&
      !(directions.contains .europeanNumber && directions.contains .arabicNumber)
  | _, [] => false

/-- Whether a label has a character that is written from right to left. -/
def hasRightToLeft (label : List Char) : Bool :=
  label.any fun c =>
    let d := direction c
    d == .rightToLeft || d == .arabicLetter || d == .arabicNumber

/-- Whether a label may stand in a name; `mixed` tells that the name is partly written from right to
left. -/
def labelAllowed (mixed : Bool) (label : List Char) : Bool :=
  !(label.head?.map isMark == some true) && joinersAllowed [] label && !label.any isForbidden &&
    (!mixed || directionAllowed label)

/-- A label as it is sent. -/
def written? (label : List Char) : Option (List Char) :=
  if !label.any isForeign then some label
  else if label.length ≤ maxEncoded then some (marker ++ Punycode.encode label)
  else none

/-- The form in which a domain name is sent, if it is one. -/
def toAscii? (name : String) : Option String := do
  let chars ← mapped? name.toList
  let plain ← (labels chars).mapM plainLabel?
  let mixed := plain.any hasRightToLeft
  if plain.all (labelAllowed mixed) then
    let sent ← plain.mapM written?
    some (String.ofList (['.'].intercalate sent))
  else none

end BearerLogin.Url.Domain
