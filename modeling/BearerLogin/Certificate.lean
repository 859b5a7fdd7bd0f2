import BearerLogin.Certificate.Der
import BearerLogin.Certificate.Pem
import BearerLogin.Text.Utf8

/-! Certificates that are trusted to vouch for servers.  Only their shape is checked: the parts of
an X.509 certificate of version 3, or of version 1 without extensions, have to stand in order, and
no critical extension may be unknown. -/

namespace BearerLogin.Certificate

open Der

/-- An extension of a certificate. -/
structure Extension where
  id : List UInt8
  critical : Bool
  value : List UInt8
  deriving DecidableEq, Repr

namespace Extension

/-- Reads an extension from its contents. -/
def ofContents? (contents : List UInt8) : Option Extension := do
  let (id, rest) ← take? objectId contents
  let (critical, rest) ←
    if rest.head? = some boolean then do
      let (flag, rest) ← take? boolean rest
      match flag with
      | [255] => some (true, rest)
      | [0] => some (false, rest)
      | _ => none
    else some (false, rest)
  return ⟨id, critical, ← only? octetString rest⟩

/-- The standard extensions that are understood: key usage, alternative names, basic constraints,
name constraints, revocation lists and extended key usage. -/
def understood : List UInt8 := [15, 17, 19, 30, 31, 37]

/-- The number of a standard extension that is understood. -/
def number? (extension : Extension) : Option UInt8 :=
  match extension.id with
  | [85, 29, n] => if understood.contains n then some n else none
  | _ => none

/-- Whether the value of an extension has the right shape: apart from key usage, it is a sequence.
-/
def isSound (extension : Extension) : Bool :=
  match extension.number? with
  | none => !extension.critical
  | some n => n == 15 || (only? sequence extension.value).isSome

/-- Whether no extension that is understood occurs twice, and all of them have the right shape. -/
def allSound (extensions : List Extension) : Bool :=
  let numbers := extensions.filterMap number?
  extensions.all isSound && numbers.eraseDups.length == numbers.length

end Extension

/-- Whether what is left of a certificate is nothing or its extensions. -/
def extensionsSound (rest : List UInt8) : Bool :=
  rest.isEmpty ||
    (((only? (numbered 3) rest).bind (only? sequence)).bind fun list => do
      let contents ← all? sequence list
      guard !contents.isEmpty
      contents.mapM Extension.ofContents?).any Extension.allSound

/-- Whether the signed part is one of version 3 for the given signature algorithm. -/
def isVersion3 (algorithm signed : List UInt8) : Bool :=
  (do
    let (version, rest) ← take? (numbered 0) signed
    guard ((← only? integer version) = [2])
    let (_, rest) ← take? integer rest
    let (inner, rest) ← take? sequence rest
    guard (inner = algorithm)
    let (_, rest) ← take? sequence rest
    let (_, rest) ← take? sequence rest
    let (_, rest) ← take? sequence rest
    let (_, rest) ← take? sequence rest
    return extensionsSound rest : Option Bool).getD false

/-- Whether the signed part is one of version 1. -/
def isVersion1 (signed : List UInt8) : Bool :=
  (do
    let (_, rest) ← take? integer signed
    let (_, rest) ← take? sequence rest
    let (_, rest) ← take? sequence rest
    let (_, rest) ← take? sequence rest
    let (_, rest) ← take? sequence rest
    let (_, rest) ← take? sequence rest
    return rest.isEmpty : Option Bool).getD false

/-- Whether bytes are a certificate that can be trusted. -/
def isTrustable (bytes : List UInt8) : Bool :=
  (do
    let contents ← only? sequence bytes
    let (signed, rest) ← take? sequence contents
    let (algorithm, rest) ← take? sequence rest
    let signature ← only? bitString rest
    return (signature.head? == some 0 && isVersion3 algorithm signed) || isVersion1 signed :
    Option Bool).getD false

/-- Whether every certificate in a text can be trusted; a text without any is fine. -/
def allTrustable (text : String) : Bool :=
  match Pem.blocks? (Text.utf8 text) with
  | none => false
  | some blocks =>
    (blocks.filter (·.label == Pem.ascii "CERTIFICATE")).all fun block => isTrustable block.bytes

end BearerLogin.Certificate
