import BearerLogin.Base64

/-! Blocks of encoded bytes in text.  A block begins with a line `-----BEGIN label-----`, ends with
a line `-----END label-----`, and has Base64 in between; text outside of blocks is passed over. -/

namespace BearerLogin.Certificate.Pem

/-- A block. -/
structure Block where
  label : List UInt8
  bytes : List UInt8
  deriving DecidableEq, Repr

/-- The bytes of a text in ASCII. -/
def ascii (text : String) : List UInt8 :=
  text.toList.map fun c => UInt8.ofNat c.toNat

/-- The lines of a text; a line ends with a line feed or a carriage return. -/
def lines : List UInt8 → List (List UInt8)
  | [] => [[]]
  | b :: rest =>
    if b = 10 ∨ b = 13 then [] :: lines rest
    else
      match lines rest with
      | [] => [[b]]
      | line :: others => (b :: line) :: others

/-- What a line that begins a block starts with. -/
def beginMark : List UInt8 := ascii "-----BEGIN "

/-- The hyphens that close a line with a label. -/
def closing : List UInt8 := ascii "-----"

/-- Whether a byte is a blank. -/
def isBlank (b : UInt8) : Bool :=
  b == 32 || (9 ≤ b && b ≤ 13)

/-- The label in a line that begins a block: exactly five hyphens close it, and spaces may follow.
-/
def labelOf? (line : List UInt8) : Option (List UInt8) :=
  let tail := (line.reverse.takeWhile fun b => b == 45 || b == 32).reverse.dropWhile (· == 32)
  if tail.count 45 = 5 then some ((line.take (line.length - tail.length)).drop beginMark.length)
  else none

/-- The labels of blocks whose contents are decoded; other blocks are passed over. -/
def knownLabels : List (List UInt8) :=
  ["CERTIFICATE", "PUBLIC KEY", "RSA PRIVATE KEY", "PRIVATE KEY", "EC PRIVATE KEY", "X509 CRL",
    "CERTIFICATE REQUEST", "ECHCONFIG"].map ascii

/-- The bytes that symbols stand for, in groups of four. -/
def groups : List Nat → Option (List UInt8)
  | [] => some []
  | [_] => none
  | [w, x] => some (Base64.lastBytes [w, x]).1
  | [w, x, y] => some (Base64.lastBytes [w, x, y]).1
  | w :: x :: y :: z :: rest => (groups rest).map (Base64.groupBytes w x y z ++ ·)

/-- The contents of a block: blanks do not count, and at most two padding bytes may end them. -/
def decode? (contents : List UInt8) : Option (List UInt8) := do
  let symbols := contents.filter fun b => !isBlank b
  let padding := (symbols.reverse.takeWhile (· == Base64.pad)).length
  guard (padding ≤ 2)
  groups (← (symbols.take (symbols.length - padding)).mapM (Base64.value? Base64.standard))

/-- The blocks in the lines that are left.  `label` is the label of the block that has begun, and
`contents` what was read of it. -/
def blocksFrom (label : Option (List UInt8)) (contents : List UInt8) :
    List (List UInt8) → Option (List Block)
  | [] => if label.isNone then some [] else none
  | line :: rest =>
    if beginMark.isPrefixOf line then
      match labelOf? line with
      | some label => blocksFrom (some label) contents rest
      | none => none
    else
      match label with
      | none => blocksFrom none contents rest
      | some name =>
        if (ascii "-----END " ++ name ++ closing).isPrefixOf line then
          if knownLabels.contains name then do
            let bytes ← decode? contents
            return ⟨name, bytes⟩ :: (← blocksFrom none [] rest)
          else blocksFrom none [] rest
        else blocksFrom label (contents ++ line) rest

/-- The blocks of a text, unless one of them is broken. -/
def blocks? (text : List UInt8) : Option (List Block) :=
  blocksFrom none [] (lines text)

end BearerLogin.Certificate.Pem
