/-! Base64 in the two alphabets of this library: the standard one, which is padded, and the URL-safe
one, which is not.  Decoding accepts exactly what encoding writes, and names the first fault: where
a byte outside the alphabet stands, that the length cannot arise, that the last symbol carries bits
that encode nothing, or that the padding is not the canonical one. -/

namespace BearerLogin.Base64

/-- An alphabet together with its padding rule. -/
structure Variant where
  /-- The symbol for 62. -/
  plus : UInt8
  /-- The symbol for 63. -/
  slash : UInt8
  /-- Whether the last group is filled up with padding. -/
  padded : Bool
  deriving DecidableEq, Repr

/-- The standard alphabet, padded. -/
def standard : Variant := ⟨43, 47, true⟩

/-- The URL-safe alphabet, without padding. -/
def urlSafe : Variant := ⟨45, 95, false⟩

/-- The padding byte. -/
def pad : UInt8 := 61

/-- Why a text is not the encoding of any bytes. -/
inductive Fault where
  | invalidSymbol (symbol : UInt8) (offset : Nat)
  | invalidLength (length : Nat)
  | invalidLastSymbol (symbol : UInt8) (offset : Nat)
  | invalidPadding
  deriving DecidableEq, Repr

/-- The wording of a fault. -/
def Fault.message : Fault → String
  | .invalidSymbol symbol offset => s!"Invalid symbol {symbol}, offset {offset}."
  | .invalidLength length => s!"Invalid input length: {length}"
  | .invalidLastSymbol symbol offset => s!"Invalid last symbol {symbol}, offset {offset}."
  | .invalidPadding => "Invalid padding"

/-- The symbol for a number below 64. -/
def symbol (v : Variant) (n : Nat) : UInt8 :=
  if n < 26 then UInt8.ofNat (65 + n)
  else if n < 52 then UInt8.ofNat (97 + (n - 26))
  else if n < 62 then UInt8.ofNat (48 + (n - 52))
  else if n = 62 then v.plus
  else v.slash

/-- The number that a symbol stands for. -/
def value? (v : Variant) (b : UInt8) : Option Nat :=
  let n := b.toNat
  if 65 ≤ n ∧ n ≤ 90 then some (n - 65)
  else if 97 ≤ n ∧ n ≤ 122 then some (n - 97 + 26)
  else if 48 ≤ n ∧ n ≤ 57 then some (n - 48 + 52)
  else if b = v.plus then some 62
  else if b = v.slash then some 63
  else none

/-- The padding that fills a last group of `n` symbols. -/
def padding (v : Variant) (n : Nat) : List UInt8 :=
  if v.padded then List.replicate n pad else []

/-- The encoding of a list of bytes. -/
def encode (v : Variant) : List UInt8 → List UInt8
  | [] => []
  | [a] =>
    [symbol v (a.toNat / 4), symbol v (a.toNat % 4 * 16)] ++ padding v 2
  | [a, b] =>
    [symbol v (a.toNat / 4), symbol v (a.toNat % 4 * 16 + b.toNat / 16),
      symbol v (b.toNat % 16 * 4)] ++ padding v 1
  | a :: b :: c :: rest =>
    symbol v (a.toNat / 4) :: symbol v (a.toNat % 4 * 16 + b.toNat / 16) ::
      symbol v (b.toNat % 16 * 4 + c.toNat / 64) :: symbol v (c.toNat % 64) :: encode v rest

/-- The number of the symbol at `offset`, or the fault that it is none. -/
def valueAt (v : Variant) (offset : Nat) (b : UInt8) : Except Fault Nat :=
  match value? v b with
  | some n => .ok n
  | none => .error (.invalidSymbol b offset)

/-- The three bytes of a group of four symbols. -/
def groupBytes (w x y z : Nat) : List UInt8 :=
  [UInt8.ofNat (w * 4 + x / 16), UInt8.ofNat (x % 16 * 16 + y / 4), UInt8.ofNat (y % 4 * 64 + z)]

/-- What has been read of the last group: the numbers and the symbols so far, and where the padding
began. -/
structure LastGroup where
  values : List Nat := []
  symbols : List UInt8 := []
  firstPad : Option Nat := none
  pads : Nat := 0

/-- Reads the last group.  Padding may stand only after two symbols, and nothing but padding after
it. -/
def readLast (v : Variant) (offset : Nat) : Nat → LastGroup → List UInt8 → Except Fault LastGroup
  | _, group, [] => .ok group
  | i, group, b :: rest =>
    if b = pad then
      if i < 2 then .error (.invalidSymbol b (offset + i))
      else
        readLast v offset (i + 1)
          { group with firstPad := some (group.firstPad.getD i), pads := group.pads + 1 } rest
    else
      match group.firstPad with
      | some first => .error (.invalidSymbol pad (offset + first))
      | none =>
        match valueAt v (offset + i) b with
        | .error e => .error e
        | .ok n =>
          readLast v offset (i + 1)
            { group with values := group.values ++ [n], symbols := group.symbols ++ [b] } rest

/-- The bytes of the last group, and the bits of its last symbol that encode nothing. -/
def lastBytes : List Nat → List UInt8 × Nat
  | [w, x] => ([UInt8.ofNat (w * 4 + x / 16)], x % 16)
  | [w, x, y] => ([UInt8.ofNat (w * 4 + x / 16), UInt8.ofNat (x % 16 * 16 + y / 4)], y % 4)
  | [w, x, y, z] => (groupBytes w x y z, 0)
  | _ => ([], 0)

/-- Whether the padding of the last group is the one that encoding writes. -/
def paddingCanonical (v : Variant) (group : LastGroup) : Bool :=
  if v.padded then (group.pads + group.values.length) % 4 == 0 else group.pads == 0

/-- Decodes the last group, of at most four bytes of input. -/
def decodeLast (v : Variant) (offset : Nat) (input : List UInt8) : Except Fault (List UInt8) :=
  match readLast v offset 0 {} input with
  | .error e => .error e
  | .ok group =>
    if (offset ≠ 0 ∨ input ≠ []) ∧ group.values.length < 2 then
      .error (.invalidLength (offset + group.values.length))
    else if !paddingCanonical v group then .error .invalidPadding
    else
      let (bytes, spare) := lastBytes group.values
      if spare ≠ 0 then
        .error (.invalidLastSymbol (group.symbols.getLast?.getD 0)
          (offset + group.values.length - 1))
      else .ok bytes

/-- Decodes group by group.  A group with more input after it has four symbols and no padding. -/
def decodeGroups (v : Variant) (offset : Nat) : List UInt8 → Except Fault (List UInt8)
  | a :: b :: c :: d :: e :: rest => do
    let w ← valueAt v offset a
    let x ← valueAt v (offset + 1) b
    let y ← valueAt v (offset + 2) c
    let z ← valueAt v (offset + 3) d
    let bytes ← decodeGroups v (offset + 4) (e :: rest)
    return groupBytes w x y z ++ bytes
  | last => decodeLast v offset last

/-- The bytes that a text encodes.  A stray last byte, such as a line end, is reported before
anything else. -/
def decode (v : Variant) (input : List UInt8) : Except Fault (List UInt8) :=
  match input.getLast? with
  | some last =>
    if input.length % 4 = 1 ∧ last ≠ pad ∧ value? v last = none then
      .error (.invalidSymbol last (input.length - 1))
    else decodeGroups v 0 input
  | none => .ok []

end BearerLogin.Base64
