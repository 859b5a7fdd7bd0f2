/-! Values in the distinguished encoding of ASN.1: a tag, the length of the contents in the shortest
form, and the contents.  Only tags of one byte and contents of less than 65535 bytes are admitted.
-/

namespace BearerLogin.Certificate.Der

/-- The tags that certificates are made of. -/
def boolean : UInt8 := 0x01
def integer : UInt8 := 0x02
def bitString : UInt8 := 0x03
def octetString : UInt8 := 0x04
def objectId : UInt8 := 0x06
def sequence : UInt8 := 0x30

/-- The tag of a part that is told apart by its number. -/
def numbered (n : UInt8) : UInt8 := 0xa0 + n

/-- The number that bytes stand for, the most significant one first. -/
def numberOf (bytes : List UInt8) : Nat :=
  bytes.foldl (fun n b => 256 * n + b.toNat) 0

/-- The least length that is written with a number of bytes behind the first one. -/
def leastLength (count : Nat) : Nat :=
  if count = 1 then 128 else Nat.pow 256 (count - 1)

/-- Reads the length of contents, and gives what follows it.  A length that would fit into fewer
bytes is refused. -/
def takeLength? : List UInt8 → Option (Nat × List UInt8)
  | [] => none
  | b :: rest =>
    if b < 128 then some (b.toNat, rest)
    else
      let count := b.toNat - 128
      let length := numberOf (rest.take count)
      if 1 ≤ count ∧ count ≤ 4 ∧ count ≤ rest.length ∧ leastLength count ≤ length then
        some (length, rest.drop count)
      else none

/-- Reads a value with the given tag: its contents and what follows it. -/
def take? (tag : UInt8) : List UInt8 → Option (List UInt8 × List UInt8)
  | [] => none
  | b :: rest =>
    if b ≠ tag then none
    else
      match takeLength? rest with
      | some (length, rest) =>
        if length < 65535 ∧ length ≤ rest.length then some (rest.take length, rest.drop length)
        else none
      | none => none

theorem takeLength?_length {bytes rest : List UInt8} {n : Nat}
    (h : takeLength? bytes = some (n, rest)) : rest.length < bytes.length := by
  cases bytes with
  | nil => simp [takeLength?] at h
  | cons b tail =>
    simp only [takeLength?] at h
    split at h
    · simp only [Option.some.injEq, Prod.mk.injEq] at h
      simp [← h.2]
    · split at h
      · simp only [Option.some.injEq, Prod.mk.injEq] at h
        simp only [← h.2, List.length_drop, List.length_cons]
        omega
      · simp at h

theorem take?_length {tag : UInt8} {bytes contents rest : List UInt8}
    (h : take? tag bytes = some (contents, rest)) : rest.length < bytes.length := by
  cases bytes with
  | nil => simp [take?] at h
  | cons b tail =>
    simp only [take?] at h
    split at h
    · simp at h
    · split at h
      · rename_i hl
        split at h
        · simp only [Option.some.injEq, Prod.mk.injEq] at h
          have := takeLength?_length hl
          simp only [← h.2, List.length_drop, List.length_cons]
          omega
        · simp at h
      · simp at h

/-- The contents of values with the given tag that stand one behind the other. -/
def all? (tag : UInt8) (bytes : List UInt8) : Option (List (List UInt8)) :=
  match bytes with
  | [] => some []
  | b :: more =>
    match h : take? tag (b :: more) with
    | none => none
    | some (contents, rest) =>
      have : rest.length < (b :: more).length := take?_length h
      (all? tag rest).map (contents :: ·)
termination_by bytes.length
decreasing_by exact this

/-- The contents of the one value that the bytes are. -/
def only? (tag : UInt8) (bytes : List UInt8) : Option (List UInt8) := do
  let (contents, rest) ← take? tag bytes
  guard rest.isEmpty
  return contents

end BearerLogin.Certificate.Der
