import BearerLogin.Text.Composition.Table

/-! Canonical composition of text, the form in which equal texts have equal characters: every
character is taken apart, the marks behind a letter are sorted by their combining class, and then
letters and marks are joined again as far as possible.  Characters that stand for one other
character are not replaced here; the mapping of domain names does that. -/

namespace BearerLogin.Text.Composition

/-- The combining class of a character: zero unless it is a mark that is sorted. -/
def combiningClass (c : Char) : Nat :=
  ((combiningClasses.find? c).map (·.2)).getD 0

/-- The first syllable of Hangul, and the code points before the first vowel and final that a
syllable can be taken apart into. -/
def hangulBase : Nat := 0xAC00
def leadBase : Nat := 0x1100
def vowelBase : Nat := 0x1161
def finalBase : Nat := 0x11A7

/-- The numbers of leads, of vowels, and of finals including the missing one. -/
def leadCount : Nat := 19
def vowelCount : Nat := 21
def finalCount : Nat := 28

/-- The two or three parts of a syllable of Hangul. -/
def hangulParts? (c : Char) : Option (List Char) :=
  let n := c.toNat
  if hangulBase ≤ n ∧ n < hangulBase + leadCount * vowelCount * finalCount then
    let index := n - hangulBase
    let lead := Char.ofNat (leadBase + index / (vowelCount * finalCount))
    let vowel := Char.ofNat (vowelBase + index % (vowelCount * finalCount) / finalCount)
    let final := index % finalCount
    if final = 0 then some [lead, vowel] else some [lead, vowel, Char.ofNat (finalBase + final)]
  else none

/-- The two characters that a composite stands for. -/
def parts? (c : Char) : Option (Char × Char) :=
  match composites.find? c with
  | some (_, [a, b]) => some (Char.ofNat a, Char.ofNat b)
  | _ => none

/-- How many times a character can be taken apart at most. -/
def maxDepth : Nat := 8

/-- A character taken apart as far as possible. -/
def decomposeChar : Nat → Char → List Char
  | 0, c => [c]
  | depth + 1, c =>
    match hangulParts? c with
    | some parts => parts
    | none =>
      match parts? c with
      | some (a, b) => decomposeChar depth a ++ [b]
      | none => [c]

/-- Puts a mark in front of the sorted marks at the head of a text, behind those of a lower class.
-/
def insertMark (c : Char) (rank : Nat) : List Char → List Char
  | [] => [c]
  | d :: rest =>
    let other := combiningClass d
    if other ≠ 0 ∧ other < rank then d :: insertMark c rank rest else c :: d :: rest

/-- Sorts every run of marks by class and keeps the order of those of one class. -/
def sortMarks : List Char → List Char
  | [] => []
  | c :: rest =>
    let rank := combiningClass c
    if rank = 0 then c :: sortMarks rest else insertMark c rank (sortMarks rest)

/-- A composite behind its two parts, by which these entries are ordered. -/
structure Join where
  first : Nat
  second : Nat
  composite : Nat

/-- The entry for a composite. -/
def Join.ofEntry? (entry : CodeRange × List Nat) : Option Join :=
  match entry.2 with
  | [a, b] => some ⟨a, b, entry.1.first⟩
  | _ => none

/-- Whether an entry does not come after another one. -/
def Join.le (x y : Join) : Bool :=
  x.first < y.first || (x.first == y.first && x.second ≤ y.second)

/-- The composites of a table by their parts. -/
def Join.ofTable (table : CodeTable (List Nat)) : Array Join :=
  ((table.entries.toList.filterMap Join.ofEntry?).mergeSort Join.le).toArray

/-- All composites by their parts. -/
def joins : Array Join := Join.ofTable composites

/-- Bisection: looks for two parts among the entries `low ≤ i < high`. -/
def searchJoin (joins : Array Join) (a b low high : Nat) : Option Nat :=
  if low < high then
    let middle := (low + high) / 2
    match joins[middle]? with
    | none => none
    | some join =>
      if a = join.first ∧ b = join.second then some join.composite
      else if Join.le join ⟨a, b, 0⟩ then searchJoin joins a b (middle + 1) high
      else searchJoin joins a b low middle
  else none
termination_by high - low

/-- The syllable of Hangul that two parts make. -/
def hangulJoin? (a b : Nat) : Option Nat :=
  if leadBase ≤ a ∧ a < leadBase + leadCount ∧ vowelBase ≤ b ∧ b < vowelBase + vowelCount then
    some (hangulBase + ((a - leadBase) * vowelCount + (b - vowelBase)) * finalCount)
  else if hangulBase ≤ a ∧ a < hangulBase + leadCount * vowelCount * finalCount ∧
      (a - hangulBase) % finalCount = 0 ∧ finalBase < b ∧ b < finalBase + finalCount then
    some (a + (b - finalBase))
  else none

/-- The character that stands for two others. -/
def join? (a b : Char) : Option Char :=
  ((hangulJoin? a.toNat b.toNat).orElse fun _ =>
    searchJoin joins a.toNat b.toNat 0 joins.size).map Char.ofNat

/-- Joins what follows the letter `starter`: `passed` are the marks, last one first, that could not
be joined to it, and a character is blocked by a passed mark of the same or a higher class. -/
def composeFrom (starter : Char) (passed : List Char) : List Char → List Char
  | [] => starter :: passed.reverse
  | c :: rest =>
    let rank := combiningClass c
    let blocked :=
      match passed with
      | [] => false
      | last :: _ => rank ≤ combiningClass last
    match if blocked then none else join? starter c with
    | some joined => composeFrom joined passed rest
    | none =>
      if rank = 0 then (starter :: passed.reverse) ++ composeFrom c [] rest
      else composeFrom starter (c :: passed) rest

/-- Joins letters and marks.  Marks in front of the first letter stay as they are. -/
def joinMarks : List Char → List Char
  | [] => []
  | c :: rest => if combiningClass c = 0 then composeFrom c [] rest else c :: joinMarks rest

/-- The composed form of a text. -/
def compose (chars : List Char) : List Char :=
  joinMarks (sortMarks (chars.flatMap (decomposeChar maxDepth)))

end BearerLogin.Text.Composition
