/-! Punycode, the form in which a label of a domain name with characters outside ASCII is written in
ASCII.  The ASCII characters come first; behind the last hyphen stand numbers of variable length
that tell, in ascending order of code points, how far it is from one insertion to the next.  The
threshold of each digit follows a bias that adapts to the numbers seen so far. -/

namespace BearerLogin.Url.Punycode

/-- The number of digits, and the bounds of the threshold of a digit. -/
def base : Nat := 36
def tMin : Nat := 1
def tMax : Nat := 26

/-- The bias and the code point at which both directions start. -/
def initialBias : Nat := 72
def initialPoint : Nat := 128

/-- The digit for a number below `base`. -/
def digit (n : Nat) : Char :=
  if n < 26 then Char.ofNat (97 + n) else Char.ofNat (22 + n)

/-- The number that a digit stands for; the case of a letter does not matter. -/
def digitValue? (c : Char) : Option Nat :=
  if 'a' ≤ c ∧ c ≤ 'z' then some (c.toNat - 97)
  else if 'A' ≤ c ∧ c ≤ 'Z' then some (c.toNat - 65)
  else if '0' ≤ c ∧ c ≤ '9' then some (c.toNat - 22)
  else none

/-- The threshold of the digit at position `k`: a digit below it is the last one of its number. -/
def threshold (k bias : Nat) : Nat :=
  max tMin (min tMax (k - bias))

theorem threshold_pos (k bias : Nat) : 0 < threshold k bias :=
  Nat.lt_of_lt_of_le (by decide) (Nat.le_max_left ..)

/-- Divides a distance until it is small, and counts the divisions in steps of `base`. -/
def shrink (delta k : Nat) : Nat × Nat :=
  if 455 < delta then shrink (delta / 35) (k + base) else (delta, k)
termination_by delta
decreasing_by omega

/-- The bias after an insertion at distance `delta`, which made the text `length` characters long.
-/
def adapt (delta length : Nat) (isFirst : Bool) : Nat :=
  let damped := if isFirst then delta / 700 else delta / 2
  let (delta, k) := shrink (damped + damped / length) 0
  k + base * delta / (delta + 38)

/-- A number as digits, the first of them at position `k`. -/
def digitsOf (bias k n : Nat) : List Char :=
  let t := threshold k bias
  if n < t then [digit n]
  else digit (t + (n - t) % (base - t)) :: digitsOf bias (k + base) ((n - t) / (base - t))
termination_by n
decreasing_by
  have := threshold_pos k bias
  have := Nat.div_le_self (n - threshold k bias) (base - threshold k bias)
  omega

/-- The state between two insertions: how far the scan has come, the bias, and how many characters
are in place. -/
structure Progress where
  delta : Nat
  bias : Nat
  placed : Nat

/-- Scans a text for the code point `point`: smaller ones are counted, and each equal one is an
insertion, for which the distance is written down. -/
def writeInsertions (point basic : Nat) (state : Progress) : List Nat → List Char × Progress
  | [] => ([], state)
  | c :: rest =>
    if c < point then
      writeInsertions point basic { state with delta := state.delta + 1 } rest
    else if c = point then
      let placed := state.placed + 1
      let bias := adapt state.delta placed (state.placed == basic)
      let (more, last) := writeInsertions point basic ⟨0, bias, placed⟩ rest
      (digitsOf state.bias base state.delta ++ more, last)
    else writeInsertions point basic state rest

/-- Writes the insertions of all code points of a sorted list; `next` is the least code point that
was not treated yet. -/
def writePoints (text : List Nat) (basic next : Nat) (state : Progress) : List Nat → List Char
  | [] => []
  | point :: rest =>
    let start := { state with delta := state.delta + (point - next) * (state.placed + 1) }
    let (written, state) := writeInsertions point basic start text
    written ++ writePoints text basic (point + 1) { state with delta := state.delta + 1 } rest

/-- The encoding of a text. -/
def encode (text : List Char) : List Char :=
  let basic := text.filter fun c => c.toNat < initialPoint
  let others := ((text.map Char.toNat).filter fun n => initialPoint ≤ n).mergeSort
  basic ++ (if basic.isEmpty then [] else ['-']) ++
    writePoints (text.map Char.toNat) basic.length initialPoint
      ⟨0, initialBias, basic.length⟩ others.eraseDups

/-- Reads a number from the front: the digit at position `k` has the weight `weight`. -/
def takeNumber (bias : Nat) : List Char → Nat → Nat → Nat → Option (Nat × List Char)
  | [], _, _, _ => none
  | c :: rest, k, weight, n =>
    match digitValue? c with
    | none => none
    | some value =>
      let t := threshold k bias
      let n := n + value * weight
      if value < t then some (n, rest)
      else takeNumber bias rest (k + base) (weight * (base - t)) n

theorem takeNumber_shortens {bias : Nat} {chars : List Char} {k weight n m : Nat}
    {rest : List Char} (h : takeNumber bias chars k weight n = some (m, rest)) :
    rest.length < chars.length := by
  induction chars generalizing k weight n with
  | nil => simp [takeNumber] at h
  | cons c tail ih =>
    unfold takeNumber at h
    cases hv : digitValue? c with
    | none => simp [hv] at h
    | some value =>
      simp only [hv] at h
      split at h
      · simp only [Option.some.injEq, Prod.mk.injEq] at h
        simp [h.2]
      · have := ih h
        simp only [List.length_cons]
        omega

/-- The largest number that the decoder works with. -/
def maxNumber : Nat := 4294967295

/-- Reads the insertions that are left and makes them. -/
def readPoints (point index bias : Nat) (text chars : List Char) : Option (List Char) :=
  match chars with
  | [] => some text
  | c :: more =>
    match h : takeNumber bias (c :: more) base 1 0 with
    | none => none
    | some (delta, rest) =>
      let length := text.length + 1
      let target := index + delta
      let newPoint := point + target / length
      let position := target % length
      if maxNumber < target ∨ maxNumber < newPoint ∨ ¬ newPoint.isValidChar then none
      else
        readPoints newPoint (position + 1) (adapt delta length (index == 0))
          (text.insertIdx position (Char.ofNat newPoint)) rest
termination_by chars.length
decreasing_by exact takeNumber_shortens h

/-- The characters before the last hyphen, and those behind it.  A hyphen at the front is none that
separates. -/
def splitBasic (chars : List Char) : List Char × List Char :=
  let tail := chars.reverse.takeWhile (· ≠ '-')
  if chars.length ≤ tail.length + 1 then ([], chars)
  else (chars.take (chars.length - tail.length - 1), tail.reverse)

/-- The text that an encoding stands for, if it stands for any. -/
def decode? (chars : List Char) : Option (List Char) :=
  let (basic, rest) := splitBasic chars
  if basic.all fun c => c.toNat < initialPoint then
    readPoints initialPoint 0 initialBias basic rest
  else none

end BearerLogin.Url.Punycode
