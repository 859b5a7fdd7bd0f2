import BearerLogin.Json.Fault
import BearerLogin.Text.Utf8

/-! Reading JSON text from the front.  A reader takes a cursor, which is what is left of the text
together with the place it stands at, and ends with a value or a fault; in both cases the cursor has
moved, because the place of a fault is where the reading stopped. -/

namespace BearerLogin.Json

/-- What is left of a text, and its place in the whole. -/
structure Cursor where
  rest : List UInt8
  line : Nat := 1
  column : Nat := 0
  deriving Repr

namespace Cursor

/-- The place of the cursor. -/
def position (c : Cursor) : Position := ⟨c.line, c.column⟩

/-- The cursor behind one more byte `b`, with `rest` left. -/
def past (c : Cursor) (b : UInt8) (rest : List UInt8) : Cursor :=
  if b = 10 then ⟨rest, c.line + 1, 0⟩ else ⟨rest, c.line, c.column + 1⟩

/-- The cursor behind the next byte, if there is one. -/
def advance (c : Cursor) : Cursor :=
  match c.rest with
  | [] => c
  | b :: rest => c.past b rest

/-- The bytes that may stand between the parts of a text: space, tab, line feed, carriage return. -/
def isSpace (b : UInt8) : Bool :=
  b == 32 || b == 9 || b == 10 || b == 13

/-- The cursor behind the spaces at the front. -/
def skipSpaces (c : Cursor) : List UInt8 → Cursor
  | [] => c
  | b :: rest => if isSpace b then skipSpaces (c.past b rest) rest else c

end Cursor

/-- A computation that reads from the front of a text. -/
abbrev Reader := EStateM Fault Cursor

namespace Reader

/-- Fails at the place of the cursor. -/
def failHere (fault : SyntaxFault) : Reader α := fun c =>
  .error { cause := .badSyntax fault, position := some c.position } c

/-- Fails at the place behind the next byte. -/
def failAhead (fault : SyntaxFault) : Reader α := fun c =>
  .error { cause := .badSyntax fault, position := some c.advance.position } c

/-- Fails because of the data; the place is filled in by `located`. -/
def failData (fault : DataFault) : Reader α := fun c =>
  .error { cause := .badData fault } c

/-- The next byte, which is left in place. -/
def peek : Reader (Option UInt8) := fun c => .ok c.rest.head? c

/-- Moves behind the next byte. -/
def skip : Reader Unit := fun c => .ok () c.advance

/-- Takes the next byte. -/
def next : Reader (Option UInt8) := fun c => .ok c.rest.head? c.advance

/-- The next byte after any spaces, which is left in place. -/
def peekToken : Reader (Option UInt8) := fun c =>
  let c := c.skipSpaces c.rest
  .ok c.rest.head? c

/-- The number of bytes left. -/
def left : Reader Nat := fun c => .ok c.rest.length c

/-- Gives a fault that has no place yet the place where reading stopped. -/
def located (r : Reader α) : Reader α := fun c =>
  match r c with
  | .ok a c => .ok a c
  | .error fault c =>
    .error { fault with position := some (fault.position.getD c.position) } c

/-- Records that a fault arose inside the named member of the outermost record. -/
def within (path : String) (r : Reader α) : Reader α := fun c =>
  match r c with
  | .ok a c => .ok a c
  | .error fault c => .error { fault with path := some path } c

/-- Reads what is inside brackets and then their end.  The end is looked for even after a fault, and
the cursor moves behind it if it is there. -/
def enclosed (inside : Reader α) (close : Reader Unit) : Reader α := fun c =>
  match inside c with
  | .ok a c =>
    match close c with
    | .ok _ c => .ok a c
    | .error fault c => .error fault c
  | .error fault c =>
    match close c with
    | .ok _ c => .error fault c
    | .error _ c => .error fault c

/-- Reads as `r` does, and turns a fault into `none`; the cursor stays where reading stopped. -/
def attempt (r : Reader α) : Reader (Option α) := fun c =>
  match r c with
  | .ok a c => .ok (some a) c
  | .error _ c => .ok none c

/-- Fails unless only spaces are left. -/
def expectEnd : Reader Unit := do
  match ← peekToken with
  | none => return
  | some _ => failAhead .trailingCharacters

/-- Reads a whole text. -/
def run (r : Reader α) (bytes : List UInt8) : Except Fault α :=
  match (do let a ← r; expectEnd; return a : Reader α) { rest := bytes } with
  | .ok a _ => .ok a
  | .error fault _ => .error fault

end Reader

end BearerLogin.Json
