import BearerLogin.Json.Structure

/-! Reading records and choices from JSON.  A record may be written as an object, with its fields
under their names and in any order, or as a list of its fields in the order of their declaration.
Unknown members are passed over; a field may be given only once. -/

namespace BearerLogin.Json.Reader

/-- Reads a string. -/
def text : Reader String := do
  match ← peekToken with
  | none => failAhead .endInValue
  | some 34 => skip; located readString
  | some _ => unexpected "a string"

/-- Reads a string and turns it into a value, or fails with the detail given. -/
def parsed (expected : String) (parse : String → Except DataFault α) : Reader α := do
  match ← peekToken with
  | none => failAhead .endInValue
  | some 34 =>
    skip
    located do
      match parse (← readString) with
      | .ok a => return a
      | .error fault => failData fault
  | some _ => unexpected expected

/-- Reads `null` as nothing and anything else as `r` does. -/
def optional (r : Reader α) : Reader (Option α) := do
  match ← peekToken with
  | some 110 => skip; literal nullRest; return none
  | _ => return some (← r)

/-- Reads a list. -/
def list (r : Reader α) : Reader (List α) := do
  match ← peekToken with
  | none => failAhead .endInValue
  | some 91 =>
    skip
    let fuel ← left
    located (enclosed (items r true [] (fuel + 1)) endList)
  | some _ => unexpected "a sequence"

/-- Reads an integer from zero to `2 ^ 64 - 1`. -/
def natural : Reader Nat := do
  let check (number : Number) : Reader Nat := do
    match number with
    | .int n =>
      if 0 ≤ n then return n.toNat
      else failData (.other s!"invalid value: integer `{n}`, expected u64")
    | .real d => failData (.invalidType (.real d) "u64")
  match ← peekToken with
  | none => failAhead .endInValue
  | some 45 => skip; located (do check (← readNumber true))
  | some b =>
    if isDigit b then located (do check (← readNumber false)) else unexpected "u64"

/-- Reads `null`. -/
def unit : Reader Unit := do
  match ← peekToken with
  | none => failAhead .endInValue
  | some 110 => skip; literal nullRest
  | some _ => unexpected "unit"

/-- The value that a name stands for. -/
def variantNamed (variants : List (String × α)) (name : String) : Except DataFault α :=
  match variants.find? fun v => v.1 == name with
  | some v => .ok v.2
  | none => .error (.unknownVariant name (variants.map (·.1)))

/-- Reads one of several named values: its name as a string, or an object whose only member is the
name with `null`. -/
def choice (variants : List (String × α)) : Reader α := do
  match ← peekToken with
  | some 34 => parsed "variant identifier" (variantNamed variants)
  | some 123 =>
    skip
    let value ← parsed "variant identifier" (variantNamed variants)
    readColon
    unit
    match ← peekToken with
    | some 125 => skip; return value
    | some _ => failHere .expectedValue
    | none => failHere .endInObject
  | some _ => failAhead .expectedValue
  | none => failAhead .endInValue

/-- One field of a record that is being put together as a draft of type `σ`. -/
structure Field (σ : Type) where
  name : String
  /-- Whether the draft has the field already. -/
  isSet : σ → Bool
  /-- Reads the value of the field. -/
  read : Reader (σ → σ)
  /-- The field of an object without such a member, if it need not have one. -/
  ifMissing : Option (σ → σ) := none
  /-- The field of a list that ends before it, if it may. -/
  ifShort : Option (σ → σ) := none

/-- Reads the members that are left of an object into a draft. -/
def fieldsByName (fields : List (Field σ)) (first : Bool) (draft : σ) : Nat → Reader σ
  | 0 => return draft
  | fuel + 1 => do
    if ← hasKey first then
      let key ← readKey
      match fields.find? fun f => f.name == key with
      | some field =>
        if field.isSet draft then failData (.duplicateField key)
        else
          let set ← within key (do readColon; field.read)
          fieldsByName fields false (set draft) fuel
      | none =>
        within key (do readColon; skipValue)
        fieldsByName fields false draft fuel
    else return draft

/-- Fills the fields that no member has set. -/
def fillMissing : List (Field σ) → σ → Reader σ
  | [], draft => return draft
  | field :: rest, draft =>
    if field.isSet draft then fillMissing rest draft
    else
      match field.ifMissing with
      | some set => fillMissing rest (set draft)
      | none => failData (.missingField field.name)

/-- The wording for a record written as a list. -/
def recordOf (name : String) (count : Nat) : String :=
  s!"struct {name} with {count} " ++ (if count = 1 then "element" else "elements")

/-- Reads the items that are left of a list into a draft, field by field. -/
def fieldsByOrder (name : String) (count : Nat) : Nat → List (Field σ) → σ → Reader σ
  | _, [], draft => return draft
  | i, field :: rest, draft => do
    if ← hasItem (i == 0) then
      let set ← within s!"[{i}]" field.read
      fieldsByOrder name count (i + 1) rest (set draft)
    else
      match field.ifShort with
      | some set => fieldsByOrder name count (i + 1) rest (set draft)
      | none => failData (.invalidLength i (recordOf name count))

/-- Reads a record. -/
def record (name : String) (fields : List (Field σ)) (draft : σ) : Reader σ := do
  match ← peekToken with
  | none => failAhead .endInValue
  | some 91 =>
    skip
    located (enclosed (fieldsByOrder name fields.length 0 fields draft) endList)
  | some 123 =>
    skip
    let fuel ← left
    located (enclosed (do
      let draft ← fieldsByName fields true draft (fuel + 1)
      fillMissing fields draft) endObject)
  | some _ => unexpected s!"struct {name}"

end BearerLogin.Json.Reader
