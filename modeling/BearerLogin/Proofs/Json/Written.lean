import BearerLogin.Proofs.Json.Objects
import BearerLogin.Proofs.Json.Takes

/-! Values as they are written.  A value without doubles is read back from its text
(`reads_readValue`), and a record from the text of an object that has its fields in any order
(`reads_record`). -/

namespace BearerLogin.Json

/-- A value without doubles: its integers have 64 bits, with or without a sign, its objects have
each key once, and its lists and objects nest at most to the given depth. -/
inductive Exact : Nat → Json → Prop where
  | null {depth : Nat} : Exact depth .null
  | bool {depth : Nat} (b : Bool) : Exact depth (.bool b)
  | int {depth : Nat} {n : Int} (low : -0x8000000000000000 ≤ n) (high : n < 0x10000000000000000) :
      Exact depth (.int n)
  | str {depth : Nat} (s : String) : Exact depth (.str s)
  | arr {depth : Nat} {items : List Json} (each : ∀ item ∈ items, Exact depth item) :
      Exact (depth + 1) (.arr items)
  | obj {depth : Nat} {members : List (String × Json)} (once : (members.map Prod.fst).Nodup)
      (each : ∀ member ∈ members, Exact depth member.2) : Exact (depth + 1) (.obj members)

/-! ### Texts of lists and objects -/

/-- What stands between a part and the one before, if there is one. -/
def separator (first : Bool) : List Char :=
  if first then [] else [',']

/-- The rest of a list, from an item on. -/
def listChars (first : Bool) : List Json → List Char
  | [] => [']']
  | item :: rest => separator first ++ (item.renderChars ++ listChars false rest)

/-- The rest of an object, from a member on. -/
def objectChars (first : Bool) : List (String × Json) → List Char
  | [] => ['\x7d']
  | (key, value) :: rest =>
    separator first ++ (renderString key ++ ':' :: (value.renderChars ++ objectChars false rest))

theorem renderItems_eq (items : List Json) : renderItems items = listChars false items := by
  induction items with
  | nil => rw [renderItems, listChars]
  | cons item rest ih =>
    rw [renderItems, listChars, ih]
    rfl

theorem renderMembers_eq (members : List (String × Json)) :
    renderMembers members = objectChars false members := by
  induction members with
  | nil => rw [renderMembers, objectChars]
  | cons member rest ih =>
    rw [renderMembers, objectChars, ih]
    rfl

theorem renderChars_arr (items : List Json) :
    renderChars (.arr items) = '[' :: listChars true items := by
  rcases items with _ | ⟨item, rest⟩
  · rw [renderChars, listChars]
  · rw [renderChars, listChars, renderItems_eq]
    rfl

theorem renderChars_obj (members : List (String × Json)) :
    renderChars (.obj members) = '\x7b' :: objectChars true members := by
  rcases members with _ | ⟨member, rest⟩
  · rw [renderChars, objectChars]
  · rw [renderChars, objectChars, renderMembers_eq]
    rfl

theorem renderChars_int (n : Int) :
    renderChars (.int n) = (if n < 0 then ['-'] else []) ++ Nat.toDigits 10 n.natAbs := by
  rw [renderChars]
  show (Int.repr n).toList = _
  rw [Int.repr_eq_if]
  by_cases negative : n < 0
  · have value : (-n).toNat = n.natAbs := by omega
    rw [if_neg (by omega), if_pos negative, value, Nat.repr_eq_ofList_toDigits,
      String.toList_append, String.toList_ofList, String.toList_ofList]
  · have value : n.toNat = n.natAbs := by omega
    rw [if_pos (by omega), if_neg negative, value, Nat.repr_eq_ofList_toDigits,
      String.toList_ofList, List.nil_append]

namespace Reader

/-- What begins a value: neither a space nor the end of a list. -/
def Opens (text : List UInt8) : Prop :=
  ∃ b rest, text = b :: rest ∧ Cursor.isSpace b = false ∧ b ≠ 93

theorem Opens.append {text : List UInt8} (opens : Opens text) (back : List UInt8) :
    Opens (text ++ back) := by
  obtain ⟨b, rest, rfl, opens⟩ := opens
  exact ⟨b, rest ++ back, rfl, opens⟩

theorem opens_encoded {c : Char} {chars : List Char} (ascii : c.toNat < 128)
    (visible : Cursor.isSpace (UInt8.ofNat c.toNat) = false) (item : UInt8.ofNat c.toNat ≠ 93) :
    Opens (encoded (c :: chars)) :=
  ⟨_, _, encoded_cons_ascii ascii chars, visible, item⟩

theorem isSpace_of_isDigit {b : UInt8} (digit : isDigit b = true) : Cursor.isSpace b = false := by
  by_contra space
  simp only [Bool.not_eq_false, Cursor.isSpace, Bool.or_eq_true, beq_iff_eq] at space
  rcases space with ((rfl | rfl) | rfl) | rfl <;> exact absurd digit (by decide)

theorem opens_of_exact {depth : Nat} {value : Json} (exact_ : value.Exact depth) :
    Opens (encoded value.renderChars) := by
  cases exact_ with
  | null => exact opens_encoded (by decide) (by decide) (by decide)
  | bool b => cases b <;> exact opens_encoded (by decide) (by decide) (by decide)
  | str s => exact opens_encoded (by decide) (by decide) (by decide)
  | arr =>
    rw [renderChars_arr]
    exact opens_encoded (by decide) (by decide) (by decide)
  | obj =>
    rw [renderChars_obj]
    exact opens_encoded (by decide) (by decide) (by decide)
  | @int _ n =>
    rw [renderChars_int]
    split
    · exact opens_encoded (by decide) (by decide) (by decide)
    · obtain ⟨b, digits, bytes_eq, digit⟩ := encoded_toDigits n.natAbs
      refine ⟨b, digits, bytes_eq, isSpace_of_isDigit digit, ?_⟩
      rintro rfl
      exact absurd digit (by decide)

/-! ### Values -/

/-- Wherever the value is written, the reader takes it and gives `a`. -/
def Reads (r : Reader α) (value : Json) (a : α) : Prop :=
  ∀ ⦃rest⦄, Ends rest → Takes r (encoded value.renderChars ++ rest) a rest

section

variable {text rest : List UInt8} {first : Bool}

/-! ### Marks -/

theorem Takes.hasItem_end : Takes (hasItem first) (93 :: rest) false (93 :: rest) := by
  exact (peekToken (by decide)).bind (pure false)

theorem Takes.hasItem (opens : Opens text) :
    Takes (hasItem first) (encoded (separator first) ++ text) true text := by
  obtain ⟨b, rest, rfl, visible, item⟩ := opens
  cases first with
  | true =>
    refine (peekToken visible).bind ?_
    split
    · next none => cases none
    · next close => exact absurd (Option.some.inj close) item
    · exact pure true
  | false =>
    refine (peekToken (by decide)).bind (skip.bind ((peekToken visible).bind ?_))
    split
    · next none => cases none
    · next close => exact absurd (Option.some.inj close) item
    · exact pure true

theorem Takes.hasKey_end : Takes (hasKey first) (125 :: rest) false (125 :: rest) := by
  exact (peekToken (by decide)).bind (pure false)

theorem Takes.hasKey :
    Takes (hasKey first) (encoded (separator first) ++ 34 :: text) true (34 :: text) := by
  cases first with
  | true => exact (peekToken (by decide)).bind (pure true)
  | false =>
    exact (peekToken (by decide)).bind (skip.bind ((peekToken (by decide)).bind (pure true)))

theorem encoded_renderString (s : String) :
    encoded (renderString s) = 34 :: (encoded (s.toList.flatMap escapeChar) ++ [34]) := by
  rw [renderString, encoded_cons_ascii (by decide), encoded_append]
  rfl

theorem encoded_str (s : String) : encoded (renderChars (.str s)) ++ rest =
    34 :: (encoded (s.toList.flatMap escapeChar) ++ 34 :: rest) := by
  rw [renderChars, encoded_renderString, List.cons_append, List.append_assoc]
  rfl

theorem encoded_arr (items : List Json) :
    encoded (renderChars (.arr items)) ++ rest =
      91 :: (encoded (listChars true items) ++ rest) := by
  rw [renderChars_arr, encoded_cons_ascii (by decide), List.cons_append]
  rfl

theorem encoded_obj (members : List (String × Json)) :
    encoded (renderChars (.obj members)) ++ rest =
      123 :: (encoded (objectChars true members) ++ rest) := by
  rw [renderChars_obj, encoded_cons_ascii (by decide), List.cons_append]
  rfl

theorem Takes.readKey (key : String) :
    Takes readKey (encoded (renderString key) ++ rest) key rest := by
  rw [encoded_renderString, List.cons_append, List.append_assoc]
  exact skip.bind (readString key)

theorem Takes.readColon : Takes readColon (58 :: rest) () rest :=
  (peekToken (by decide)).bind skip

theorem Takes.endList : Takes endList (93 :: rest) () rest :=
  (peekToken (by decide)).bind skip

theorem Takes.endObject : Takes endObject (125 :: rest) () rest :=
  (peekToken (by decide)).bind skip

/-! ### Lists -/

theorem ends_listChars (items : List Json) : Ends (encoded (listChars false items) ++ rest) := by
  intro b head
  rcases items with _ | ⟨item, items⟩
  · cases head
    exact .inr (.inl rfl)
  · cases head
    exact .inl rfl

theorem Takes.items {item : Reader α} {values : List Json} {found taken : List α} {depth fuel : Nat}
    (each : List.Forall₂ (Reads item) values found) (exact_ : ∀ value ∈ values, value.Exact depth)
    (enough : values.length < fuel) :
    Takes (items item first taken fuel) (encoded (listChars first values) ++ rest)
      (taken.reverse ++ found) (93 :: rest) := by
  -- Behind an item comes a comma or the end of the list, and neither goes on with the item.
  induction each generalizing first taken fuel with
  | nil =>
    obtain ⟨fuel, rfl⟩ := Nat.exists_eq_add_one.mpr enough
    rw [List.append_nil]
    exact hasItem_end.bind (pure _)
  | @cons value a values found reads _ ih =>
    obtain ⟨fuel, rfl⟩ := Nat.exists_eq_add_one.mpr (Nat.zero_lt_of_lt enough)
    obtain ⟨first_exact, others⟩ := List.forall_mem_cons.mp exact_
    have later : Takes (Reader.items item false (a :: taken) fuel) _ _ _ :=
      ih others (Nat.lt_of_succ_lt_succ enough)
    rw [List.reverse_cons, List.append_assoc, List.singleton_append] at later
    rw [listChars]
    simp only [encoded_append, List.append_assoc]
    have opens := (opens_of_exact first_exact).append (encoded (listChars false values) ++ rest)
    exact (hasItem opens).bind ((reads (ends_listChars values)).bind later)

theorem length_le_listChars (values : List Json) :
    values.length ≤ (encoded (listChars first values) ++ rest).length := by
  have short : ∀ values : List Json, values.length < (listChars false values).length := by
    intro values
    induction values with
    | nil => exact Nat.zero_lt_one
    | cons value values ih =>
      rw [listChars, separator, if_neg Bool.false_ne_true]
      simp only [List.length_append, List.length_cons]
      omega
  have bytes := length_le_encoded (listChars first values)
  rw [List.length_append]
  rcases values with _ | ⟨value, values⟩
  · exact Nat.zero_le _
  · have others := short values
    rw [listChars] at bytes ⊢
    simp only [List.length_append, List.length_cons] at bytes ⊢
    omega

theorem Takes.allItems {item : Reader α} {values : List Json} {found : List α} {depth : Nat}
    (each : List.Forall₂ (Reads item) values found) (exact_ : ∀ value ∈ values, value.Exact depth) :
    Takes (Reader.items item true [] ((encoded (listChars true values) ++ rest).length + 1))
      (encoded (listChars true values) ++ rest) found (93 :: rest) :=
  items each exact_ (Nat.lt_succ_of_le (length_le_listChars values))

theorem reads_list {item : Reader α} {values : List Json} {found : List α} {depth : Nat}
    (each : List.Forall₂ (Reads item) values found) (exact_ : ∀ value ∈ values, value.Exact depth) :
    Reads (list item) (.arr values) found := by
  intro rest ends
  rw [encoded_arr]
  exact (Takes.peekToken (by decide)).bind (Takes.skip.bind (Takes.left.bind
    ((Takes.allItems each exact_).enclosed Takes.endList).located))

/-! ### Objects -/

theorem ends_objectChars (members : List (String × Json)) :
    Ends (encoded (objectChars false members) ++ rest) := by
  intro b head
  rcases members with _ | ⟨item, items⟩
  · cases head
    exact .inr (.inr rfl)
  · cases head
    exact .inl rfl

theorem length_le_objectChars (members : List (String × Json)) :
    members.length ≤ (encoded (objectChars first members) ++ rest).length := by
  have chars : ∀ first, members.length ≤ (objectChars first members).length := by
    induction members with
    | nil => exact fun _ => Nat.zero_le _
    | cons member members ih =>
      intro first
      have others := ih false
      rw [objectChars]
      simp only [List.length_append, List.length_cons]
      omega
  have bytes := length_le_encoded (objectChars first members)
  have enough := chars first
  rw [List.length_append]
  omega

/-- A member in front of the others. -/
theorem encoded_objectChars_cons (key : String) (value : Json) (members : List (String × Json)) :
    encoded (objectChars first ((key, value) :: members)) ++ rest =
      encoded (separator first) ++ (encoded (renderString key) ++ 58 ::
        (encoded value.renderChars ++ (encoded (objectChars false members) ++ rest))) := by
  rw [objectChars]
  simp only [encoded_append, encoded_cons_ascii (c := ':') (by decide), List.append_assoc,
    List.cons_append]
  rfl

theorem Takes.key {key : String} {f : String → Reader α} {a : α} {after : List UInt8}
    (stop : Reader α) (more : Takes (f key) text a after) :
    Takes (do if ← Reader.hasKey first then f (← Reader.readKey) else stop)
      (encoded (separator first) ++ (encoded (renderString key) ++ text)) a after := by
  have quote : Takes (Reader.hasKey first)
      (encoded (separator first) ++ (encoded (renderString key) ++ text)) true
      (encoded (renderString key) ++ text) := by
    rw [encoded_renderString]
    exact hasKey
  exact quote.bind ((readKey key).bind more)

theorem put_of_not_mem {key : String} {value : Json} {members : List (String × Json)}
    (fresh : key ∉ members.map Prod.fst) : put key value members = members ++ [(key, value)] := by
  induction members with
  | nil => rfl
  | cons member members ih =>
    rw [List.map_cons, List.mem_cons, not_or] at fresh
    rw [put, if_neg (Ne.symm fresh.1), ih fresh.2, List.cons_append]

/-- The members of an object are kept in the order in which they are written. -/
theorem Takes.members {value : Reader Json} {members taken : List (String × Json)} {fuel : Nat}
    (each : ∀ member ∈ members, Reads value member.2 member.2)
    (once : ((taken ++ members).map Prod.fst).Nodup) (enough : members.length < fuel) :
    Takes (Reader.members value first taken fuel) (encoded (objectChars first members) ++ rest)
      (taken ++ members) (125 :: rest) := by
  induction members generalizing first taken fuel with
  | nil =>
    obtain ⟨fuel, rfl⟩ := Nat.exists_eq_add_one.mpr enough
    rw [List.append_nil]
    exact hasKey_end.bind (pure _)
  | cons member members ih =>
    obtain ⟨key, v⟩ := member
    obtain ⟨fuel, rfl⟩ := Nat.exists_eq_add_one.mpr (Nat.zero_lt_of_lt enough)
    obtain ⟨reads, others⟩ := List.forall_mem_cons.mp each
    have fresh : key ∉ taken.map Prod.fst := by
      rw [List.map_append, List.nodup_append] at once
      exact fun member => once.2.2 key member key List.mem_cons_self rfl
    rw [List.append_cons] at once ⊢
    have later : Takes (Reader.members value false (taken ++ [(key, v)]) fuel) _ _ _ :=
      ih others once (Nat.lt_of_succ_lt_succ enough)
    rw [← put_of_not_mem fresh] at later ⊢
    rw [encoded_objectChars_cons]
    exact Takes.key _ (readColon.bind ((reads (ends_objectChars members)).bind later))

theorem Takes.allMembers {value : Reader Json} {members : List (String × Json)}
    (each : ∀ member ∈ members, Reads value member.2 member.2)
    (once : (members.map Prod.fst).Nodup) :
    Takes (Reader.members value true [] ((encoded (objectChars true members) ++ rest).length + 1))
      (encoded (objectChars true members) ++ rest) members (125 :: rest) :=
  Takes.members each once (Nat.lt_succ_of_le (length_le_objectChars members))

/-! ### Values of any kind -/

theorem reads_int {depth : Nat} {n : Int} (low : -0x8000000000000000 ≤ n)
    (high : n < 0x10000000000000000) : Reads (readValue depth) (.int n) (.int n) := by
  intro rest ends
  rw [renderChars_int]
  by_cases negative : n < 0
  · have whole : Takes (wholeNumber true n.natAbs) rest (.int n) rest := by
      have value : -(n.natAbs : Int) = n := by omega
      unfold wholeNumber
      rw [if_neg (by decide), if_neg (by omega), value]
      exact .pure _
    rw [if_pos negative, List.singleton_append, encoded_cons_ascii (by decide), List.cons_append]
    unfold readValue
    exact (Takes.peekToken (by decide)).bind
      (Takes.skip.bind ((Takes.readNumber (by omega) ends whole).map ofNumber))
  · have whole : Takes (wholeNumber false n.natAbs) rest (.int n) rest := by
      have value : (n.natAbs : Int) = n := by omega
      unfold wholeNumber
      rw [if_pos (by decide), value]
      exact .pure _
    have number := (Takes.readNumber (by omega) ends whole).map ofNumber
    rw [if_neg negative, List.nil_append]
    -- The first digit tells that a number comes next, and is left in place for its reader.
    obtain ⟨b, digits, bytes_eq, digit⟩ := encoded_toDigits n.natAbs
    intro c text_eq
    have rest_eq : c.rest = b :: (digits ++ rest) := by
      rw [text_eq, bytes_eq, List.cons_append]
    have same : c.trim = c :=
      Cursor.trim_of_not_space rest_eq (by simp [isSpace_of_isDigit digit])
    have token : c.trim.rest.head? = some b := by
      rw [same, rest_eq, List.head?_cons]
    rw [readValue_of_digit token digit, same]
    exact number text_eq

/-- A value without doubles is read back from its text. -/
theorem reads_readValue {depth : Nat} {value : Json} (exact_ : value.Exact depth) :
    Reads (readValue depth) value value := by
  induction exact_ with
  | null =>
    intro rest ends
    show Takes _ (110 :: (nullRest ++ rest)) _ _
    unfold readValue
    exact (Takes.peekToken (by decide)).bind (Takes.skip.bind ((Takes.literal _).bind (.pure _)))
  | bool b =>
    intro rest ends
    cases b with
    | true =>
      show Takes _ (116 :: (trueRest ++ rest)) _ _
      unfold readValue
      exact (Takes.peekToken (by decide)).bind (Takes.skip.bind ((Takes.literal _).bind (.pure _)))
    | false =>
      show Takes _ (102 :: (falseRest ++ rest)) _ _
      unfold readValue
      exact (Takes.peekToken (by decide)).bind (Takes.skip.bind ((Takes.literal _).bind (.pure _)))
  | int low high => exact reads_int low high
  | str s =>
    intro rest ends
    rw [encoded_str]
    unfold readValue
    exact (Takes.peekToken (by decide)).bind (Takes.skip.bind ((Takes.readString s).map Json.str))
  | arr each ih =>
    intro rest ends
    have items : List.Forall₂ (Reads (readValue _)) _ _ := List.forall₂_same.mpr ih
    rw [encoded_arr]
    unfold readValue
    exact (Takes.peekToken (by decide)).bind (Takes.skip.bind (Takes.left.bind
      (((Takes.allItems items each).map Json.arr).enclosed Takes.endList).located))
  | obj once each ih =>
    intro rest ends
    rw [encoded_obj]
    unfold readValue
    exact (Takes.peekToken (by decide)).bind (Takes.skip.bind (Takes.left.bind
      (((Takes.allMembers ih once).map Json.obj).enclosed Takes.endObject).located))

theorem Reads.map {r : Reader α} {value : Json} {a : α} (f : α → β) (reads : Reads r value a) :
    Reads (do return f (← r)) value (f a) :=
  fun _ ends => (reads ends).map f

theorem reads_text (s : String) : Reads Reader.text (.str s) s := by
  intro rest ends
  rw [encoded_str]
  exact (Takes.peekToken (by decide)).bind (Takes.skip.bind (Takes.readString s).located)

theorem reads_parsed {expected s : String} {parse : String → Except DataFault α} {a : α}
    (parsed_eq : parse s = .ok a) : Reads (parsed expected parse) (.str s) a := by
  intro rest ends
  rw [encoded_str]
  refine (Takes.peekToken (by decide)).bind (Takes.skip.bind
    ((Takes.readString s).bind ?_).located)
  rw [parsed_eq]
  exact .pure a

theorem reads_optional {r : Reader α} {s : String} {a : α} (reads : Reads r (.str s) a) :
    Reads (optional r) (.str s) (some a) := by
  intro rest ends
  have inner := (reads ends).map some
  rw [encoded_str] at inner ⊢
  exact (Takes.peekToken (by decide)).bind inner

/-! ### Records -/

/-- The members of an object, in their order, turn a draft into another one: each is a field that
the draft does not have yet. -/
inductive Builds (fields : List (Field σ)) : σ → List (String × Json) → σ → Prop where
  | done {draft : σ} : Builds fields draft [] draft
  | member {draft final : σ} {key : String} {value : Json} {members : List (String × Json)}
      {field : Field σ} {set : σ → σ} (known : fields.find? (fun f => f.name == key) = some field)
      (unset : field.isSet draft = false) (reads : Reads field.read value set)
      (more : Builds fields (set draft) members final) :
      Builds fields draft ((key, value) :: members) final

variable {fields : List (Field σ)} {draft built final : σ} {members : List (String × Json)}

theorem Takes.fieldsByName {fuel : Nat} (builds : Builds fields draft members built)
    (enough : members.length < fuel) :
    Takes (fieldsByName fields first draft fuel) (encoded (objectChars first members) ++ rest) built
      (125 :: rest) := by
  induction builds generalizing first fuel with
  | done =>
    obtain ⟨fuel, rfl⟩ := Nat.exists_eq_add_one.mpr enough
    exact hasKey_end.bind (pure _)
  | @member draft final key value members field set known unset reads _ ih =>
    obtain ⟨fuel, rfl⟩ := Nat.exists_eq_add_one.mpr (Nat.zero_lt_of_lt enough)
    have later : Takes (Reader.fieldsByName fields false (set draft) fuel) _ _ _ :=
      ih (Nat.lt_of_succ_lt_succ enough)
    rw [encoded_objectChars_cons]
    refine Takes.key _ ?_
    rw [known]
    dsimp only
    rw [unset, if_neg Bool.false_ne_true]
    exact (within key (readColon.bind (reads (ends_objectChars members)))).bind later

/-- A member is a field of the record, and takes a draft in which some fields are known to the draft
in which it is known too. -/
def Settles (fields : List (Field σ)) (known : List String → σ) (member : String × Json) : Prop :=
  ∃ field set, fields.find? (fun f => f.name == member.1) = some field ∧
    Reads field.read member.2 set ∧
    ∀ seen, member.1 ∉ seen →
      field.isSet (known seen) = false ∧ set (known seen) = known (member.1 :: seen)

/-- Members that are fields of a record can follow in any order, each once. -/
theorem builds_of_settles {known : List String → σ} {seen : List String}
    (each : ∀ member ∈ members, Settles fields known member) (once : (members.map Prod.fst).Nodup)
    (fresh : ∀ member ∈ members, member.1 ∉ seen) :
    Builds fields (known seen) members (known ((members.map Prod.fst).reverse ++ seen)) := by
  induction members generalizing seen with
  | nil => exact .done
  | cons member members ih =>
    obtain ⟨⟨field, set, found, reads, step⟩, others⟩ := List.forall_mem_cons.mp each
    obtain ⟨unseen, later⟩ := List.forall_mem_cons.mp fresh
    obtain ⟨unset, set_eq⟩ := step seen unseen
    rw [List.map_cons, List.nodup_cons] at once
    have apart : ∀ other ∈ members, other.1 ∉ member.1 :: seen := by
      intro other more
      rw [List.mem_cons, not_or]
      exact ⟨fun same => once.1 (List.mem_map.mpr ⟨other, more, same⟩), later other more⟩
    have rest : Builds fields (known (member.1 :: seen)) members _ := ih others once.2 apart
    rw [List.map_cons, List.reverse_cons, List.append_assoc, List.singleton_append]
    exact .member found unset reads (set_eq ▸ rest)

/-- A record is read from an object that has its fields in any order, some of them left out. -/
theorem reads_record {name : String} (builds : Builds fields draft members built)
    (filled : fillMissing fields built = pure final) :
    Reads (record name fields draft) (.obj members) final := by
  intro rest ends
  have inside : Takes (Reader.fieldsByName fields true draft
      ((encoded (objectChars true members) ++ rest).length + 1))
      (encoded (objectChars true members) ++ rest) built (125 :: rest) :=
    Takes.fieldsByName builds (Nat.lt_succ_of_le (length_le_objectChars members))
  rw [encoded_obj]
  refine (Takes.peekToken (by decide)).bind (Takes.skip.bind (Takes.left.bind
    (((inside.bind ?_).enclosed Takes.endObject).located)))
  rw [filled]
  exact .pure _

end

/-- What is written as a whole text is read from it. -/
theorem Reads.run_render {r : Reader α} {value : Json} {a : α} (reads : Reads r value a) :
    run r (Text.utf8 value.render) = .ok a := by
  have whole : Takes r (encoded value.renderChars ++ []) a [] :=
    reads fun _ head => absurd head (by simp)
  rw [List.append_nil] at whole
  rw [render, Text.utf8_ofList]
  exact whole.run_eq

end Reader

end BearerLogin.Json
