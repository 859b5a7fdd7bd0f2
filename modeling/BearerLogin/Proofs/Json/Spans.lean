import BearerLogin.Proofs.Json.Reading

/-! How values are written.  A value that was read is taken apart by its kind (`spans_of_read`), and
the readers of lists and objects by what comes next: an end, a first item or key, or a comma and
another one. -/

namespace BearerLogin.Json.Reader

variable {c mid after : Cursor}

/-! ### Brackets -/

theorem endList_ok {u : Unit} :
    endList c = .ok u after ↔ c.trim.rest.head? = some 93 ∧ c.trim.advance = after := by
  unfold endList
  rw [peekToken_bind]
  generalize c.trim.rest.head? = token
  constructor
  · intro h
    split at h
    · exact ⟨rfl, skip_ok.mp h⟩
    · rw [skip_bind, peekToken_bind] at h
      generalize c.trim.advance.trim.rest.head? = next at h
      split at h <;> simp at h
    · simp at h
    · simp at h
  · rintro ⟨rfl, rfl⟩
    rfl

theorem endObject_ok {u : Unit} :
    endObject c = .ok u after ↔ c.trim.rest.head? = some 125 ∧ c.trim.advance = after := by
  unfold endObject
  rw [peekToken_bind]
  generalize c.trim.rest.head? = token
  constructor
  · intro h
    split at h
    · exact ⟨rfl, skip_ok.mp h⟩
    · simp at h
    · simp at h
    · simp at h
  · rintro ⟨rfl, rfl⟩
    rfl

/-- Whether a list goes on, and where. -/
inductive ItemNext (c : Cursor) : Bool → Bool → Cursor → Prop where
  | close {first : Bool} (token : c.trim.rest.head? = some 93) : ItemNext c first false c.trim
  | first {b : UInt8} (token : c.trim.rest.head? = some b) (notClose : b ≠ 93) :
      ItemNext c true true c.trim
  | comma (token : c.trim.rest.head? = some 44) : ItemNext c false true c.trim.advance.trim

theorem hasItem_ok {first more : Bool} (h : hasItem first c = .ok more after) :
    ItemNext c first more after := by
  unfold hasItem at h
  rw [peekToken_bind] at h
  generalize token : c.trim.rest.head? = b at h
  split at h
  · simp at h
  · obtain ⟨rfl, rfl⟩ := pure_ok.mp h
    exact .close token
  · next b notClose =>
    split at h
    · next isFirst =>
      obtain ⟨rfl, rfl⟩ := pure_ok.mp h
      subst isFirst
      exact .first token notClose
    · next notFirst =>
      split at h
      · next comma =>
        rw [skip_bind, peekToken_bind] at h
        generalize c.trim.advance.trim.rest.head? = next at h
        split at h
        · simp at h
        · simp at h
        · obtain ⟨rfl, rfl⟩ := pure_ok.mp h
          obtain rfl : first = false := by simpa using notFirst
          exact .comma (by rw [token, comma])
      · simp at h

/-- Whether an object goes on, and where. -/
inductive KeyNext (c : Cursor) : Bool → Bool → Cursor → Prop where
  | close {first : Bool} (token : c.trim.rest.head? = some 125) : KeyNext c first false c.trim
  | first (token : c.trim.rest.head? = some 34) : KeyNext c true true c.trim
  | comma (token : c.trim.rest.head? = some 44)
      (quote : c.trim.advance.trim.rest.head? = some 34) :
      KeyNext c false true c.trim.advance.trim

theorem hasKey_ok {first more : Bool} (h : hasKey first c = .ok more after) :
    KeyNext c first more after := by
  unfold hasKey at h
  rw [peekToken_bind] at h
  generalize token : c.trim.rest.head? = b at h
  split at h
  · simp at h
  · obtain ⟨rfl, rfl⟩ := pure_ok.mp h
    exact .close token
  · next b notClose =>
    split at h
    · next isFirst =>
      subst isFirst
      split at h
      · next quote =>
        obtain ⟨rfl, rfl⟩ := pure_ok.mp h
        exact .first (by rw [token, quote])
      · simp at h
    · next notFirst =>
      obtain rfl : first = false := by simpa using notFirst
      split at h
      · next comma =>
        rw [skip_bind, peekToken_bind] at h
        generalize quote : c.trim.advance.trim.rest.head? = next at h
        split at h
        · simp at h
        · obtain ⟨rfl, rfl⟩ := pure_ok.mp h
          exact .comma (by rw [token, comma]) quote
        · simp at h
        · simp at h
      · simp at h

/-! ### Values -/

/-- How a value is written between two cursors, where lists and objects may nest to a depth. -/
inductive Spans : Nat → Cursor → Json → Cursor → Prop where
  | null {depth : Nat} {c after : Cursor} (token : c.trim.rest.head? = some 110)
      (rest : literal nullRest c.trim.advance = .ok () after) : Spans depth c .null after
  | yes {depth : Nat} {c after : Cursor} (token : c.trim.rest.head? = some 116)
      (rest : literal trueRest c.trim.advance = .ok () after) : Spans depth c (.bool true) after
  | no {depth : Nat} {c after : Cursor} (token : c.trim.rest.head? = some 102)
      (rest : literal falseRest c.trim.advance = .ok () after) : Spans depth c (.bool false) after
  | negative {depth : Nat} {c after : Cursor} {n : Number} (token : c.trim.rest.head? = some 45)
      (number : readNumber true c.trim.advance = .ok n after) : Spans depth c (ofNumber n) after
  | number {depth : Nat} {c after : Cursor} {b : UInt8} {n : Number}
      (token : c.trim.rest.head? = some b) (digit : isDigit b = true)
      (number : readNumber false c.trim = .ok n after) : Spans depth c (ofNumber n) after
  | text {depth : Nat} {c after : Cursor} {s : String} (token : c.trim.rest.head? = some 34)
      (text : readString c.trim.advance = .ok s after) : Spans depth c (.str s) after
  | list {depth : Nat} {c mid after : Cursor} {values : List Json}
      (token : c.trim.rest.head? = some 91)
      (inside : items (readValue depth) true [] (c.trim.advance.rest.length + 1) c.trim.advance =
        .ok values mid)
      (close : endList mid = .ok () after) : Spans (depth + 1) c (.arr values) after
  | object {depth : Nat} {c mid after : Cursor} {pairs : List (String × Json)}
      (token : c.trim.rest.head? = some 123)
      (inside : members (readValue depth) true [] (c.trim.advance.rest.length + 1)
        c.trim.advance = .ok pairs mid)
      (close : endObject mid = .ok () after) : Spans (depth + 1) c (.obj pairs) after

theorem spans_of_read {depth : Nat} {value : Json} (h : readValue depth c = .ok value after) :
    Spans depth c value after := by
  unfold readValue at h
  rw [peekToken_bind] at h
  generalize token : c.trim.rest.head? = b at h
  split at h
  · simp at h
  · simp only [skip_bind, bind_ok, pure_ok] at h
    obtain ⟨_, _, rest, rfl, rfl⟩ := h
    exact .null token rest
  · simp only [skip_bind, bind_ok, pure_ok] at h
    obtain ⟨_, _, rest, rfl, rfl⟩ := h
    exact .yes token rest
  · simp only [skip_bind, bind_ok, pure_ok] at h
    obtain ⟨_, _, rest, rfl, rfl⟩ := h
    exact .no token rest
  · simp only [skip_bind, bind_ok, pure_ok] at h
    obtain ⟨_, _, number, rfl, rfl⟩ := h
    exact .negative token number
  · simp only [skip_bind, bind_ok, pure_ok] at h
    obtain ⟨_, _, text, rfl, rfl⟩ := h
    exact .text token text
  · cases depth with
    | zero => simp at h
    | succ depth =>
      simp only [skip_bind, left_bind, located_ok, enclosed_ok, bind_ok, pure_ok] at h
      obtain ⟨_, ⟨_, _, inside, rfl, rfl⟩, close⟩ := h
      exact .list token inside close
  · cases depth with
    | zero => simp at h
    | succ depth =>
      simp only [skip_bind, left_bind, located_ok, enclosed_ok, bind_ok, pure_ok] at h
      obtain ⟨_, ⟨_, _, inside, rfl, rfl⟩, close⟩ := h
      exact .object token inside close
  · split at h
    · next digit =>
      simp only [bind_ok, pure_ok] at h
      obtain ⟨_, _, number, rfl, rfl⟩ := h
      exact .number token digit number
    · simp at h

theorem Spans.token {depth : Nat} {value : Json} (spans : Spans depth c value after) :
    ∃ b, c.trim.rest.head? = some b ∧ b ≠ 44 ∧ b ≠ 93 ∧ b ≠ 125 := by
  cases spans with
  | null token | yes token | no token | negative token | text token | list token | object token =>
    exact ⟨_, token, by decide, by decide, by decide⟩
  | number token digit =>
    refine ⟨_, token, ?_, ?_, ?_⟩
    all_goals
      rintro rfl
      exact absurd digit (by decide)

theorem readValue_trim (depth : Nat) (c : Cursor) : readValue depth c.trim = readValue depth c := by
  unfold readValue
  rw [peekToken_bind, peekToken_bind, Cursor.trim_trim]

theorem readValue_null {depth : Nat} :
    readValue depth c = .ok .null after ↔
      c.trim.rest.head? = some 110 ∧ literal nullRest c.trim.advance = .ok () after := by
  constructor
  · intro read
    generalize value_eq : Json.null = value at read
    cases spans_of_read read with
    | null token rest => exact ⟨token, rest⟩
    | yes | no | text | list | object => cases value_eq
    | @negative _ _ _ n | @number _ _ _ _ n => cases n <;> cases value_eq
  · rintro ⟨token, rest⟩
    unfold readValue
    rw [peekToken_bind, token]
    exact bind_of_ok rest

theorem readValue_str {depth : Nat} {s : String} :
    readValue depth c = .ok (.str s) after ↔
      c.trim.rest.head? = some 34 ∧ readString c.trim.advance = .ok s after := by
  constructor
  · intro read
    generalize value_eq : Json.str s = value at read
    cases spans_of_read read with
    | text token text =>
      cases value_eq
      exact ⟨token, text⟩
    | null | yes | no | list | object => cases value_eq
    | @negative _ _ _ n | @number _ _ _ _ n => cases n <;> cases value_eq
  · rintro ⟨token, text⟩
    unfold readValue
    rw [peekToken_bind, token]
    exact bind_of_ok text

theorem readValue_of_digit {depth : Nat} {b : UInt8} (token : c.trim.rest.head? = some b)
    (digit : isDigit b = true) :
    readValue depth c = (do return ofNumber (← readNumber false) : Reader Json) c.trim := by
  unfold readValue
  rw [peekToken_bind]
  generalize c.trim.rest.head? = first at token ⊢
  split
  case h_1 => cases token
  case h_9 =>
    cases token
    rw [if_pos digit]
  all_goals
    cases token
    exact absurd digit (by decide)

theorem readValue_int {depth : Nat} {n : Int} :
    readValue depth c = .ok (.int n) after ↔
      c.trim.rest.head? = some 45 ∧ readNumber true c.trim.advance = .ok (.int n) after ∨
        ∃ b, c.trim.rest.head? = some b ∧ isDigit b = true ∧
          readNumber false c.trim = .ok (.int n) after := by
  constructor
  · intro read
    generalize value_eq : Json.int n = value at read
    cases spans_of_read read with
    | null | yes | no | text | list | object => cases value_eq
    | @negative _ _ _ number token read =>
      cases number with
      | int n =>
        cases value_eq
        exact .inl ⟨token, read⟩
      | real d => cases value_eq
    | @number _ _ _ b number token digit read =>
      cases number with
      | int n =>
        cases value_eq
        exact .inr ⟨b, token, digit, read⟩
      | real d => cases value_eq
  · rintro (⟨token, read⟩ | ⟨b, token, digit, read⟩)
    · unfold readValue
      rw [peekToken_bind, token]
      exact bind_of_ok read
    · rw [readValue_of_digit token digit]
      exact bind_of_ok read

/-- An object is read from its members. -/
theorem Spans.of_object {depth : Nat} (spans : Spans depth c (.obj pairs) after) :
    ∃ inner mid, depth = inner + 1 ∧ c.trim.rest.head? = some 123 ∧
      members (readValue inner) true [] (c.trim.advance.rest.length + 1) c.trim.advance =
        .ok pairs mid ∧
      endObject mid = .ok () after := by
  generalize value_eq : Json.obj pairs = value at spans
  cases spans with
  | null | yes | no | text | list => cases value_eq
  | @negative _ _ _ n | @number _ _ _ _ n => cases n <;> cases value_eq
  | object token inside close =>
    cases value_eq
    exact ⟨_, _, rfl, token, inside, close⟩

theorem Spans.inside_list {depth : Nat} {values : List Json}
    (inside : items (readValue depth) true [] (c.rest.length + 1) c = .ok values mid)
    (close : endList mid = .ok () after) :
    c.trim.rest.head? = some 93 ∧ c.trim.advance = after ∨
      ∃ b, c.trim.rest.head? = some b ∧ b ≠ 44 ∧ b ≠ 93 ∧ b ≠ 125 := by
  rw [items] at inside
  obtain ⟨more, next, hasItem, inside⟩ := bind_ok.mp inside
  cases hasItem_ok hasItem with
  | close token =>
    obtain ⟨-, rfl⟩ := pure_ok.mp inside
    rw [endList_ok, Cursor.trim_trim] at close
    exact .inl close
  | first first notClose =>
    obtain ⟨value, _, item, -⟩ := bind_ok.mp inside
    have token := (spans_of_read item).token
    rw [Cursor.trim_trim] at token
    exact .inr token

theorem Spans.inside_object {depth : Nat} {pairs : List (String × Json)}
    (inside : members (readValue depth) true [] (c.rest.length + 1) c = .ok pairs mid)
    (close : endObject mid = .ok () after) :
    c.trim.rest.head? = some 125 ∧ c.trim.advance = after ∨ c.trim.rest.head? = some 34 := by
  rw [members] at inside
  obtain ⟨more, next, hasKey, inside⟩ := bind_ok.mp inside
  cases hasKey_ok hasKey with
  | close token =>
    obtain ⟨-, rfl⟩ := pure_ok.mp inside
    rw [endObject_ok, Cursor.trim_trim] at close
    exact .inl close
  | first quote => exact .inr quote

end BearerLogin.Json.Reader
