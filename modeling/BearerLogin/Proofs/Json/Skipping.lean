import BearerLogin.Proofs.Json.Extent
import BearerLogin.Proofs.Json.Spans

/-! What reads a value and what passes over it end behind the same byte: `skipValue_of_read`.  The
one descends into lists and objects, the other keeps the open brackets in a list; the induction is
on how deep values may nest, and within a list or an object on its items or members. -/

namespace BearerLogin.Json.Reader

variable {c mid after : Cursor} {fuel closes : Nat} {open_ : List Bracket}

theorem forward_literal (rest : List UInt8) : Forward (literal rest) := by
  induction rest with
  | nil => exact Forward.pure ()
  | cons expected rest ih =>
    refine Forward.next.bind fun b => ?_
    split
    · exact Forward.failHere _
    · split
      · exact ih
      · exact Forward.failHere _

theorem skipOpening_trim (c : Cursor) : skipOpening c.trim = skipOpening c := by
  unfold skipOpening
  rw [peekToken_bind, peekToken_bind, Cursor.trim_trim]

theorem skipOpening_of_literal {rest : List UInt8} {b : UInt8}
    (token : c.trim.rest.head? = some b)
    (known : b = 110 ∧ rest = nullRest ∨ b = 116 ∧ rest = trueRest ∨ b = 102 ∧ rest = falseRest)
    (h : literal rest c.trim.advance = .ok () after) : skipOpening c = .ok none after := by
  unfold skipOpening
  rw [peekToken_bind, token]
  rcases known with ⟨rfl, rfl⟩ | ⟨rfl, rfl⟩ | ⟨rfl, rfl⟩
  · exact bind_of_ok h
  · exact bind_of_ok h
  · exact bind_of_ok h

theorem skipOpening_of_negative (token : c.trim.rest.head? = some 45)
    (h : skipNumber c.trim.advance = .ok () after) : skipOpening c = .ok none after := by
  unfold skipOpening
  rw [peekToken_bind, token]
  exact bind_of_ok h

theorem skipOpening_of_digit {b : UInt8} (token : c.trim.rest.head? = some b)
    (digit : isDigit b = true) (h : skipNumber c.trim = .ok () after) :
    skipOpening c = .ok none after := by
  unfold skipOpening
  rw [peekToken_bind]
  generalize c.trim.rest.head? = first at token ⊢
  split
  case h_1 => cases token
  case h_2 | h_3 | h_4 | h_5 | h_6 | h_7 | h_8 =>
    cases token
    exact absurd digit (by decide)
  case h_9 =>
    cases token
    rw [if_pos digit]
    exact bind_of_ok h

theorem skipOpening_of_text (token : c.trim.rest.head? = some 34)
    (h : skipString (c.trim.advance.rest.length + 1) c.trim.advance = .ok () after) :
    skipOpening c = .ok none after := by
  unfold skipOpening
  rw [peekToken_bind, token]
  exact bind_of_ok h

theorem skipOpening_of_list (token : c.trim.rest.head? = some 91) :
    skipOpening c = .ok (some .list) c.trim.advance := by
  unfold skipOpening
  rw [peekToken_bind, token]
  rfl

theorem skipOpening_of_object (token : c.trim.rest.head? = some 123) :
    skipOpening c = .ok (some .object) c.trim.advance := by
  unfold skipOpening
  rw [peekToken_bind, token]
  rfl

/-! ### Open brackets -/

/-- Goes on behind a value inside open brackets: `closes` bounds how many of them are closed. -/
def goOn (fuel closes : Nat) (open_ : List Bracket) : Reader Unit := do
  let bracket ← skipClosing true closes open_
  match bracket with
  | [] => return
  | .object :: _ => skipKey; skipOpen fuel bracket
  | .list :: _ => skipOpen fuel bracket

/-- What is left to do is to go on at a cursor, with enough fuel. -/
def GoesOn (rest : EStateM.Result Fault Cursor Unit) (open_ : List Bracket) (c : Cursor) : Prop :=
  ∃ fuel closes, c.rest.length ≤ fuel ∧ c.rest.length < closes ∧ rest = goOn fuel closes open_ c

/-- Between two cursors stands what is passed over like one value. -/
def Passed (c after : Cursor) : Prop :=
  ∀ ⦃fuel : Nat⦄ (open_ : List Bracket), c.rest.length ≤ fuel →
    GoesOn (skipOpen (fuel + 1) open_ c) open_ after

theorem passed_trim (h : Passed c.trim after) : Passed c after := by
  intro fuel open_ enough
  have same : skipOpen (fuel + 1) open_ c = skipOpen (fuel + 1) open_ c.trim := by
    show EStateM.bind skipOpening _ c = EStateM.bind skipOpening _ c.trim
    rw [EStateM.bind, EStateM.bind, skipOpening_trim]
  rw [same]
  exact h open_ (Nat.le_trans c.length_trim_le enough)

theorem passed_of_scalar (h : skipOpening c = .ok none after)
    (forward : after.rest.length ≤ c.rest.length) : Passed c after := by
  intro fuel open_ enough
  exact ⟨fuel, fuel + 1, by omega, by omega, bind_of_ok h⟩

theorem goOn_nil : goOn fuel closes [] c = .ok () c := by
  unfold goOn
  cases closes <;> rfl

/-- The byte that closes a bracket. -/
def Bracket.closing : Bracket → UInt8
  | .list => 93
  | .object => 125

/-- What closing does at the next byte: it goes on behind a comma, closes the bracket, or leaves it
open if nothing was passed in it yet. -/
theorem skipClosing_ahead {bracket : Bracket} {comma : Bool} {b : UInt8}
    (token : c.trim.rest.head? = some b) :
    skipClosing comma (closes + 1) (bracket :: open_) c =
      (if b = 44 ∧ comma then do skip; return bracket :: open_
        else if b = bracket.closing then do skip; skipClosing true closes open_
        else if comma then failAhead (match bracket with
          | .list => .expectedListCommaOrEnd
          | .object => .expectedObjectCommaOrEnd)
        else return bracket :: open_ : Reader (List Bracket)) c.trim := by
  show (peekToken >>= _) c = _
  rw [peekToken_bind, token]
  cases bracket <;> rfl

theorem skipClosing_close {bracket : Bracket} (comma : Bool)
    (token : c.trim.rest.head? = some bracket.closing) :
    skipClosing comma (closes + 1) (bracket :: open_) c =
      skipClosing true closes open_ c.trim.advance := by
  have noComma : ¬(bracket.closing = 44 ∧ comma = true) := by
    cases bracket <;> exact fun both => absurd both.1 (by decide)
  rw [skipClosing_ahead token, if_neg noComma, if_pos rfl]
  rfl

theorem skipClosing_comma {bracket : Bracket} (token : c.trim.rest.head? = some 44) :
    skipClosing true (closes + 1) (bracket :: open_) c = .ok (bracket :: open_) c.trim.advance := by
  rw [skipClosing_ahead token, if_pos ⟨rfl, rfl⟩]
  rfl

theorem skipClosing_open {bracket : Bracket} {b : UInt8} (token : c.trim.rest.head? = some b)
    (notClose : b ≠ bracket.closing) :
    skipClosing false (closes + 1) (bracket :: open_) c = .ok (bracket :: open_) c.trim := by
  rw [skipClosing_ahead token, if_neg fun both => absurd both.2 Bool.false_ne_true,
    if_neg notClose]
  rfl

theorem bind_skipClosing_close {bracket : Bracket} {after : List Bracket → Reader α}
    (comma : Bool) (token : c.trim.rest.head? = some bracket.closing) :
    EStateM.bind (skipClosing comma (closes + 1) (bracket :: open_)) after c =
      EStateM.bind (skipClosing true closes open_) after c.trim.advance := by
  unfold EStateM.bind
  rw [skipClosing_close comma token]

/-- A closing bracket ends the innermost one. -/
theorem goOn_close {bracket : Bracket} (token : c.trim.rest.head? = some bracket.closing) :
    goOn fuel (closes + 1) (bracket :: open_) c = goOn fuel closes open_ c.trim.advance :=
  bind_skipClosing_close true token

theorem goOn_comma_list (token : c.trim.rest.head? = some 44) :
    goOn fuel (closes + 1) (.list :: open_) c = skipOpen fuel (.list :: open_) c.trim.advance :=
  bind_of_ok (skipClosing_comma token)

theorem goOn_comma_object (token : c.trim.rest.head? = some 44) :
    goOn fuel (closes + 1) (.object :: open_) c =
      (do skipKey; skipOpen fuel (.object :: open_) : Reader Unit) c.trim.advance :=
  bind_of_ok (skipClosing_comma token)

/-! ### Lists and objects -/

theorem goesOn_of_close {bracket : Bracket}
    (token : c.trim.rest.head? = some bracket.closing)
    (enough : c.rest.length ≤ fuel) (room : c.rest.length < closes) :
    GoesOn (goOn fuel closes (bracket :: open_) c) open_ c.trim.advance := by
  have shorter := Cursor.length_advance_lt token
  have trimmed := c.length_trim_le
  obtain ⟨closes, rfl⟩ : ∃ m, closes = m + 1 := ⟨closes - 1, by omega⟩
  exact ⟨fuel, closes, by omega, by omega, goOn_close token⟩

/-- Behind an item of a list, the items that are left are passed over. -/
theorem goesOn_of_items {item : Reader α} {taken values : List α} {n : Nat}
    (passed : ∀ {c a after}, item c = .ok a after → Passed c after)
    (inside : items item false taken n c = .ok values mid) (close : endList mid = .ok () after)
    (enough : c.rest.length ≤ fuel) (room : c.rest.length < closes) :
    GoesOn (goOn fuel closes (.list :: open_) c) open_ after := by
  -- Each item takes fuel of both readers; what is left of it stays above what is left of the text.
  induction n generalizing c taken fuel closes with
  | zero =>
    obtain ⟨-, rfl⟩ := pure_ok.mp inside
    obtain ⟨token, rfl⟩ := endList_ok.mp close
    exact goesOn_of_close token enough room
  | succ n ih =>
    rw [items] at inside
    obtain ⟨more, next, hasItem, inside⟩ := bind_ok.mp inside
    cases hasItem_ok hasItem with
    | close token =>
      obtain ⟨-, rfl⟩ := pure_ok.mp inside
      rw [endList_ok, Cursor.trim_trim] at close
      rw [← close.2]
      exact goesOn_of_close token enough room
    | comma token =>
      obtain ⟨a, behind, item, inside⟩ := bind_ok.mp inside
      have shorter := Cursor.length_advance_lt token
      have trimmed := c.length_trim_le
      obtain ⟨fuel, rfl⟩ : ∃ m, fuel = m + 1 := ⟨fuel - 1, by omega⟩
      obtain ⟨closes, rfl⟩ : ∃ m, closes = m + 1 := ⟨closes - 1, by omega⟩
      rw [goOn_comma_list token]
      obtain ⟨fuel', closes', enough', room', same⟩ :=
        passed_trim (passed item) (.list :: open_) (show _ ≤ fuel by omega)
      rw [same]
      exact ih inside enough' room'

theorem skipKey_of_read {key : String} {colon : Cursor} (quote : c.trim.rest.head? = some 34)
    (readKey : readKey c.trim = .ok key colon) (readColon : readColon colon = .ok () after) :
    skipKey c = .ok () after := by
  unfold Reader.readKey at readKey
  rw [skip_bind] at readKey
  unfold skipKey
  rw [peekToken_bind, quote]
  simp only [skip_bind, left_bind]
  rw [bind_of_ok (skipString_of_read readKey)]
  exact readColon

theorem forward_skipKey : Forward skipKey := by
  have rest : Forward (do skipString ((← left) + 1); readColon) := by
    refine Forward.left.bind fun n => (forward_skipString _).bind fun _ => ?_
    refine Forward.peekToken.bind fun b => ?_
    split
    · exact Forward.skip
    · exact Forward.failAhead _
    · exact Forward.failAhead _
  refine Forward.peekToken.bind fun b => ?_
  split
  · exact Forward.skip.bind fun _ => rest
  · exact (Forward.failAhead _).bind fun _ => rest
  · exact (Forward.failAhead _).bind fun _ => rest

/-- Behind a member of an object, the members that are left are passed over. -/
theorem goesOn_of_members {value : Reader Json} {taken pairs : List (String × Json)} {n : Nat}
    (passed : ∀ {c v after}, value c = .ok v after → Passed c after)
    (inside : members value false taken n c = .ok pairs mid) (close : endObject mid = .ok () after)
    (enough : c.rest.length ≤ fuel) (room : c.rest.length < closes) :
    GoesOn (goOn fuel closes (.object :: open_) c) open_ after := by
  induction n generalizing c taken fuel closes with
  | zero =>
    obtain ⟨-, rfl⟩ := pure_ok.mp inside
    obtain ⟨token, rfl⟩ := endObject_ok.mp close
    exact goesOn_of_close token enough room
  | succ n ih =>
    rw [members] at inside
    obtain ⟨more, next, hasKey, inside⟩ := bind_ok.mp inside
    cases hasKey_ok hasKey with
    | close token =>
      obtain ⟨-, rfl⟩ := pure_ok.mp inside
      rw [endObject_ok, Cursor.trim_trim] at close
      rw [← close.2]
      exact goesOn_of_close token enough room
    | comma token quote =>
      simp only [if_true, bind_ok] at inside
      obtain ⟨key, colon, readKey, _, next, readColon, v, behind, value, inside⟩ := inside
      have skipKey := skipKey_of_read quote readKey readColon
      have shorter := Cursor.length_advance_lt token
      have trimmed := c.length_trim_le
      have forward := forward_skipKey skipKey
      obtain ⟨fuel, rfl⟩ : ∃ m, fuel = m + 1 := ⟨fuel - 1, by omega⟩
      obtain ⟨closes, rfl⟩ : ∃ m, closes = m + 1 := ⟨closes - 1, by omega⟩
      rw [goOn_comma_object token, bind_of_ok skipKey]
      obtain ⟨fuel', closes', enough', room', same⟩ :=
        passed value (.object :: open_) (show _ ≤ fuel by omega)
      rw [same]
      exact ih inside enough' room'

/-- A list or an object without items is closed at once. -/
theorem passed_of_empty {bracket : Bracket} (opening : skipOpening c = .ok (some bracket) mid)
    (shorter : mid.rest.length < c.rest.length)
    (token : mid.trim.rest.head? = some bracket.closing) : Passed c mid.trim.advance := by
  intro fuel open_ enough
  have shorterInside := Cursor.length_advance_lt token
  have trimmedInside := mid.length_trim_le
  refine ⟨fuel, fuel, by omega, by omega, (bind_of_ok opening).trans ?_⟩
  exact bind_skipClosing_close false token

/-- Behind an opening bracket that is not closed at once, what is inside is passed over. -/
theorem skipOpen_of_opening {bracket : Bracket} {b : UInt8}
    (opening : skipOpening c = .ok (some bracket) mid) (token : mid.trim.rest.head? = some b)
    (notClose : b ≠ bracket.closing) :
    skipOpen (fuel + 1) open_ c =
      (match bracket with
        | .object => do skipKey; skipOpen fuel (.object :: open_)
        | .list => skipOpen fuel (.list :: open_) : Reader Unit) mid.trim := by
  refine (bind_of_ok opening).trans ?_
  cases bracket with
  | list => exact bind_of_ok (skipClosing_open token notClose)
  | object => exact bind_of_ok (skipClosing_open token notClose)

theorem passed_of_list {item : Reader α} {values : List α} {n : Nat}
    (passed : ∀ {c a after}, item c = .ok a after → Passed c after)
    (token : c.trim.rest.head? = some 91)
    (inside : items item true [] (n + 1) c.trim.advance = .ok values mid)
    (close : endList mid = .ok () after) : Passed c after := by
  have shorter := Cursor.length_advance_lt token
  have trimmed := c.length_trim_le
  rw [items] at inside
  obtain ⟨more, next, hasItem, inside⟩ := bind_ok.mp inside
  cases hasItem_ok hasItem with
  | close closing =>
    obtain ⟨-, rfl⟩ := pure_ok.mp inside
    rw [endList_ok, Cursor.trim_trim] at close
    obtain ⟨-, rfl⟩ := close
    exact passed_of_empty (skipOpening_of_list token) (by omega) closing
  | first first notClose =>
    intro fuel open_ enough
    have trimmedInside := c.trim.advance.length_trim_le
    obtain ⟨fuel, rfl⟩ : ∃ m, fuel = m + 1 := ⟨fuel - 1, by omega⟩
    simp only [if_true, bind_ok] at inside
    obtain ⟨a, behind, item, inside⟩ := inside
    rw [skipOpen_of_opening (skipOpening_of_list token) first notClose]
    obtain ⟨fuel', closes', enough', room', same⟩ :=
      passed item (.list :: open_) (show _ ≤ fuel by omega)
    simp only [same]
    exact goesOn_of_items passed inside close enough' room'

theorem passed_of_object {value : Reader Json} {pairs : List (String × Json)} {n : Nat}
    (passed : ∀ {c v after}, value c = .ok v after → Passed c after)
    (token : c.trim.rest.head? = some 123)
    (inside : members value true [] (n + 1) c.trim.advance = .ok pairs mid)
    (close : endObject mid = .ok () after) : Passed c after := by
  have shorter := Cursor.length_advance_lt token
  have trimmed := c.length_trim_le
  rw [members] at inside
  obtain ⟨more, next, hasKey, inside⟩ := bind_ok.mp inside
  cases hasKey_ok hasKey with
  | close closing =>
    obtain ⟨-, rfl⟩ := pure_ok.mp inside
    rw [endObject_ok, Cursor.trim_trim] at close
    obtain ⟨-, rfl⟩ := close
    exact passed_of_empty (skipOpening_of_object token) (by omega) closing
  | first quote =>
    intro fuel open_ enough
    have trimmedInside := c.trim.advance.length_trim_le
    simp only [if_true, bind_ok] at inside
    obtain ⟨key, colon, readKey, _, next, readColon, v, behind, value, inside⟩ := inside
    have skipKey : skipKey c.trim.advance.trim = .ok () next :=
      skipKey_of_read (by rwa [Cursor.trim_trim]) (by rwa [Cursor.trim_trim]) readColon
    have forward := forward_skipKey skipKey
    obtain ⟨fuel, rfl⟩ : ∃ m, fuel = m + 1 := ⟨fuel - 1, by omega⟩
    rw [skipOpen_of_opening (skipOpening_of_object token) quote (by decide)]
    obtain ⟨fuel', closes', enough', room', same⟩ :=
      passed value (.object :: open_) (show _ ≤ fuel by omega)
    simp only [bind_of_ok skipKey, same]
    exact goesOn_of_members passed inside close enough' room'

theorem forward_behind (h : after.rest.length ≤ c.trim.advance.rest.length) :
    after.rest.length ≤ c.rest.length := by
  have shorter := c.trim.length_advance_le
  have trimmed := c.length_trim_le
  omega

theorem passed_of_spans {depth : Nat} {value : Json} (spans : Spans depth c value after)
    (passed : ∀ {depth' c v after}, depth' < depth → readValue depth' c = .ok v after →
      Passed c after) : Passed c after := by
  cases spans with
  | null token rest | yes token rest | no token rest =>
    exact passed_of_scalar (skipOpening_of_literal token (by simp) rest)
      (forward_behind (forward_literal _ rest))
  | negative token number =>
    have skipped := skipNumber_of_read number
    exact passed_of_scalar (skipOpening_of_negative token skipped)
      (forward_behind (forward_skipNumber skipped))
  | number token digit number =>
    have skipped := skipNumber_of_read number
    exact passed_of_scalar (skipOpening_of_digit token digit skipped)
      (Nat.le_trans (forward_skipNumber skipped) c.length_trim_le)
  | text token text =>
    have skipped := skipString_of_read text
    exact passed_of_scalar (skipOpening_of_text token skipped)
      (forward_behind (forward_skipString _ skipped))
  | list token inside close =>
    exact passed_of_list (passed (Nat.lt_succ_self _)) token inside close
  | object token inside close =>
    exact passed_of_object (passed (Nat.lt_succ_self _)) token inside close

/-- Reading a value and passing over it end behind the same byte. -/
theorem skipValue_of_read {depth : Nat} {value : Json} (h : readValue depth c = .ok value after) :
    skipValue c = .ok () after := by
  have passed : Passed c after := by
    -- The values inside of a value nest less deep.
    induction depth using Nat.strongRecOn generalizing c value after with
    | ind depth ih => exact passed_of_spans (spans_of_read h) fun less read => ih _ less read
  obtain ⟨fuel, closes, -, -, same⟩ := passed [] (Nat.le_refl _)
  unfold skipValue
  rw [left_bind, same, goOn_nil]

end BearerLogin.Json.Reader
