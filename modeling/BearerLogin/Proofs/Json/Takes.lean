import BearerLogin.Json.Printer
import BearerLogin.Proofs.Json.Extent
import BearerLogin.Proofs.Text

/-! What a reader takes from the front of a text, whatever the place of the cursor is.  A string and
an integer are taken exactly as they are written (`Takes.readString`, `Takes.readNumber`), and what
follows them is left. -/

namespace BearerLogin.Json.Reader

variable {text mid rest : List UInt8} {a : α} {b : UInt8}

/-- The reader gives a value in front of `text`, and leaves `rest` of it. -/
def Takes (r : Reader α) (text : List UInt8) (a : α) (rest : List UInt8) : Prop :=
  ∀ ⦃c : Cursor⦄, c.rest = text → ∃ after, r c = .ok a after ∧ after.rest = rest

namespace Takes

/-! ### Steps -/

theorem bind {r : Reader α} {f : α → Reader β} {found : β} (first : Takes r text a mid)
    (second : Takes (f a) mid found rest) : Takes (r >>= f) text found rest := by
  intro c text_eq
  obtain ⟨between, read, mid_eq⟩ := first text_eq
  obtain ⟨after, then_, rest_eq⟩ := second mid_eq
  exact ⟨after, (bind_of_ok read).trans then_, rest_eq⟩

theorem pure (a : α) : Takes (Pure.pure a) text a text :=
  fun c text_eq => ⟨c, rfl, text_eq⟩

theorem map {r : Reader α} (f : α → β) (read : Takes r text a rest) :
    Takes (do return f (← r)) text (f a) rest :=
  read.bind (pure (f a))

theorem peek : Takes peek text text.head? text :=
  fun c text_eq => ⟨c, by rw [Reader.peek, text_eq], text_eq⟩

theorem skip : Takes skip (b :: rest) () rest :=
  fun c text_eq => ⟨c.advance, rfl, by rw [c.rest_advance, text_eq, List.tail_cons]⟩

theorem next : Takes next (b :: rest) (some b) rest :=
  fun c text_eq => ⟨c.advance, by rw [Reader.next, text_eq, List.head?_cons],
    by rw [c.rest_advance, text_eq, List.tail_cons]⟩

theorem left : Takes left text text.length text :=
  fun c text_eq => ⟨c, by rw [Reader.left, text_eq], text_eq⟩

theorem look (look : List UInt8 → α) :
    Takes (fun c => .ok (look c.rest) c : Reader α) text (look text) text :=
  fun c text_eq => ⟨c, text_eq ▸ rfl, text_eq⟩

theorem skipMany (n : Nat) : Takes (skipMany n) text () (text.drop n) := by
  induction n generalizing text with
  | zero => exact pure ()
  | succ n ih =>
    intro c text_eq
    obtain ⟨after, skipped, rest_eq⟩ := ih (c.rest_advance.trans (congrArg List.tail text_eq))
    exact ⟨after, skipped, by rw [rest_eq, List.drop_tail]⟩

theorem peekToken (visible : Cursor.isSpace b = false) :
    Takes peekToken (b :: rest) (some b) (b :: rest) := by
  intro c text_eq
  have same : c.trim = c := Cursor.trim_of_not_space text_eq (by simp [visible])
  refine ⟨c, ?_, text_eq⟩
  show EStateM.Result.ok c.trim.rest.head? c.trim = _
  rw [same, text_eq, List.head?_cons]

theorem located {r : Reader α} (read : Takes r text a rest) : Takes (located r) text a rest :=
  fun _ text_eq => (read text_eq).imp fun _ found => ⟨located_ok.mpr found.1, found.2⟩

theorem within {r : Reader α} (path : String) (read : Takes r text a rest) :
    Takes (within path r) text a rest :=
  fun _ text_eq => (read text_eq).imp fun _ found => ⟨within_ok.mpr found.1, found.2⟩

theorem enclosed {inside : Reader α} {close : Reader Unit} (first : Takes inside text a mid)
    (second : Takes close mid () rest) : Takes (enclosed inside close) text a rest := by
  intro c text_eq
  obtain ⟨between, read, mid_eq⟩ := first text_eq
  obtain ⟨after, closed, rest_eq⟩ := second mid_eq
  exact ⟨after, enclosed_ok.mpr ⟨between, read, closed⟩, rest_eq⟩

theorem literal (letters : List UInt8) : Takes (literal letters) (letters ++ rest) () rest := by
  induction letters with
  | nil => exact pure ()
  | cons letter letters ih =>
    refine next.bind ?_
    dsimp only
    rw [if_pos rfl]
    exact ih

/-- A whole text is read if nothing of it is left. -/
theorem run_eq {r : Reader α} (read : Takes r text a []) : run r text = .ok a := by
  obtain ⟨mid, first, nothing⟩ := read (c := { rest := text }) rfl
  refine run_eq_ok.mpr ⟨mid, mid.trim, first, ?_⟩
  unfold expectEnd
  rw [peekToken_bind, Cursor.trim_of_nil nothing, nothing]
  rfl

end Takes

/-! ### Characters as bytes -/

/-- The bytes of characters. -/
def encoded (chars : List Char) : List UInt8 :=
  chars.flatMap String.utf8EncodeChar

@[simp] theorem encoded_nil : encoded [] = [] := rfl

@[simp] theorem encoded_append (front back : List Char) :
    encoded (front ++ back) = encoded front ++ encoded back :=
  List.flatMap_append

theorem encoded_cons (c : Char) (chars : List Char) :
    encoded (c :: chars) = String.utf8EncodeChar c ++ encoded chars :=
  List.flatMap_cons

theorem encoded_cons_ascii {c : Char} (ascii : c.toNat < 128) (chars : List Char) :
    encoded (c :: chars) = UInt8.ofNat c.toNat :: encoded chars := by
  rw [encoded_cons, Text.utf8EncodeChar_of_lt ascii, List.singleton_append]

theorem encoded_singleton (c : Char) : encoded [c] = String.utf8EncodeChar c := by
  rw [encoded_cons, encoded_nil, List.append_nil]

theorem length_le_encoded (chars : List Char) : chars.length ≤ (encoded chars).length := by
  induction chars with
  | nil => exact Nat.le_refl 0
  | cons c chars ih =>
    have positive := String.length_utf8EncodeChar c
    have size := c.utf8Size_pos
    rw [encoded_cons, List.length_append, List.length_cons]
    omega

/-! ### Strings -/

/-- A byte that stands for itself inside a string. -/
def Plain (b : UInt8) : Prop :=
  b ≠ 34 ∧ b ≠ 92 ∧ ¬b < 32

section

variable {taken escape bytes found : List UInt8} {fuel : Nat}

theorem Takes.stringBytes_plain (plain : ∀ b ∈ bytes, Plain b)
    (more : Takes (stringBytes (bytes.reverse ++ taken) fuel) text found rest) :
    Takes (stringBytes taken (fuel + bytes.length)) (bytes ++ text) found rest := by
  induction bytes generalizing taken with
  | nil => exact more
  | cons b bytes ih =>
    obtain ⟨⟨quote, backslash, control⟩, others⟩ := List.forall_mem_cons.mp plain
    refine peek.bind (skip.bind ?_)
    rw [if_neg quote, if_neg backslash, if_neg control]
    exact ih others (by simpa using more)

theorem Takes.stringBytes_escape (first : Takes readEscape (escape ++ text) bytes text)
    (more : Takes (stringBytes (bytes.reverse ++ taken) fuel) text found rest) :
    Takes (stringBytes taken (fuel + 1)) (92 :: escape ++ text) found rest := by
  refine peek.bind (skip.bind ?_)
  rw [if_neg (by decide), if_pos rfl]
  exact first.bind more

/-- The escape of a control character is read as the character. -/
theorem Takes.readEscape_control {n : Nat} (control : n < 32) :
    Takes readEscape (encoded ['u', '0', '0', hexDigit (n / 16), hexDigit (n % 16)] ++ text)
      (utf8Point n) text := by
  have digits : ∃ high low, encoded ['u', '0', '0', hexDigit (n / 16), hexDigit (n % 16)] =
      [117, 48, 48, high, low] ∧ hexFour? 48 48 high low = some n := by
    refine ⟨UInt8.ofNat (hexDigit (n / 16)).toNat, UInt8.ofNat (hexDigit (n % 16)).toNat, ?_⟩
    revert n
    decide
  obtain ⟨high, low, text_eq, value⟩ := digits
  rw [text_eq]
  refine next.bind ?_
  have number : Takes readHexFour (48 :: 48 :: high :: low :: text) n text := by
    refine (look id).bind ((skipMany 4).bind ?_)
    rw [value]
    exact pure n
  refine number.bind ?_
  rw [if_neg (by omega), if_neg (by omega)]
  exact pure _

theorem plain_utf8EncodeChar {c : Char} (quote : c ≠ '"') (backslash : c ≠ '\\')
    (visible : ¬c.toNat < 32) : ∀ b ∈ String.utf8EncodeChar c, Plain b := by
  intro b member
  rcases Text.mem_utf8EncodeChar member with value | ⟨wide, -⟩
  · refine ⟨?_, ?_, ?_⟩
    · rintro rfl
      exact quote (Char.toNat_inj.mp value.symm)
    · rintro rfl
      exact backslash (Char.toNat_inj.mp value.symm)
    · rw [UInt8.lt_iff_toNat_lt, value]
      exact visible
  · refine ⟨?_, ?_, ?_⟩
    · rintro rfl
      exact absurd wide (by decide)
    · rintro rfl
      exact absurd wide (by decide)
    · rw [UInt8.lt_iff_toNat_lt]
      exact Nat.not_lt.mpr (Nat.le_trans (by decide) wide)

/-- However a character is written inside a string, it is read as the character. -/
theorem Takes.stringBytes_char (c : Char) :
    ∃ steps ≤ (encoded (escapeChar c)).length, ∀ {taken fuel text found rest},
      Takes (stringBytes ((String.utf8EncodeChar c).reverse ++ taken) fuel) text found rest →
        Takes (stringBytes taken (fuel + steps)) (encoded (escapeChar c) ++ text) found rest := by
  unfold escapeChar
  split
  case h_8 quote backslash _ _ _ _ _ =>
    split
    · next control =>
      have point : utf8Point c.toNat = String.utf8EncodeChar c := by
        rw [utf8Point, Char.ofNat_toNat]
      refine ⟨1, Nat.le_trans (by simp) (length_le_encoded _), fun more => ?_⟩
      exact stringBytes_escape (point ▸ readEscape_control control) more
    · next visible =>
      rw [encoded_singleton]
      refine ⟨(String.utf8EncodeChar c).length, Nat.le_refl _, fun more => ?_⟩
      exact stringBytes_plain (plain_utf8EncodeChar quote backslash visible) more
  all_goals exact ⟨1, by decide, fun more => stringBytes_escape (next.bind (pure _)) more⟩

theorem Takes.stringBytes_chars {chars : List Char}
    (enough : (encoded (chars.flatMap escapeChar)).length < fuel) :
    Takes (stringBytes taken fuel) (encoded (chars.flatMap escapeChar) ++ 34 :: rest)
      (taken.reverse ++ encoded chars) rest := by
  -- A character takes no more steps than it has bytes, so the fuel lasts for the others.
  induction chars generalizing taken fuel with
  | nil =>
    obtain ⟨fuel, rfl⟩ := Nat.exists_eq_add_one.mpr enough
    refine peek.bind (skip.bind ?_)
    rw [if_pos rfl, encoded_nil, List.append_nil]
    exact pure _
  | cons c chars ih =>
    obtain ⟨steps, within, step⟩ := stringBytes_char c
    rw [List.flatMap_cons, encoded_append, List.length_append] at enough
    obtain ⟨left, rfl⟩ : ∃ left, fuel = left + steps := ⟨fuel - steps, by omega⟩
    have others : Takes (Reader.stringBytes ((String.utf8EncodeChar c).reverse ++ taken) left)
        _ _ _ := ih (by omega)
    rw [List.reverse_append, List.reverse_reverse, List.append_assoc, ← encoded_cons] at others
    rw [List.flatMap_cons, encoded_append, List.append_assoc]
    exact step others

end

/-- A string is read as it was before it was written. -/
theorem Takes.readString (s : String) :
    Takes readString (encoded (s.toList.flatMap escapeChar) ++ 34 :: rest) s rest := by
  refine left.bind ((stringBytes_chars ?_).bind ?_)
  · rw [List.length_append]
    omega
  · have bytes_eq : Text.utf8 s = encoded s.toList := by
      rw [encoded, ← Text.utf8_ofList, String.ofList_toList]
    rw [List.reverse_nil, List.nil_append, ← bytes_eq, Text.ofUtf8?_utf8]
    exact pure s

/-! ### Integers -/

/-- What may follow a value inside a list or an object, or at the end of a text. -/
def Ends (rest : List UInt8) : Prop :=
  ∀ b ∈ rest.head?, b = 44 ∨ b = 93 ∨ b = 125

/-- An integer ends where a value does. -/
theorem Takes.afterInteger {negative : Bool} {value : Nat} {number : Number} (ends : Ends rest)
    (whole : Takes (wholeNumber negative value) rest number rest) :
    Takes (afterInteger negative value) rest number rest := by
  refine peek.bind ?_
  rcases rest with _ | ⟨b, rest⟩
  · exact whole
  · rcases ends b rfl with rfl | rfl | rfl <;> exact whole

/-- The byte of a digit. -/
theorem encoded_cons_digit {c : Char} (digit : c.isDigit = true) (chars : List Char) :
    ∃ b, encoded (c :: chars) = b :: encoded chars ∧ isDigit b = true ∧
      digitValue b = c.toNat - '0'.toNat ∧ (b = 48 → c = '0') := by
  have bounds : 48 ≤ c.toNat ∧ c.toNat ≤ 57 := by
    simpa [Char.isDigit, UInt32.le_iff_toNat_le] using digit
  have value : (UInt8.ofNat c.toNat).toNat = c.toNat := by
    rw [UInt8.toNat_ofNat', Nat.mod_eq_of_lt (by omega)]
  refine ⟨_, encoded_cons_ascii (by omega) chars, ?_, ?_, ?_⟩
  · simpa [isDigit, UInt8.le_iff_toNat_le, value] using bounds
  · rw [digitValue, value]
    rfl
  · intro zero
    rw [zero] at value
    exact Char.toNat_inj.mp value.symm

theorem length_encoded_digits {digits : List Char} (all : ∀ c ∈ digits, c.isDigit = true) :
    (encoded digits).length = digits.length := by
  induction digits with
  | nil => rfl
  | cons c digits ih =>
    obtain ⟨first, others⟩ := List.forall_mem_cons.mp all
    obtain ⟨b, bytes_eq, -⟩ := encoded_cons_digit first digits
    rw [bytes_eq, List.length_cons, List.length_cons, ih others]

theorem encoded_toDigits (n : Nat) :
    ∃ b rest, encoded (Nat.toDigits 10 n) = b :: rest ∧ isDigit b = true := by
  rcases written : Nat.toDigits 10 n with _ | ⟨c, digits⟩
  · exact absurd written Nat.toDigits_ne_nil
  · have digit : c.isDigit = true :=
      Nat.isDigit_of_mem_toDigits (by decide) (by decide) (written ▸ List.mem_cons_self)
    obtain ⟨b, bytes_eq, digit, -⟩ := encoded_cons_digit digit digits
    exact ⟨b, _, bytes_eq, digit⟩

/-- The digits of a number that fits into 64 bits are all taken. -/
theorem takeDigits_encoded {digits : List Char} {value taken : Nat}
    (all : ∀ c ∈ digits, c.isDigit = true)
    (fits : Nat.ofDigitChars 10 digits value < 0x10000000000000000) (ends : Ends rest) :
    takeDigits value taken (encoded digits ++ rest) =
      (Nat.ofDigitChars 10 digits value, taken + digits.length, false) := by
  induction digits generalizing value taken with
  | nil =>
    rcases rest with _ | ⟨b, rest⟩
    · rfl
    · rcases ends b rfl with rfl | rfl | rfl <;> rfl
  | cons c digits ih =>
    obtain ⟨first, others⟩ := List.forall_mem_cons.mp all
    obtain ⟨b, bytes_eq, digit, digit_eq, -⟩ := encoded_cons_digit first digits
    rw [Nat.ofDigitChars_cons, ← digit_eq, Nat.mul_comm] at fits ⊢
    -- The number so far is at most the whole number, and fits because that does.
    have longer : value * 10 + digitValue b < 0x10000000000000000 := by
      have whole := fits
      rw [Nat.ofDigitChars_eq_ofDigitChars_zero] at whole
      have power : 0 < 10 ^ digits.length := by positivity
      have scaled := Nat.le_mul_of_pos_left (value * 10 + digitValue b) power
      omega
    rw [bytes_eq, List.cons_append, takeDigits, if_pos digit]
    dsimp only
    rw [if_pos longer, ih others fits, List.length_cons, Nat.add_assoc, Nat.add_comm 1]

theorem Takes.readDigits (value : Nat) (text : List UInt8) :
    Takes (readDigits value) text (takeDigits value 0 text)
      (text.drop (takeDigits value 0 text).2.1) :=
  (look _).bind ((skipMany _).bind (pure _))

/-- Only zero is written with a zero in front. -/
theorem eq_zero_of_toDigits {n : Nat} {digits : List Char}
    (written : Nat.toDigits 10 n = '0' :: digits) : n = 0 := by
  induction n using Nat.strong_induction_on generalizing digits with
  | _ n ih =>
    by_cases small : n < 10
    · rw [Nat.toDigits_of_lt_base small] at written
      exact Nat.digitChar_eq_zero.mp (List.cons.inj written).1
    · rw [Nat.toDigits_of_base_le (by decide) (by omega)] at written
      rcases front_eq : Nat.toDigits 10 (n / 10) with _ | ⟨c, front⟩
      · exact absurd front_eq Nat.toDigits_ne_nil
      · rw [front_eq, List.cons_append, List.cons.injEq] at written
        have tenth := ih (n / 10) (by omega) (written.1 ▸ front_eq)
        omega

theorem Takes.readNumber {negative : Bool} {n : Nat} {number : Number}
    (fits : n < 0x10000000000000000) (ends : Ends rest)
    (whole : Takes (wholeNumber negative n) rest number rest) :
    Takes (readNumber negative) (encoded (Nat.toDigits 10 n) ++ rest) number rest := by
  have all : ∀ c ∈ Nat.toDigits 10 n, c.isDigit = true := fun c member =>
    Nat.isDigit_of_mem_toDigits (by decide) (by decide) member
  have value := Nat.ofDigitChars_ten_toDigits (n := n)
  rcases written : Nat.toDigits 10 n with _ | ⟨c, digits⟩
  · exact absurd written Nat.toDigits_ne_nil
  · rw [written] at all value
    obtain ⟨first, others⟩ := List.forall_mem_cons.mp all
    obtain ⟨b, bytes_eq, digit, digit_eq, zero⟩ := encoded_cons_digit first digits
    rw [Nat.ofDigitChars_cons, Nat.mul_zero, Nat.zero_add, ← digit_eq] at value
    rw [bytes_eq]
    refine next.bind ?_
    -- Behind a zero no digit may follow, and none does, as zero alone begins with one.
    by_cases isZero : b = 48
    · subst isZero
      obtain rfl := zero rfl
      obtain rfl := eq_zero_of_toDigits written
      obtain rfl : digits = [] := (List.cons.inj written).2.symm
      refine peek.bind ?_
      rcases rest with _ | ⟨b, rest⟩
      · exact afterInteger ends whole
      · rcases ends b rfl with rfl | rfl | rfl <;> exact afterInteger ends whole
    · have taken : takeDigits (digitValue b) 0 (encoded digits ++ rest) = _ :=
        takeDigits_encoded others (value.trans_lt fits) ends
      have read := readDigits (digitValue b) (encoded digits ++ rest)
      rw [value] at taken
      rw [taken, Nat.zero_add, ← length_encoded_digits others, List.drop_left] at read
      split
      · next none => cases none
      · next same => exact absurd (Option.some.inj same) isZero
      · next same =>
        cases same
        rw [if_pos digit]
        exact read.bind (afterInteger ends whole)

end BearerLogin.Json.Reader
