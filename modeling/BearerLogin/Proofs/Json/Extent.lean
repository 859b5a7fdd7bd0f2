import BearerLogin.Proofs.Json.Reading

/-! How far numbers and strings reach.  What reads a number or a string and what passes over it stop
behind the same byte, although the one takes digits as long as they fit and pairs up surrogates and
the other does not. -/

namespace BearerLogin.Json

namespace Cursor

/-- Some of the digits that come next can be passed before the others. -/
theorem pastDigits_many {c : Cursor} {k : Nat}
    (run : Reader.digitRun c.rest = k + Reader.digitRun (c.rest.drop k)) :
    (c.many k).pastDigits = c.pastDigits := by
  rw [pastDigits, pastDigits, run, many_add, rest_many]

theorem pastDigits_of_none {c : Cursor} (h : Reader.digitRun c.rest = 0) : c.pastDigits = c := by
  rw [pastDigits, h]
  rfl

end Cursor

namespace Reader

variable {c after : Cursor} {negative : Bool} {significand : Nat} {exponent : Int} {d : Double}

/-! ### Digits -/

/-- The digits of a number are taken from the front of the run, and another one follows only where
some are left. -/
theorem takeDigits_run (value taken : Nat) (rest : List UInt8) :
    ∃ k, (takeDigits value taken rest).2.1 = taken + k ∧
      digitRun rest = k + digitRun (rest.drop k) ∧
      ((takeDigits value taken rest).2.2 = false ↔ digitRun (rest.drop k) = 0) := by
  induction rest generalizing value taken with
  | nil => exact ⟨0, by simp [takeDigits, digitRun]⟩
  | cons b rest ih =>
    by_cases digit : isDigit b = true
    · by_cases fits : value * 10 + digitValue b < 0x10000000000000000
      · obtain ⟨k, taken_eq, run, more⟩ := ih (value * 10 + digitValue b) (taken + 1)
        refine ⟨k + 1, ?_, ?_, ?_⟩
        · simp [takeDigits, digit, fits, taken_eq]
          omega
        · simp [digitRun, digit]
          omega
        · simpa [takeDigits, digit, fits] using more
      · refine ⟨0, ?_, ?_, ?_⟩
        · simp [takeDigits, digit, fits]
        · simp
        · simp [takeDigits, digit, fits, digitRun]
    · refine ⟨0, ?_, ?_, ?_⟩
      · simp [takeDigits, digit]
      · simp
      · simp [takeDigits, digit, digitRun]

theorem takeDigits_lt {value : Nat} (small : value < 2 ^ 64) (taken : Nat) (rest : List UInt8) :
    (takeDigits value taken rest).1 < 2 ^ 64 := by
  induction rest generalizing value taken with
  | nil => exact small
  | cons b rest ih =>
    by_cases digit : isDigit b = true
    · by_cases fits : value * 10 + digitValue b < 0x10000000000000000
      · simpa [takeDigits, digit, fits] using ih fits (taken + 1)
      · simpa [takeDigits, digit, fits] using small
    · simpa [takeDigits, digit] using small

/-- The same holds for the digits of an exponent, but the one that makes it too large is taken. -/
theorem takeExponent_run (value taken : Nat) (rest : List UInt8) :
    ∃ k, (takeExponent value taken rest).2.1 = taken + k ∧
      digitRun rest = k + digitRun (rest.drop k) ∧
      ((takeExponent value taken rest).2.2 = false → digitRun (rest.drop k) = 0) := by
  induction rest generalizing value taken with
  | nil => exact ⟨0, by simp [takeExponent, digitRun]⟩
  | cons b rest ih =>
    by_cases digit : isDigit b = true
    · by_cases fits : value * 10 + digitValue b ≤ maxExponent
      · obtain ⟨k, taken_eq, run, more⟩ := ih (value * 10 + digitValue b) (taken + 1)
        refine ⟨k + 1, ?_, ?_, ?_⟩
        · simp [takeExponent, digit, fits, taken_eq]
          omega
        · simp [digitRun, digit]
          omega
        · simpa [takeExponent, digit, fits] using more
      · refine ⟨1, ?_, ?_, ?_⟩
        · simp [takeExponent, digit, fits]
        · simp [digitRun, digit]
          omega
        · simp [takeExponent, digit, fits]
    · refine ⟨0, ?_, ?_, ?_⟩
      · simp [takeExponent, digit]
      · simp
      · simp [digit, digitRun]

@[simp] theorem readDigits_bind (value : Nat) (f : Nat × Nat × Bool → Reader α) :
    (readDigits value >>= f) c =
      f (takeDigits value 0 c.rest) (c.many (takeDigits value 0 c.rest).2.1) := by
  have run : readDigits value c =
      .ok (takeDigits value 0 c.rest) (c.many (takeDigits value 0 c.rest).2.1) :=
    skipMany_bind _ fun _ => pure (takeDigits value 0 c.rest)
  exact bind_of_ok run

/-- Behind the digits that are taken of a number, the others come next, if there are any. -/
theorem pastDigits_takeDigits (value : Nat) (c : Cursor) :
    (c.many (takeDigits value 0 c.rest).2.1).pastDigits = c.pastDigits := by
  obtain ⟨k, taken_eq, run, -⟩ := takeDigits_run value 0 c.rest
  rw [taken_eq, Nat.zero_add, Cursor.pastDigits_many run]

theorem many_takeDigits {value : Nat} (h : (takeDigits value 0 c.rest).2.2 = false) :
    c.many (takeDigits value 0 c.rest).2.1 = c.pastDigits := by
  obtain ⟨k, taken_eq, run, stops⟩ := takeDigits_run value 0 c.rest
  rw [← pastDigits_takeDigits value c, Cursor.pastDigits_of_none]
  rw [taken_eq, Nat.zero_add, Cursor.rest_many]
  exact stops.mp h

theorem takeDigits_of_none (value : Nat) (h : digitRun c.rest = 0) :
    (takeDigits value 0 c.rest).2.1 = 0 ∧ (takeDigits value 0 c.rest).2.2 = false := by
  obtain ⟨k, taken_eq, run, stops⟩ := takeDigits_run value 0 c.rest
  constructor
  · omega
  · exact stops.mpr (by omega)

theorem pastDigits_takeExponent (value : Nat) (c : Cursor) :
    (c.many (takeExponent value 0 c.rest).2.1).pastDigits = c.pastDigits := by
  obtain ⟨k, taken_eq, run, -⟩ := takeExponent_run value 0 c.rest
  rw [taken_eq, Nat.zero_add, Cursor.pastDigits_many run]

theorem many_takeExponent {value : Nat} (h : (takeExponent value 0 c.rest).2.2 = false) :
    c.many (takeExponent value 0 c.rest).2.1 = c.pastDigits := by
  obtain ⟨k, taken_eq, run, stops⟩ := takeExponent_run value 0 c.rest
  rw [← pastDigits_takeExponent value c, Cursor.pastDigits_of_none]
  rw [taken_eq, Nat.zero_add, Cursor.rest_many]
  exact stops h

/-! ### Numbers -/

theorem decimal_end (h : decimal negative significand exponent c = .ok d after) : c = after := by
  unfold decimal at h
  rcases found : Double.ofDecimal? negative significand exponent with _ | d
  · simp [found] at h
  · simp only [found, pure_ok] at h
    exact h.2

theorem exponentDigits_end {down : Bool}
    (h : (do
      match ← next with
      | none => failHere .endInValue
      | some b =>
        if !isDigit b then failHere .invalidNumber
        else
          let (value, taken, overflow) ←
            (fun c => .ok (takeExponent (digitValue b) 0 c.rest) c : Reader (Nat × Nat × Bool))
          skipMany taken
          if overflow then
            if significand ≠ 0 && !down then failHere .numberOutOfRange
            else
              let _ ← skipDigits
              decimal negative 0 0
          else decimal negative significand (if down then exponent - value else exponent + value) :
        Reader Double) c = .ok d after) :
    ∃ b, c.rest.head? = some b ∧ isDigit b ∧ c.advance.pastDigits = after := by
  simp only [next_bind] at h
  rcases first : c.rest.head? with _ | b
  · simp [first] at h
  · simp only [first] at h
    by_cases digit : isDigit b = true
    · simp only [digit, Bool.not_true, Bool.false_eq_true, if_false, look_bind, skipMany_bind] at h
      refine ⟨b, rfl, digit, ?_⟩
      split at h
      · split at h
        · simp at h
        · simp only [skipDigits_bind, pastDigits_takeExponent] at h
          exact decimal_end h
      · next inside =>
        rw [many_takeExponent (by simpa using inside)] at h
        exact decimal_end h
    · simp [digit] at h

theorem skipExponent_of_read
    (h : readExponent negative significand exponent c = .ok d after) :
    skipExponent c = .ok () after := by
  unfold readExponent at h
  unfold skipExponent
  simp only [skip_bind, peek_bind] at h ⊢
  generalize sign : c.advance.rest.head? = s at h ⊢
  split at h
  · simp only [skip_bind, pure_bind] at h ⊢
    obtain ⟨b, first, digit, rfl⟩ := exponentDigits_end h
    simp [first, digit, skipDigits_run]
  · simp only [skip_bind, pure_bind] at h ⊢
    obtain ⟨b, first, digit, rfl⟩ := exponentDigits_end h
    simp [first, digit, skipDigits_run]
  · next plus minus =>
    simp only [pure_bind] at h ⊢
    obtain ⟨b, first, digit, rfl⟩ := exponentDigits_end h
    simp [first, digit, skipDigits_run]

/-- The digits of a number are followed by an exponent or nothing. -/
theorem skipExponent_of_maybe
    (h : (do
      if isExponentLetter (← peek) then readExponent negative significand exponent
      else decimal negative significand exponent : Reader Double) c = .ok d after) :
    (if isExponentLetter c.rest.head? then skipExponent else pure () : Reader Unit) c =
      .ok () after := by
  rw [peek_bind] at h
  by_cases letter : isExponentLetter c.rest.head? = true
  · rw [if_pos letter] at h ⊢
    exact skipExponent_of_read h
  · rw [if_neg letter] at h ⊢
    exact pure_ok.mpr ⟨rfl, decimal_end h⟩

theorem skipFraction_of_read (h : readFraction negative significand exponent c = .ok d after) :
    skipFraction c = .ok () after := by
  unfold readFraction at h
  unfold skipFraction
  simp only [skip_bind, readDigits_bind, skipDigits_bind] at h ⊢
  split at h
  · rw [peek_bind] at h
    generalize Cursor.rest _ = rest at h
    rcases rest with _ | ⟨b, rest⟩ <;> simp at h
  · next some =>
    have digits : digitRun c.advance.rest ≠ 0 := by
      intro none
      obtain ⟨taken, more⟩ := takeDigits_of_none significand none
      simp [taken, more] at some
    rw [if_neg digits, peek_bind]
    by_cases more : (takeDigits significand 0 c.advance.rest).2.2 = true
    · rw [if_pos more, skipDigits_bind, pastDigits_takeDigits] at h
      exact skipExponent_of_maybe h
    · rw [if_neg more, many_takeDigits (by simpa using more)] at h
      exact skipExponent_of_maybe h

/-- The digits of an integer are followed by a fraction, an exponent or nothing, whatever is made
of them. -/
theorem skipRest_of_read {β : Type} {b : β} {fraction power whole : Reader β}
    (fractionEnd : fraction c = .ok b after → skipFraction c = .ok () after)
    (powerEnd : power c = .ok b after → skipExponent c = .ok () after)
    (wholeEnd : whole c = .ok b after → c = after)
    (h : (do
      match ← peek with
      | some 46 => fraction
      | b => if isExponentLetter b then power else whole : Reader β) c = .ok b after) :
    (do
      let b ← peek
      if b == some 46 then skipFraction
      else if isExponentLetter b then skipExponent : Reader Unit) c = .ok () after := by
  rw [peek_bind] at h ⊢
  generalize c.rest.head? = first at h ⊢
  split at h
  · exact fractionEnd h
  · next noPoint =>
    rw [if_neg (by simpa using noPoint)]
    by_cases letter : isExponentLetter first = true
    · rw [if_pos letter] at h ⊢
      exact powerEnd h
    · rw [if_neg letter] at h ⊢
      exact pure_ok.mpr ⟨rfl, wholeEnd h⟩

theorem wholeNumber_end {value : Nat} {n : Number}
    (h : wholeNumber negative value c = .ok n after) : c = after := by
  unfold wholeNumber at h
  split at h
  · exact (pure_ok.mp h).2
  · split at h
    · simp only [bind_ok, pure_ok] at h
      obtain ⟨d, _, h, rfl, rfl⟩ := h
      exact decimal_end h
    · exact (pure_ok.mp h).2

theorem skipRest_of_afterInteger {value : Nat} {n : Number}
    (h : afterInteger negative value c = .ok n after) :
    (do
      let b ← peek
      if b == some 46 then skipFraction
      else if isExponentLetter b then skipExponent : Reader Unit) c = .ok () after := by
  refine skipRest_of_read (fun fraction => ?_) (fun power => ?_) wholeNumber_end h
  · simp only [bind_ok, pure_ok] at fraction
    obtain ⟨d, _, fraction, -, rfl⟩ := fraction
    exact skipFraction_of_read fraction
  · simp only [bind_ok, pure_ok] at power
    obtain ⟨d, _, power, -, rfl⟩ := power
    exact skipExponent_of_read power

theorem wholeNumber_le {value : Nat} {n : Int}
    (h : wholeNumber negative value c = .ok (.int n) after) : n ≤ value := by
  unfold wholeNumber at h
  split at h
  · obtain ⟨same, -⟩ := pure_ok.mp h
    cases same
    exact Int.le_refl _
  · split at h
    · simp at h
    · obtain ⟨same, -⟩ := pure_ok.mp h
      cases same
      omega

theorem afterInteger_le {value : Nat} {n : Int}
    (h : afterInteger negative value c = .ok (.int n) after) : n ≤ value := by
  unfold afterInteger at h
  rw [peek_bind] at h
  generalize c.rest.head? = first at h
  split at h
  · simp at h
  · split at h
    · simp at h
    · exact wholeNumber_le h

/-- An integer that is read fits into 64 bits. -/
theorem readNumber_lt {n : Int} (h : readNumber negative c = .ok (.int n) after) : n < 2 ^ 64 := by
  unfold readNumber at h
  rw [next_bind] at h
  generalize c.rest.head? = first at h
  split at h
  · simp at h
  · have zero : n ≤ (0 : Nat) := by
      rw [peek_bind] at h
      generalize c.advance.rest.head? = second at h
      split at h
      · split at h
        · simp at h
        · exact afterInteger_le h
      · exact afterInteger_le h
    omega
  · next b _ =>
    split at h
    · simp only [readDigits_bind] at h
      split at h
      · simp at h
      · have read := afterInteger_le h
        have small : digitValue b < 2 ^ 64 :=
          Nat.lt_of_le_of_lt (Nat.sub_le _ _) (Nat.lt_trans b.toNat_lt (by decide))
        have taken := takeDigits_lt small 0 c.advance.rest
        omega
    · simp at h

/-- Reading a number and passing over it end behind the same byte. -/
theorem skipNumber_of_read {n : Number} (h : readNumber negative c = .ok n after) :
    skipNumber c = .ok () after := by
  unfold readNumber at h
  unfold skipNumber
  simp only [next_bind] at h ⊢
  generalize c.rest.head? = first at h ⊢
  split at h
  · simp at h
  · simp only [peek_bind] at h ⊢
    rcases second : c.advance.rest.head? with _ | b
    · simp only [second] at h ⊢
      exact skipRest_of_afterInteger h
    · simp only [second] at h ⊢
      by_cases digit : isDigit b = true
      · simp [digit] at h
      · simp only [digit] at h ⊢
        exact skipRest_of_afterInteger h
  · next b notZero =>
    by_cases digit : isDigit b = true
    · simp only [digit, if_true, readDigits_bind, skipDigits_bind] at h ⊢
      split at h
      · rw [bind_ok] at h
        obtain ⟨d, _, h, made⟩ := h
        obtain ⟨-, rfl⟩ := pure_ok.mp made
        unfold longInteger at h
        rw [skipDigits_bind, pastDigits_takeDigits] at h
        exact skipRest_of_read skipFraction_of_read skipExponent_of_read decimal_end h
      · next more =>
        rw [many_takeDigits (by simpa using more)] at h
        exact skipRest_of_afterInteger h
    · simp [digit] at h

/-- Passes over the digits of an exponent behind its sign. -/
def skipExponentDigits : Reader Unit := do
  match ← next with
  | some b =>
    if isDigit b then let _ ← skipDigits
    else failHere .invalidNumber
  | none => failHere .invalidNumber

theorem forward_skipExponentDigits : Forward skipExponentDigits := by
  refine Forward.next.bind fun b => ?_
  split
  · split
    · exact Forward.skipDigits.bind fun _ => Forward.pure ()
    · exact Forward.failHere _
  · exact Forward.failHere _

theorem forward_skipExponent : Forward skipExponent := by
  refine Forward.skip.bind fun _ => Forward.peek.bind fun sign => ?_
  split
  · exact Forward.skip.bind fun _ => forward_skipExponentDigits
  · exact Forward.skip.bind fun _ => forward_skipExponentDigits
  · exact forward_skipExponentDigits

theorem forward_skipFraction : Forward skipFraction := by
  refine Forward.skip.bind fun _ => Forward.skipDigits.bind fun n => ?_
  split
  · exact Forward.failAhead _
  · refine Forward.peek.bind fun b => ?_
    split
    · exact forward_skipExponent
    · exact Forward.pure ()

theorem forward_skipRest : Forward (do
    let b ← peek
    if b == some 46 then skipFraction
    else if isExponentLetter b then skipExponent : Reader Unit) := by
  refine Forward.peek.bind fun b => ?_
  split
  · exact forward_skipFraction
  · split
    · exact forward_skipExponent
    · exact Forward.pure ()

theorem forward_skipNumber : Forward skipNumber := by
  refine Forward.next.bind fun b => ?_
  split
  · refine Forward.peek.bind fun second => ?_
    split
    · split
      · exact (Forward.failAhead _).bind fun _ => forward_skipRest
      · exact forward_skipRest
    · exact forward_skipRest
  · split
    · exact Forward.skipDigits.bind fun _ => forward_skipRest
    · exact (Forward.failHere _).bind fun _ => forward_skipRest
  · exact (Forward.failHere _).bind fun _ => forward_skipRest

/-! ### Strings -/

theorem forward_readHexFour : Forward readHexFour := by
  refine (Forward.look _).bind fun rest => ?_
  split
  · refine (Forward.skipMany 4).bind fun _ => ?_
    split
    · exact Forward.pure _
    · exact Forward.failHere _
  · exact (Forward.skipMany _).bind fun _ => Forward.failHere _

theorem forward_skipEscape : Forward skipEscape := by
  refine Forward.next.bind fun b => ?_
  split
  · exact Forward.failHere _
  · exact forward_readHexFour.bind fun _ => Forward.pure ()
  · split
    · exact Forward.pure ()
    · exact Forward.failHere _

theorem forward_skipString (fuel : Nat) : Forward (skipString fuel) := by
  induction fuel with
  | zero => exact Forward.failHere _
  | succ fuel ih =>
    refine Forward.peek.bind fun b => ?_
    split
    · exact Forward.failHere _
    · exact Forward.skip
    · exact Forward.skip.bind fun _ => forward_skipEscape.bind fun _ => ih
    · split
      · exact Forward.failHere _
      · exact Forward.skip.bind fun _ => ih

theorem skipEscape_of_hexFour {n : Nat} (letter : c.rest.head? = some 117)
    (h : readHexFour c.advance = .ok n after) : skipEscape c = .ok () after := by
  unfold skipEscape
  rw [next_bind, letter]
  exact bind_ok.mpr ⟨n, after, h, rfl⟩

theorem skipEscape_of_short {b : UInt8} (first : c.rest.head? = some b) (notLong : b ≠ 117)
    (short : [34, 92, 47, 98, 102, 110, 114, 116].contains b) :
    skipEscape c = .ok () c.advance := by
  unfold skipEscape
  rw [next_bind, first]
  simp only [short, if_true, pure_ok, true_and]

/-- A low surrogate is an escape of its own. -/
theorem skipEscape_of_lowSurrogate {high : Nat} {bytes : List UInt8}
    (h : readLowSurrogate high c = .ok bytes after) :
    c.rest.head? = some 92 ∧ skipEscape c.advance = .ok () after := by
  unfold readLowSurrogate at h
  rw [peek_bind] at h
  rcases first : c.rest.head? with _ | b
  · simp [first] at h
  · simp only [first, skip_bind] at h
    split at h
    · simp at h
    · next backslash =>
      rw [peek_bind] at h
      rcases second : c.advance.rest.head? with _ | letter
      · simp [second] at h
      · simp only [second, skip_bind] at h
        split at h
        · simp at h
        · next unicode =>
          obtain ⟨low, mid, hex, h⟩ := bind_ok.mp h
          split at h
          · simp at h
          · obtain ⟨-, rfl⟩ := pure_ok.mp h
            refine ⟨congrArg some (Decidable.not_not.mp backslash), skipEscape_of_hexFour ?_ hex⟩
            rw [second, Decidable.not_not.mp unicode]

/-- An escape that is read can be passed over; where it is a pair of surrogates, these are two
escapes in turn. -/
theorem skipEscape_of_read {bytes : List UInt8} (h : readEscape c = .ok bytes after) :
    skipEscape c = .ok () after ∨
      ∃ mid, skipEscape c = .ok () mid ∧ mid.rest.head? = some 92 ∧
        skipEscape mid.advance = .ok () after := by
  unfold readEscape at h
  rw [next_bind] at h
  generalize first : c.rest.head? = b at h
  split at h
  case h_2 | h_3 | h_4 | h_5 | h_6 | h_7 | h_8 | h_9 =>
    obtain ⟨-, rfl⟩ := pure_ok.mp h
    exact .inl (skipEscape_of_short first (by decide) (by decide))
  case h_10 =>
    obtain ⟨n, mid, hex, h⟩ := bind_ok.mp h
    split at h
    · simp at h
    · split at h
      · exact .inr ⟨mid, skipEscape_of_hexFour first hex, skipEscape_of_lowSurrogate h⟩
      · obtain ⟨-, rfl⟩ := pure_ok.mp h
        exact .inl (skipEscape_of_hexFour first hex)
  case h_1 | h_11 => simp at h

theorem skipString_of_escape {mid : Cursor} (n : Nat) (first : c.rest.head? = some 92)
    (escape : skipEscape c.advance = .ok () mid) : skipString (n + 1) c = skipString n mid := by
  rw [skipString, peek_bind]
  simp only [first, skip_bind]
  exact bind_of_ok escape

/-- Reading the bytes of a string and passing over it end behind the same quote. -/
theorem skipString_of_stringBytes {taken bytes : List UInt8} {fuel n : Nat}
    (h : stringBytes taken fuel c = .ok bytes after) (enough : c.rest.length < n) :
    skipString n c = .ok () after := by
  induction fuel generalizing c taken n with
  | zero => simp [stringBytes] at h
  | succ fuel ih =>
    obtain ⟨n, rfl⟩ : ∃ m, n = m + 1 := ⟨n - 1, by omega⟩
    unfold stringBytes at h
    rw [peek_bind] at h
    rcases first : c.rest.head? with _ | b
    · simp [first] at h
    · have shorter := Cursor.length_advance_lt first
      simp only [first, skip_bind] at h
      split at h
      · next quote =>
        obtain ⟨-, rfl⟩ := pure_ok.mp h
        rw [skipString, peek_bind, first]
        simp only [quote, skip_ok]
      · split at h
        · next backslash =>
          obtain ⟨escaped, mid, escape, h⟩ := bind_ok.mp h
          subst backslash
          rcases skipEscape_of_read escape with passed | ⟨high, passed, again, low⟩
          · have forward := forward_skipEscape passed
            rw [skipString_of_escape n first passed]
            exact ih h (by omega)
          -- A pair of surrogates is one escape for the one reader and two for the other.
          · have forward := forward_skipEscape passed
            have forwardAgain := forward_skipEscape low
            have shorterAgain := Cursor.length_advance_lt again
            obtain ⟨m, rfl⟩ : ∃ m, n = m + 1 := ⟨n - 1, by omega⟩
            rw [skipString_of_escape (m + 1) first passed, skipString_of_escape m again low]
            exact ih h (by omega)
        · next notBackslash =>
          split at h
          · simp at h
          · next visible =>
            rw [skipString, peek_bind, first]
            simp only [visible, if_false, skip_bind]
            exact ih h (by omega)

theorem skipString_of_read {s : String} (h : readString c = .ok s after) :
    skipString (c.rest.length + 1) c = .ok () after := by
  unfold readString at h
  rw [left_bind] at h
  obtain ⟨bytes, mid, read, h⟩ := bind_ok.mp h
  have passed := skipString_of_stringBytes read (Nat.lt_succ_self _)
  rcases text : Text.ofUtf8? bytes with _ | s
  · simp [text] at h
  · simp only [text, pure_ok] at h
    rw [← h.2]
    exact passed

end Reader

end BearerLogin.Json
