import BearerLogin.Proofs.Text
import BearerLogin.Url.Percent

/-! Forms are read as they were written.  `readForm?` follows the usual rule for a form: pairs lie
between ampersands, a name ends at the first equals sign, a plus sign is a space, and what is
percent-encoded afterwards is UTF-8.  It gives back the names and values of a form:
`readForm?_form`. -/

namespace BearerLogin.Url.Percent

/-! ### Reading -/

/-- The text of a name or a value in a form. -/
def readPart? (chars : List Char) : Option String :=
  Text.ofUtf8? (decode ((Text.utf8 (String.ofList chars)).map fun b => if b = 43 then 32 else b))

/-- The name and the value in a pair of a form. -/
def readPair? (chars : List Char) : Option (String × String) := do
  let (name, value) := Text.cutAt '=' chars
  return (← readPart? name, ← readPart? value)

/-- The names and values in a form. -/
def readForm? (form : String) : Option (List (String × String)) :=
  ((form.toList.splitOn '&').filter fun pair => !pair.isEmpty).mapM readPair?

/-! ### Bytes -/

/-- The byte of a digit that is written. -/
def digitByte (n : Nat) : UInt8 := UInt8.ofNat (hexDigit n).toNat

theorem utf8_hexDigit : ∀ n < 16, String.utf8EncodeChar (hexDigit n) = [digitByte n] := by decide

theorem hexValue?_digitByte : ∀ n < 16, hexValue? (digitByte n) = some n := by decide

theorem digitByte_ne_plus : ∀ n < 16, digitByte n ≠ 43 := by decide

theorem hexDigit_ne_mark : ∀ n < 16, hexDigit n ≠ '&' ∧ hexDigit n ≠ '=' := by decide

theorem decode_cons {b : UInt8} (plain : b ≠ 37) (rest : List UInt8) :
    decode (b :: rest) = b :: decode rest := by
  rw [decode]
  intro a b' rest' same
  exact absurd same plain

theorem decode_escape (b : UInt8) (rest : List UInt8) :
    decode (37 :: digitByte (b.toNat / 16) :: digitByte (b.toNat % 16) :: rest) =
      b :: decode rest := by
  have size := b.toNat_lt
  rw [decode, hexValue?_digitByte _ (by omega), hexValue?_digitByte _ (by omega)]
  simp only [Nat.div_add_mod, UInt8.ofNat_toNat]

/-- A byte that stands for itself is in ASCII and has no other meaning in a form. -/
theorem bounds_of_isPlainInForm {b : UInt8} (plain : isPlainInForm b = true) :
    b < 128 ∧ b ≠ 37 ∧ b ≠ 38 ∧ b ≠ 43 ∧ b ≠ 61 := by
  refine ⟨UInt8.lt_iff_toNat_lt.mpr ?_, ?_, ?_, ?_, ?_⟩
  · simp only [isPlainInForm, Bool.or_eq_true, Bool.and_eq_true, decide_eq_true_eq,
      beq_iff_eq] at plain
    show b.toNat < 128
    omega
  all_goals
    rintro rfl
    exact absurd plain (by decide)

/-- The bytes that one byte is written with, plus signs read as spaces. -/
def formBytes (b : UInt8) : List UInt8 :=
  ((formByte b).flatMap String.utf8EncodeChar).map fun b => if b = 43 then 32 else b

/-- What one byte is written with stands for that byte. -/
theorem decode_formBytes (b : UInt8) (rest : List UInt8) :
    decode (formBytes b ++ rest) = b :: decode rest := by
  have size := b.toNat_lt
  unfold formBytes formByte
  split
  · next plain =>
    obtain ⟨small, noEscape, -, noPlus, -⟩ := bounds_of_isPlainInForm plain
    rw [List.flatMap_singleton, Text.utf8EncodeChar_of_ascii small, List.map_singleton,
      if_neg noPlus]
    exact decode_cons noEscape rest
  · split
    · next space =>
      subst space
      exact decode_cons (by decide) rest
    · have high := utf8_hexDigit (b.toNat / 16) (by omega)
      have low := utf8_hexDigit (b.toNat % 16) (by omega)
      have percent : String.utf8EncodeChar '%' = [37] := by decide
      have highPlain := digitByte_ne_plus (b.toNat / 16) (by omega)
      have lowPlain := digitByte_ne_plus (b.toNat % 16) (by omega)
      simp only [escape, List.flatMap_cons, List.flatMap_nil, high, low, percent,
        List.cons_append, List.nil_append, List.map_cons, List.map_nil, if_neg highPlain,
        if_neg lowPlain, if_neg (show ¬(37 : UInt8) = 43 by decide)]
      exact decode_escape b rest

theorem decode_flatMap_formBytes (bytes : List UInt8) :
    decode (bytes.flatMap formBytes) = bytes := by
  induction bytes with
  | nil => rfl
  | cons b rest ih => rw [List.flatMap_cons, decode_formBytes, ih]

/-- No character that one byte is written with is a mark of the form. -/
theorem formByte_plain (b : UInt8) : ∀ c ∈ formByte b, c ≠ '&' ∧ c ≠ '=' := by
  have size := b.toNat_lt
  unfold formByte
  split
  · next plain =>
    obtain ⟨small, -, noAnd, -, noEquals⟩ := bounds_of_isPlainInForm plain
    have differs {mark : UInt8} (other : b ≠ mark) (ascii : mark < 128) :
        Char.ofNat b.toNat ≠ Char.ofNat mark.toNat := by
      intro same
      have encoded := congrArg String.utf8EncodeChar same
      rw [Text.utf8EncodeChar_of_ascii small, Text.utf8EncodeChar_of_ascii ascii] at encoded
      exact other (List.singleton_inj.mp encoded)
    exact List.forall_mem_singleton.mpr ⟨differs noAnd (by decide), differs noEquals (by decide)⟩
  · split
    · exact List.forall_mem_singleton.mpr (by decide)
    · refine List.forall_mem_cons.mpr ⟨by decide, List.forall_mem_cons.mpr ⟨?_, ?_⟩⟩
      · exact hexDigit_ne_mark _ (by omega)
      · exact List.forall_mem_singleton.mpr (hexDigit_ne_mark _ (by omega))

/-! ### Texts, pairs and forms -/

theorem formText_plain (text : String) : ∀ c ∈ (formText text).toList, c ≠ '&' ∧ c ≠ '=' := by
  intro c member
  rw [formText, String.toList_ofList] at member
  obtain ⟨b, -, member⟩ := List.mem_flatMap.mp member
  exact formByte_plain b c member

theorem readPart?_formText (text : String) : readPart? (formText text).toList = some text := by
  have written : (Text.utf8 (formText text)).map (fun b => if b = 43 then 32 else b) =
      (Text.utf8 text).flatMap formBytes := by
    rw [formText, Text.utf8_ofList, List.flatMap_assoc, List.map_flatMap]
    rfl
  rw [readPart?, String.ofList_toList, written, decode_flatMap_formBytes, Text.ofUtf8?_utf8]

/-- The characters of a pair in a form. -/
def pairChars (pair : String × String) : List Char :=
  (formText pair.1).toList ++ '=' :: (formText pair.2).toList

theorem readPair?_pairChars (pair : String × String) : readPair? (pairChars pair) = some pair := by
  have plain : '=' ∉ (formText pair.1).toList := fun member => (formText_plain _ _ member).2 rfl
  simp only [readPair?, pairChars, Text.cutAt_append plain, readPart?_formText]
  rfl

theorem pairChars_plain (pair : String × String) : '&' ∉ pairChars pair := by
  intro member
  rcases List.mem_append.mp member with name | value
  · exact (formText_plain _ _ name).1 rfl
  · rcases List.mem_cons.mp value with mark | value
    · exact absurd mark (by decide)
    · exact (formText_plain _ _ value).1 rfl

theorem mapM_readPair? (pairs : List (String × String)) :
    (pairs.map pairChars).mapM readPair? = some pairs := by
  induction pairs with
  | nil => rfl
  | cons pair rest ih => simp [List.mapM_cons, readPair?_pairChars, ih]

/-- The names and values that a form is read as are the ones that it was written from. -/
theorem readForm?_form (pairs : List (String × String)) : readForm? (form pairs) = some pairs := by
  have chars : (form pairs).toList = ['&'].intercalate (pairs.map pairChars) := by
    rw [form, String.toList_intercalate, List.map_map]
    congr 1
    refine List.map_congr_left fun pair _ => ?_
    simp [pairChars]
  rcases pairs with _ | ⟨first, rest⟩
  · rfl
  · have plain : ∀ part ∈ (first :: rest).map pairChars, '&' ∉ part := by
      intro part member
      obtain ⟨pair, -, rfl⟩ := List.mem_map.mp member
      exact pairChars_plain pair
    have given : ∀ part ∈ (first :: rest).map pairChars, (!part.isEmpty) = true := by
      intro part member
      obtain ⟨pair, -, rfl⟩ := List.mem_map.mp member
      simp [pairChars]
    rw [readForm?, chars, List.splitOn_intercalate '&' plain (List.cons_ne_nil _ _),
      List.filter_eq_self.mpr given, mapM_readPair?]

end BearerLogin.Url.Percent
