import BearerLogin.Credentials
import BearerLogin.Text.Blank
import BearerLogin.Text.Utf8
import Mathlib

/-! Facts about texts: what lies around a trimmed text is blank, and trimming it again changes
nothing; texts have different bytes, and the bytes of a character in ASCII are the character itself,
those of any other are outside ASCII; a text is cut where a mark first stands; and the words of a
text are its maximal runs of characters that are not blank. -/

namespace BearerLogin

theorem dropFront?_eq_some [DecidableEq α] {front list rest : List α} :
    dropFront? front list = some rest ↔ list = front ++ rest := by
  induction front generalizing list with
  | nil => simp [dropFront?, eq_comm]
  | cons a front ih =>
    rcases list with _ | ⟨b, list⟩
    · simp [dropFront?]
    · by_cases same : a = b
      · simp [dropFront?, same, ih]
      · simp [dropFront?, same, Ne.symm same]

namespace Text

/-- A list of characters is blank. -/
def Blank (chars : List Char) : Prop :=
  ∀ c ∈ chars, isBlank c = true

theorem dropWhile_solid {chars : List Char} (solid : ∀ c ∈ chars, isBlank c = false) :
    chars.dropWhile isBlank = chars := by
  rcases chars with _ | ⟨c, rest⟩
  · rfl
  · exact List.dropWhile_cons_of_neg (by simp [solid c])

/-- Trimming takes away exactly the blanks around a text without blanks. -/
theorem trimChars_around {before inner after : List Char} (blankBefore : Blank before)
    (blankAfter : Blank after) (solid : ∀ c ∈ inner, isBlank c = false) :
    trimChars (before ++ inner ++ after) = inner := by
  have front : (before ++ inner ++ after).dropWhile isBlank =
      (inner ++ after).dropWhile isBlank := by
    rw [List.append_assoc, List.dropWhile_append_of_pos blankBefore]
  have blankBehind : ∀ c ∈ after.reverse, isBlank c = true :=
    fun c member => blankAfter c (List.mem_reverse.mp member)
  -- Without an inner text, the blanks on both sides are one and go from the front.
  rcases inner with _ | ⟨c, inner⟩
  · have nothing : after.dropWhile isBlank = [] := List.dropWhile_eq_nil_iff.mpr blankAfter
    rw [trimChars, front, List.nil_append, nothing]
    rfl
  · have kept : (c :: inner ++ after).dropWhile isBlank = c :: inner ++ after :=
      List.dropWhile_cons_of_neg (by simp [solid c])
    rw [trimChars, front, kept, List.reverse_append, List.dropWhile_append_of_pos blankBehind]
    have last : (c :: inner).reverse.dropWhile isBlank = (c :: inner).reverse :=
      dropWhile_solid fun c member => solid c (List.mem_reverse.mp member)
    rw [last, List.reverse_reverse]

/-- What trimming takes away is blank. -/
theorem trimChars_decomposes (chars : List Char) :
    ∃ before after, chars = before ++ trimChars chars ++ after ∧ Blank before ∧ Blank after := by
  refine ⟨chars.takeWhile isBlank, ((chars.dropWhile isBlank).reverse.takeWhile isBlank).reverse,
    ?_, ?_, ?_⟩
  · have behind := congrArg List.reverse
      (List.takeWhile_append_dropWhile (p := isBlank) (l := (chars.dropWhile isBlank).reverse))
    rw [List.reverse_append, List.reverse_reverse] at behind
    rw [trimChars, List.append_assoc, behind, List.takeWhile_append_dropWhile]
  · intro c member
    exact List.mem_takeWhile_imp member
  · intro c member
    exact List.mem_takeWhile_imp (List.mem_reverse.mp member)

theorem dropWhile_isBlank_eq_self {chars : List Char} :
    chars.dropWhile isBlank = chars ↔ ∀ c ∈ chars.head?, isBlank c = false := by
  rcases chars with _ | ⟨c, rest⟩
  · simp
  · rw [List.dropWhile_eq_self_iff]
    simp

/-- Trimming keeps a text as it is exactly if there is no blank at its ends. -/
theorem trimChars_eq_self {chars : List Char} :
    trimChars chars = chars ↔
      (∀ c ∈ chars.head?, isBlank c = false) ∧ ∀ c ∈ chars.getLast?, isBlank c = false := by
  have behind : chars.reverse.dropWhile isBlank = chars.reverse ↔
      ∀ c ∈ chars.getLast?, isBlank c = false := by
    rw [dropWhile_isBlank_eq_self, List.head?_reverse]
  rw [← behind, ← dropWhile_isBlank_eq_self, trimChars]
  constructor
  · intro same
    have shorter := List.length_dropWhile_le isBlank chars
    have shorterBehind := List.length_dropWhile_le isBlank (chars.dropWhile isBlank).reverse
    have length := congrArg List.length same
    rw [List.length_reverse] at length shorterBehind
    have front : chars.dropWhile isBlank = chars :=
      (List.dropWhile_suffix isBlank).eq_of_length (by omega)
    rw [front] at same
    exact ⟨front, List.reverse_eq_iff.mp same⟩
  · rintro ⟨front, back⟩
    rw [front, back, List.reverse_reverse]

theorem trimChars_trimChars (chars : List Char) :
    trimChars (trimChars chars) = trimChars chars := by
  rw [trimChars_eq_self]
  constructor
  · intro c first
    have front : trimChars chars <+: chars.dropWhile isBlank := by
      rw [trimChars, ← List.reverse_suffix, List.reverse_reverse]
      exact List.dropWhile_suffix isBlank
    have head : (chars.dropWhile isBlank).head? = some c := by
      obtain ⟨rest, whole⟩ := front
      rw [← whole, List.head?_append, first]
      rfl
    have solid := List.head?_dropWhile_not isBlank chars
    rw [head] at solid
    exact solid
  · intro c last
    have solid := List.head?_dropWhile_not isBlank (chars.dropWhile isBlank).reverse
    rw [trimChars, List.getLast?_reverse] at last
    rw [last] at solid
    exact solid

theorem utf8_injective {first second : String} (same : utf8 first = utf8 second) :
    first = second := by
  have read := ofUtf8?_utf8 first
  rw [same, ofUtf8?_utf8] at read
  exact (Option.some.inj read).symm

theorem utf8_append (first second : String) : utf8 (first ++ second) = utf8 first ++ utf8 second := by
  simp [utf8]

theorem utf8_ofList (chars : List Char) :
    utf8 (String.ofList chars) = chars.flatMap String.utf8EncodeChar := by
  simp [utf8, List.utf8Encode]

/-- The text whose characters are bytes in ASCII. -/
def ofAscii (bytes : List UInt8) : String :=
  String.ofList (bytes.map fun b => Char.ofNat b.toNat)

theorem utf8EncodeChar_of_ascii {b : UInt8} (ascii : b < 128) :
    String.utf8EncodeChar (Char.ofNat b.toNat) = [b] := by
  have small : b.toNat < 128 := UInt8.lt_iff_toNat_lt.mp ascii
  have valid : b.toNat.isValidChar := .inl (by omega)
  have value : (Char.ofNat b.toNat).val.toNat = b.toNat := by
    rw [Char.ofNat, dif_pos valid]
    rfl
  simp [String.utf8EncodeChar, value, show b.toNat ≤ 127 by omega]

theorem utf8_ofAscii {bytes : List UInt8} (ascii : ∀ b ∈ bytes, b < 128) :
    utf8 (ofAscii bytes) = bytes := by
  rw [ofAscii, utf8_ofList, List.flatMap_map]
  induction bytes with
  | nil => rfl
  | cons b rest ih =>
    obtain ⟨small, others⟩ := List.forall_mem_cons.mp ascii
    rw [List.flatMap_cons, utf8EncodeChar_of_ascii small, ih others]
    rfl

theorem utf8EncodeChar_of_lt {c : Char} (ascii : c.toNat < 128) :
    String.utf8EncodeChar c = [UInt8.ofNat c.toNat] := by
  simp [String.utf8EncodeChar, show c.toNat ≤ 127 by omega]

/-- The bytes of a character outside ASCII are outside ASCII. -/
theorem le_of_mem_utf8EncodeChar {c : Char} (wide : 128 ≤ c.toNat) :
    ∀ b ∈ String.utf8EncodeChar c, 128 ≤ b := by
  have large : ¬c.val.toNat ≤ 127 := Nat.not_le.mpr wide
  have bound : c.val.toNat < 0x110000 := by
    rcases c.valid with low | ⟨-, high⟩
    · exact Nat.lt_trans low (by decide)
    · exact high
  intro b member
  rw [String.utf8EncodeChar] at member
  simp only [large, if_false] at member
  rw [UInt8.le_iff_toNat_le]
  split at member
  · simp only [List.mem_cons, List.not_mem_nil, or_false] at member
    rcases member with rfl | rfl
    all_goals
      simp
      omega
  · split at member
    · simp only [List.mem_cons, List.not_mem_nil, or_false] at member
      rcases member with rfl | rfl | rfl
      all_goals
        simp
        omega
    · simp only [List.mem_cons, List.not_mem_nil, or_false] at member
      rcases member with rfl | rfl | rfl | rfl
      all_goals
        simp
        omega

/-- A byte of a character in ASCII is the character itself. -/
theorem mem_utf8EncodeChar {c : Char} {b : UInt8} (member : b ∈ String.utf8EncodeChar c) :
    b.toNat = c.toNat ∨ 128 ≤ b.toNat ∧ 128 ≤ c.toNat := by
  by_cases ascii : c.toNat < 128
  · rw [utf8EncodeChar_of_lt ascii, List.mem_singleton] at member
    rw [member, UInt8.toNat_ofNat', Nat.mod_eq_of_lt (by omega)]
    exact .inl rfl
  · have wide := le_of_mem_utf8EncodeChar (Nat.not_lt.mp ascii) b member
    exact .inr ⟨UInt8.le_iff_toNat_le.mp wide, Nat.not_lt.mp ascii⟩

/-- What stands before a mark and what stands behind it, where it first occurs. -/
def cutAt (mark : Char) (chars : List Char) : List Char × List Char :=
  (chars.takeWhile (· ≠ mark), (chars.dropWhile (· ≠ mark)).tail)

theorem cutAt_append {mark : Char} {front : List Char} (plain : mark ∉ front) (rest : List Char) :
    cutAt mark (front ++ mark :: rest) = (front, rest) := by
  have others : ∀ c ∈ front, decide (c ≠ mark) = true := by
    intro c member
    exact decide_eq_true fun same => plain (same ▸ member)
  rw [cutAt, List.takeWhile_append_of_pos others, List.dropWhile_append_of_pos others]
  simp

/-! ### Words -/

/-- A run of characters without a blank among them. -/
def Solid (chars : List Char) : Prop :=
  ∀ c ∈ chars, isBlank c = false

/-- The maximal solid runs of a text, in order: what lies around them is blank, and each goes on to
a blank or to the end of the text. -/
inductive HasWords : List Char → List (List Char) → Prop
  | none {gap : List Char} (blank : Blank gap) : HasWords gap []
  | word {gap word rest : List Char} {words : List (List Char)} (blank : Blank gap)
    (nonempty : word ≠ []) (solid : Solid word) (ends : ∀ c ∈ rest.head?, isBlank c = true)
    (more : HasWords rest words) : HasWords (gap ++ word ++ rest) (word :: words)

variable {c : Char} {chars gap word rest : List Char} {words : List (List Char)}

theorem wordChars_blank (blank : Blank gap) (rest : List Char) :
    wordChars (gap ++ rest) = wordChars rest := by
  induction gap with
  | nil => rfl
  | cons c gap ih =>
    obtain ⟨first, others⟩ := List.forall_mem_cons.mp blank
    rw [List.cons_append, wordChars, if_pos first, ih others]

theorem wordChars_word (nonempty : word ≠ []) (solid : Solid word)
    (ends : ∀ c ∈ rest.head?, isBlank c = true) :
    wordChars (word ++ rest) = word :: wordChars rest := by
  induction word with
  | nil => exact absurd rfl nonempty
  | cons c word ih =>
    obtain ⟨first, others⟩ := List.forall_mem_cons.mp solid
    rw [List.cons_append, wordChars, if_neg (by simp [first])]
    rcases word with _ | ⟨d, word⟩
    · have last : (rest.head?.map isBlank).getD true = true := by
        rcases next : rest.head? with _ | d
        · rfl
        · exact ends d next
      rw [List.nil_append, if_pos last]
    · have inner : ¬(((d :: word ++ rest).head?.map isBlank).getD true = true) := by
        simp [others d List.mem_cons_self]
      rw [if_neg inner, ih (List.cons_ne_nil d word) others]
      rfl

namespace HasWords

theorem wordChars_eq (has : HasWords chars words) : wordChars chars = words := by
  induction has with
  | none blank =>
    have nothing := wordChars_blank blank []
    rwa [List.append_nil] at nothing
  | word blank nonempty solid ends more ih =>
    rw [List.append_assoc, wordChars_blank blank, wordChars_word nonempty solid ends, ih]

/-- A blank in front belongs to no word. -/
theorem cons_blank (blank : isBlank c = true) (has : HasWords rest words) :
    HasWords (c :: rest) words := by
  cases has with
  | none others => exact .none (List.forall_mem_cons.mpr ⟨blank, others⟩)
  | word others nonempty solid ends more =>
    exact .word (List.forall_mem_cons.mpr ⟨blank, others⟩) nonempty solid ends more

/-- A character in front of a word belongs to it. -/
theorem cons_solid {d : Char} (first : isBlank c = false) (second : isBlank d = false)
    (has : HasWords (d :: rest) words) : HasWords (c :: d :: rest) (extendWord c words) := by
  generalize text : d :: rest = chars at has
  cases has with
  | none blank =>
    have blank := blank d (text ▸ List.mem_cons_self)
    rw [second] at blank
    cases blank
  | @word gap word after words blank nonempty solid ends more =>
    rcases gap with _ | ⟨b, gap⟩
    · have longer : HasWords ([] ++ (c :: word) ++ after) ((c :: word) :: words) :=
        .word blank (List.cons_ne_nil c word) (List.forall_mem_cons.mpr ⟨first, solid⟩) ends more
      exact longer
    · cases text
      rw [blank d List.mem_cons_self] at second
      cases second

end HasWords

theorem hasWords_wordChars (chars : List Char) : HasWords chars (wordChars chars) := by
  induction chars with
  | nil => exact .none (List.forall_mem_nil _)
  | cons c rest ih =>
    rw [wordChars]
    by_cases blank : isBlank c = true
    · rw [if_pos blank]
      exact ih.cons_blank blank
    · rw [if_neg blank]
      rw [Bool.not_eq_true] at blank
      split
      · next last =>
        have ends : ∀ d ∈ rest.head?, isBlank d = true := by
          intro d next
          rw [next] at last
          exact last
        have alone : HasWords ([] ++ [c] ++ rest) ([c] :: wordChars rest) :=
          .word (List.forall_mem_nil _) (List.cons_ne_nil c []) (List.forall_mem_singleton.mpr blank)
            ends ih
        exact alone
      · next inner =>
        rcases rest with _ | ⟨d, rest⟩
        · exact absurd rfl inner
        · exact ih.cons_solid blank (by simpa using inner)

/-- The words of a text are its maximal runs of characters that are not blank. -/
theorem wordChars_eq_iff : wordChars chars = words ↔ HasWords chars words :=
  ⟨fun same => same ▸ hasWords_wordChars chars, HasWords.wordChars_eq⟩

theorem HasWords.each (has : HasWords chars words) : ∀ word ∈ words, word ≠ [] ∧ Solid word := by
  induction has with
  | none => exact List.forall_mem_nil _
  | word _ nonempty solid _ _ ih => exact List.forall_mem_cons.mpr ⟨⟨nonempty, solid⟩, ih⟩

end Text

end BearerLogin
