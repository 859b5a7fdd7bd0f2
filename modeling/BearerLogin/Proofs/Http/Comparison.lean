import BearerLogin.Http.Router
import BearerLogin.Proofs.Text

/-! The comparison of a presented token with the token that is set.  It never stops early: at each
place that both have it adds the bits in which their bytes differ, and no later place clears a bit
(`testBit_accumulated`).  So nothing is left exactly if the bytes are the same at all those places.
That alone would admit whoever presents only the beginning of the token, or the token with more
behind it; the lengths rule this out (`tokensMatch_iff_eq`). -/

namespace BearerLogin.Http.App

/-- Two lists of bytes are the same at every place that both have. -/
def Coincide (first second : List UInt8) : Prop :=
  ∀ (place : Nat) (a b : UInt8), first[place]? = some a → second[place]? = some b → a = b

section Coincide

variable {first second : List UInt8}

theorem Coincide.refl (bytes : List UInt8) : Coincide bytes bytes :=
  fun _ _ _ once again => Option.some.inj (once.symm.trans again)

theorem Coincide.symm (same : Coincide first second) : Coincide second first :=
  fun place a b inSecond inFirst => (same place b a inFirst inSecond).symm

theorem coincide_append (first rest : List UInt8) : Coincide first (first ++ rest) := by
  intro place a b inFirst inBoth
  obtain ⟨bound, -⟩ := List.getElem?_eq_some_iff.mp inFirst
  rw [List.getElem?_append_left bound, inFirst] at inBoth
  exact Option.some.inj inBoth

theorem Coincide.eq_of_length (same : Coincide first second)
    (length : first.length = second.length) : first = second := by
  refine List.ext_getElem length fun place inFirst inSecond => ?_
  exact same place _ _ (List.getElem?_eq_getElem inFirst) (List.getElem?_eq_getElem inSecond)

theorem coincide_iff_zip :
    Coincide first second ↔ ∀ pair ∈ first.zip second, pair.1 = pair.2 := by
  constructor
  · intro same pair member
    obtain ⟨place, paired⟩ := List.mem_iff_getElem?.mp member
    obtain ⟨inFirst, inSecond⟩ := List.getElem?_zip_eq_some.mp paired
    exact same place pair.1 pair.2 inFirst inSecond
  · intro same place a b inFirst inSecond
    have paired : (first.zip second)[place]? = some (a, b) :=
      List.getElem?_zip_eq_some.mpr ⟨inFirst, inSecond⟩
    exact same (a, b) (List.mem_of_getElem? paired)

end Coincide

/-! ### The difference of bytes -/

/-- A place adds exactly the bits in which its bytes differ, and clears none. -/
theorem testBit_step (bits a b : UInt8) (k : Nat) :
    (bits ||| (a ^^^ b)).toNat.testBit k = true ↔
      bits.toNat.testBit k = true ∨ a.toNat.testBit k ≠ b.toNat.testBit k := by
  rw [UInt8.toNat_or, UInt8.toNat_xor, Nat.testBit_or, Nat.testBit_xor, Bool.or_eq_true, bne_iff_ne]

/-- The bits over all places are those at the start and those in which the bytes of some place
differ. -/
theorem testBit_accumulated (pairs : List (UInt8 × UInt8)) (bits : UInt8) (k : Nat) :
    (pairs.foldl (fun bits pair => bits ||| (pair.1 ^^^ pair.2)) bits).toNat.testBit k = true ↔
      bits.toNat.testBit k = true ∨
        ∃ pair ∈ pairs, pair.1.toNat.testBit k ≠ pair.2.toNat.testBit k := by
  induction pairs generalizing bits with
  | nil => simp
  | cons pair rest ih => rw [List.foldl_cons, ih, testBit_step, List.exists_mem_cons_iff, or_assoc]

theorem testBit_difference (first second : List UInt8) (k : Nat) :
    (difference first second).toNat.testBit k = true ↔
      ∃ pair ∈ first.zip second, pair.1.toNat.testBit k ≠ pair.2.toNat.testBit k := by
  rw [difference, testBit_accumulated]
  simp

theorem eq_zero_iff_testBit (bits : UInt8) :
    bits = 0 ↔ ∀ k, ¬bits.toNat.testBit k = true := by
  rw [← UInt8.toNat_inj, UInt8.toNat_zero]
  constructor
  · intro zero k
    simp [zero]
  · intro clear
    exact Nat.zero_of_testBit_eq_false fun k => Bool.eq_false_of_not_eq_true (clear k)

/-- There is no difference exactly if the bytes are the same at every place that both have. -/
theorem difference_eq_zero_iff {first second : List UInt8} :
    difference first second = 0 ↔ Coincide first second := by
  simp only [eq_zero_iff_testBit, testBit_difference, coincide_iff_zip]
  constructor
  · intro clear pair member
    refine UInt8.toNat_inj.mp (Nat.eq_of_testBit_eq fun k => ?_)
    by_contra differ
    exact clear k ⟨pair, member, differ⟩
  · rintro same k ⟨pair, member, differ⟩
    exact differ (by rw [same pair member])

/-! ### The comparison of texts -/

theorem tokensMatch_eq_true {presented expected : String} :
    tokensMatch presented expected = true ↔ presented = expected := by
  unfold tokensMatch
  rw [Bool.and_eq_true, beq_iff_eq, beq_iff_eq, difference_eq_zero_iff]
  constructor
  · rintro ⟨length, same⟩
    exact Text.utf8_injective (same.eq_of_length length)
  · rintro rfl
    exact ⟨rfl, Coincide.refl _⟩

/-- A text and the same text with more behind it leave no difference, whichever is presented. -/
theorem difference_append (text rest : String) :
    difference (Text.utf8 text) (Text.utf8 (text ++ rest)) = 0 ∧
      difference (Text.utf8 (text ++ rest)) (Text.utf8 text) = 0 := by
  have same : Coincide (Text.utf8 text) (Text.utf8 (text ++ rest)) := by
    rw [Text.utf8_append]
    exact coincide_append _ _
  exact ⟨difference_eq_zero_iff.mpr same, difference_eq_zero_iff.mpr same.symm⟩

/-- Two tokens match exactly if they are the same text.  Their bytes leave no difference exactly if
they are the same at every place that both have.  So the beginning of a token leaves none, and
neither does the token with more behind it, but neither of them matches. -/
theorem tokensMatch_iff_eq (presented expected : String) :
    (tokensMatch presented expected = true ↔ presented = expected) ∧
      (difference (Text.utf8 presented) (Text.utf8 expected) = 0 ↔
        Coincide (Text.utf8 presented) (Text.utf8 expected)) ∧
      ∀ rest : String,
        (difference (Text.utf8 presented) (Text.utf8 (presented ++ rest)) = 0 ∧
            (tokensMatch presented (presented ++ rest) = true ↔ rest = "")) ∧
          difference (Text.utf8 (expected ++ rest)) (Text.utf8 expected) = 0 ∧
            (tokensMatch (expected ++ rest) expected = true ↔ rest = "") := by
  refine ⟨tokensMatch_eq_true, difference_eq_zero_iff, fun rest => ⟨⟨?_, ?_⟩, ?_, ?_⟩⟩
  · exact (difference_append presented rest).1
  · rw [tokensMatch_eq_true, eq_comm, String.append_eq_left_iff]
  · exact (difference_append expected rest).2
  · rw [tokensMatch_eq_true, String.append_eq_left_iff]

end BearerLogin.Http.App
