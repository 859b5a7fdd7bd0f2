import BearerLogin.Proofs.Http.Lookup

/-! Whom the token of the administrator admits.  The token is kept as it was set, but what a request
presents is read as printable text and trimmed first.  So a token that has a blank at its ends or a
character outside printable ASCII is set and admits nobody, and every other token admits whoever
presents it (`operator_admitted_iff`). -/

namespace BearerLogin.Http

/-- Bytes of which the value of a header may consist: all but control characters, and the tab. -/
def Incoming.Legal (value : List UInt8) : Prop :=
  ∀ b ∈ value, b = 9 ∨ 32 ≤ b ∧ b ≠ 127

/-- A token that is read from a header as it is: it consists of printable ASCII characters and has
no blanks at its ends. -/
structure Presentable (token : String) : Prop where
  printable : ∀ c ∈ token.toList, c = '\t' ∨ 32 ≤ c.toNat ∧ c.toNat < 127
  first : ∀ c ∈ token.toList.head?, Text.isBlank c = false
  last : ∀ c ∈ token.toList.getLast?, Text.isBlank c = false

/-- A request presents a token to the letter: its first authorization header is the name of the
scheme, a blank and the token. -/
def Incoming.Presents (request : Incoming) (token : String) : Prop :=
  request.First "authorization" (Text.utf8 ("Bearer " ++ token))

theorem Presentable.trim_eq {token : String} (presentable : Presentable token) :
    Text.trim token = token := by
  rw [Text.trim, Text.trimChars_eq_self.mpr ⟨presentable.first, presentable.last⟩,
    String.ofList_toList]

namespace Incoming

variable {request : Incoming} {token text : String}

theorem printable_utf8 : Printable (Text.utf8 text) ↔
    ∀ c ∈ text.toList, c = '\t' ∨ 32 ≤ c.toNat ∧ c.toNat < 127 := by
  have bytes : Text.utf8 text = text.toList.flatMap String.utf8EncodeChar := by
    rw [← Text.utf8_ofList, String.ofList_toList]
  unfold Printable
  simp only [bytes, List.mem_flatMap, forall_exists_index, and_imp]
  constructor
  · intro printable c member
    obtain ⟨b, byte⟩ := List.exists_mem_of_ne_nil _ (String.utf8EncodeChar_ne_nil (c := c))
    rcases Text.mem_utf8EncodeChar byte with value | ⟨wide, -⟩
    · rcases printable b c member byte with rfl | ⟨low, high⟩
      · exact .inl (Char.toNat_inj.mp value.symm)
      · rw [UInt8.le_iff_toNat_le, value] at low
        rw [UInt8.lt_iff_toNat_lt, value] at high
        exact .inr ⟨low, high⟩
    · rcases printable b c member byte with rfl | ⟨-, high⟩
      · exact absurd wide (by decide)
      · have narrow := Nat.lt_trans (UInt8.lt_iff_toNat_lt.mp high) (by decide : 127 < 128)
        exact absurd wide (Nat.not_le.mpr narrow)
  · intro printable b c member byte
    rcases Text.mem_utf8EncodeChar byte with value | ⟨-, wide⟩
    · rcases printable c member with rfl | ⟨low, high⟩
      · exact .inl (UInt8.toNat_inj.mp value)
      · rw [UInt8.le_iff_toNat_le, UInt8.lt_iff_toNat_lt, value]
        exact .inr ⟨low, high⟩
    · rcases printable c member with rfl | ⟨-, high⟩
      · exact absurd wide (by decide)
      · omega

/-- Whatever token a request bears can be presented. -/
theorem Bears.presentable (bears : request.Bears token) : Presentable token := by
  obtain ⟨value, rest, -, printable, rfl, rfl⟩ := bears
  rw [printable_utf8, String.toList_append] at printable
  obtain ⟨before, after, split, -, -⟩ := Text.trimChars_decomposes rest.toList
  have inside : ∀ c ∈ Text.trimChars rest.toList, c ∈ rest.toList := by
    intro c member
    rw [split]
    exact List.mem_append_left _ (List.mem_append_right _ member)
  obtain ⟨first, last⟩ := Text.trimChars_eq_self.mp (Text.trimChars_trimChars rest.toList)
  rw [← String.toList_ofList (l := Text.trimChars rest.toList)] at first last
  refine ⟨fun c member => ?_, first, last⟩
  rw [Text.trim, String.toList_ofList] at member
  exact printable c (List.mem_append_right _ (inside c member))

/-- A request that presents a token bears it, if it can be presented. -/
theorem bears_of_presents (presents : request.Presents token) (presentable : Presentable token) :
    request.Bears token := by
  refine ⟨_, token, presents, ?_, rfl, presentable.trim_eq⟩
  have scheme : ∀ c ∈ "Bearer ".toList, c = '\t' ∨ 32 ≤ c.toNat ∧ c.toNat < 127 := by
    simp
  rw [printable_utf8, String.toList_append]
  exact List.forall_mem_append.mpr ⟨scheme, presentable.printable⟩

end Incoming

namespace App

variable {app : App σ} {token : String} {request : Incoming}

theorem adminToken_withAdminToken (nonempty : token ≠ "") :
    (app.withAdminToken token).adminToken = some token := by
  have filled : token.isEmpty = false := by simpa using nonempty
  rw [withAdminToken, filled]
  rfl

theorem admits_withAdminToken (nonempty : token ≠ "") :
    (app.withAdminToken token).Admits request ↔ request.Bears token := by
  unfold Admits
  rw [adminToken_withAdminToken nonempty]
  simp

/-- A request that presents the token of the administrator to the letter reaches the principals
exactly if the token can be presented.  With any other token, all requests are turned away. -/
theorem operator_admitted_iff (app : App σ) {token : String} (nonempty : token ≠ "") (now : Instant)
    (username : String) (world : World σ) :
    (∀ request : Incoming, request.Presents token →
      ((((app.withAdminToken token).lookUp now username request).run world).1.status = 200 ∨
          (((app.withAdminToken token).lookUp now username request).run world).1.status = 404 ↔
        Presentable token)) ∧
      (¬Presentable token → ∀ request : Incoming,
        (((app.withAdminToken token).lookUp now username request).run world).1.status = 401) := by
  have refused (request : Incoming) (other : ¬Presentable token) :
      (((app.withAdminToken token).lookUp now username request).run world).1.status = 401 := by
    have turned : ¬(app.withAdminToken token).Admits request := fun admitted =>
      other ((admits_withAdminToken nonempty).mp admitted).presentable
    rw [lookUp_of_not_admits _ _ _ _ _ turned, status_refusal, adminToken_withAdminToken nonempty]
    rfl
  refine ⟨fun request presents => ⟨fun reached => ?_, fun presentable => ?_⟩,
    fun other request => refused request other⟩
  · by_contra other
    rw [refused request other] at reached
    simp at reached
  · have admitted : (app.withAdminToken token).Admits request :=
      (admits_withAdminToken nonempty).mpr (Incoming.bears_of_presents presents presentable)
    rw [lookUp_of_admits _ _ _ _ _ admitted]
    exact status_entryOf now username _

/-- A request for the principal of `a` that presents a token. -/
def presenting (token : String) : Incoming where
  method := "GET"
  target := "/v1/principals/a"
  headers := [("Authorization", Text.utf8 ("Bearer " ++ token))]

theorem presents_presenting (token : String) : (presenting token).Presents token :=
  ⟨[], "Authorization", [], rfl, rfl, List.forall_mem_nil _⟩

/-- A blank inside a token does no harm. -/
theorem operator_admitted_with_blank :
    "k e" ≠ "" ∧ (presenting "k e").Presents "k e" ∧
      ((((trusting.withAdminToken "k e").lookUp ⟨0, 0⟩ "a" (presenting "k e")).run
          { peers := () }).1.status = 200 ∨
        (((trusting.withAdminToken "k e").lookUp ⟨0, 0⟩ "a" (presenting "k e")).run
          { peers := () }).1.status = 404) := by
  have nonempty : "k e" ≠ "" := by decide
  have presentable : Presentable "k e" :=
    ⟨by simp, by simp [Text.isBlank], by simp [Text.isBlank]⟩
  have presents := presents_presenting "k e"
  exact ⟨nonempty, presents, ((trusting.operator_admitted_iff nonempty ⟨0, 0⟩ "a"
    { peers := () }).1 (presenting "k e") presents).mpr presentable⟩

/-- A token with a blank at its end is the value of a header and is set, but who presents it is
turned away; so is who presents a token with a letter outside ASCII. -/
theorem operator_locked_out :
    (Incoming.Legal (Text.utf8 "key ") ∧ (presenting "key ").Presents "key " ∧
        (((trusting.withAdminToken "key ").lookUp ⟨0, 0⟩ "a" (presenting "key ")).run
          { peers := () }).1.status = 401) ∧
      Incoming.Legal (Text.utf8 "clé") ∧ (presenting "clé").Presents "clé" ∧
        (((trusting.withAdminToken "clé").lookUp ⟨0, 0⟩ "a" (presenting "clé")).run
          { peers := () }).1.status = 401 := by
  refine ⟨⟨?_, presents_presenting _, by decide +kernel⟩, ?_, presents_presenting _,
    by decide +kernel⟩
  · unfold Incoming.Legal
    decide +kernel
  · unfold Incoming.Legal
    decide +kernel

end App

end BearerLogin.Http
