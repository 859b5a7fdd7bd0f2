import BearerLogin.Proofs.Validator.Acceptance
import BearerLogin.Proofs.Validator.Claims

/-! The issuer and the audience of an accepted token.  They are the wanted ones exactly where the
token gives them as a text or a list of texts; a token that gives them in another way, or not at
all, is accepted whatever is wanted. -/

namespace BearerLogin

open Jwt

namespace Jwt

/-- The payload that a token carries. -/
def payloadOf? (token : String) : Option Json := do
  let parts ← Parts.ofText? token
  let bytes ← (decodePart parts.payload).toOption
  (valueOf bytes).toOption

variable {payload : Json} {claim name : String}

/-- A payload names someone in a claim, alone or among others. -/
def Names (payload : Json) (claim name : String) : Prop :=
  payload.get? claim = some (.str name) ∨
    ∃ names : List String, payload.get? claim = some (.arr (names.map .str)) ∧ name ∈ names

/-- A payload has names in a claim: a text or a list of texts. -/
def HasNames (payload : Json) (claim : String) : Prop :=
  (∃ name, payload.get? claim = some (.str name)) ∨
    ∃ names : List String, payload.get? claim = some (.arr (names.map .str))

theorem Names.hasNames (h : Names payload claim name) : HasNames payload claim := by
  rcases h with alone | ⟨names, among, -⟩
  · exact .inl ⟨name, alone⟩
  · exact .inr ⟨names, among⟩

theorem mapM_str?_eq_some {items : List Json} {names : List String} :
    items.mapM Json.str? = some names ↔ items = names.map .str := by
  induction items generalizing names with
  | nil => cases names <;> simp
  | cons item rest ih =>
    simp only [List.mapM_cons, Option.bind_eq_bind, Option.bind_eq_some_iff, Option.pure_def,
      Option.some.injEq]
    constructor
    · rintro ⟨name, item_eq, others, rest_eq, rfl⟩
      rw [ih.mp rest_eq]
      cases item with
      | str text =>
        cases item_eq
        rfl
      | _ => cases item_eq
    · intro h
      cases names with
      | nil => cases h
      | cons name others =>
        cases h
        exact ⟨name, rfl, others, ih.mpr rfl, rfl⟩

theorem ofNames_list (names : List String) :
    Claim.ofNames (.arr (names.map .str)) = .given names := by
  show Claim.ofOption ((names.map Json.str).mapM Json.str?) = _
  rw [mapM_str?_eq_some.mpr rfl]
  rfl

/-- A name that is admitted is given wherever names are given. -/
theorem names_iff_hasNames
    (admitted : Claims.admits (((payload.get? claim).map Claim.ofNames).getD .absent) name = true) :
    Names payload claim name ↔ HasNames payload claim := by
  constructor
  · exact Names.hasNames
  · rintro (⟨other, alone⟩ | ⟨names, among⟩)
    · have same : other = name := by
        simpa [alone, Claim.ofNames, Claim.ofOption, Claim.namesIn?, Claims.admits, eq_comm] using
          admitted
      exact .inl (same ▸ alone)
    · have member : name ∈ names := by
        simpa [among, ofNames_list, Claims.admits] using admitted
      exact .inr ⟨names, among, member⟩

/-- Where a payload has no names in a claim, every name is admitted. -/
theorem admits_of_not_hasNames (unnamed : ¬HasNames payload claim) (name : String) :
    Claims.admits (((payload.get? claim).map Claim.ofNames).getD .absent) name = true := by
  rcases found : payload.get? claim with _ | value
  · rfl
  · cases value with
    | str text => exact absurd (.inl ⟨text, found⟩) unnamed
    | arr items =>
      rcases read : items.mapM Json.str? with _ | names
      · simp [Claim.ofNames, Claim.namesIn?, read, Claim.ofOption, Claims.admits]
      · rw [mapM_str?_eq_some.mp read] at found
        exact absurd (.inr ⟨names, found⟩) unnamed
    | _ => rfl

/-- Claims are in order if the expiry is given and not over, and the issuer and, where one is
wanted, the audience are admitted. -/
theorem check_eq_ok {claims : Claims} {now : Int} {issuer : String} {audience : Option String} :
    claims.check now issuer audience = .ok () ↔
      (∃ seconds : Nat, claims.expiry = .given seconds ∧ now - Claims.leeway ≤ seconds) ∧
        Claims.admits claims.issuers issuer = true ∧
        ∀ wanted, audience = some wanted → Claims.admits claims.audiences wanted = true := by
  unfold Claims.check
  constructor
  · intro h
    rcases expiry : claims.expiry with _ | _ | seconds
    · simp only [expiry] at h
      cases h
    · simp only [expiry] at h
      cases h
    · simp only [expiry] at h
      split at h
      · cases h
      · next current =>
        by_cases issued : Claims.admits claims.issuers issuer = true
        · simp only [issued, Bool.not_true, Bool.false_eq_true, if_false] at h
          refine ⟨⟨seconds, rfl, Int.not_lt.mp current⟩, issued, ?_⟩
          rintro wanted rfl
          by_cases meant : Claims.admits claims.audiences wanted = true
          · exact meant
          · simp only [meant] at h
            cases h
        · simp only [issued] at h
          cases h
  · rintro ⟨⟨seconds, expiry, current⟩, issued, meant⟩
    simp only [expiry, Int.not_lt.mpr current, if_false, issued, Bool.not_true, Bool.false_eq_true]
    cases audience with
    | none => rfl
    | some wanted =>
      simp only [meant wanted rfl, Bool.not_true, Bool.false_eq_true, if_false]
      rfl

theorem object_of_tokenOf {settings : JwtSettings} {accepted : Token}
    (h : tokenOf settings payload = .ok accepted) : ∃ pairs, payload = .obj pairs := by
  cases payload with
  | obj pairs => exact ⟨pairs, rfl⟩
  | _ => cases h

/-- The claims of a payload are in order for a validator that wants an issuer and, possibly, an
audience. -/
def InOrder (payload : Json) (now : Instant) (issuer : String) (audience : Option String) : Prop :=
  (Claims.ofPayload payload).check now.seconds issuer audience = .ok ()

/-- An accepted token has a payload whose claims are in order, and it is also accepted by a
validator that wants another issuer or audience for which they are in order. -/
theorem payload_of_answer {settings : JwtSettings} {now : Instant} {header : Header}
    {token : String} {published : PublishedKey} {accepted : Token}
    (h : answer settings now header token published = .ok accepted) :
    ∃ payload, payloadOf? token = some payload ∧
      InOrder payload now settings.issuer settings.audience ∧
      ∀ issuer audience, InOrder payload now issuer audience →
        answer { settings with issuer, audience } now header token published = .ok accepted := by
  obtain ⟨key, payload, claims, toKey, verified, named⟩ := answer_eq_ok.mp h
  obtain ⟨parts, bytes, cut, -, decoded, value, read⟩ := verified.signed
  obtain ⟨pairs, rfl⟩ := object_of_tokenOf named
  have claims_eq := Claims.ofBytes_eq value read
  refine ⟨.obj pairs, ?_, ?_, ?_⟩
  · simp [payloadOf?, cut, decoded, value, Except.toOption]
  · rw [InOrder, ← claims_eq]
    exact verified.inOrder
  · intro issuer audience inOrder
    rw [InOrder, ← claims_eq] at inOrder
    exact answer_eq_ok.mpr ⟨key, .obj pairs, claims, toKey,
      ⟨verified.family, verified.signed, inOrder⟩, named⟩

theorem hasNames_of_str {token claim name : String}
    (h : ((payloadOf? token).bind (Json.get? claim)).bind Json.str? = some name) {payload : Json}
    (carried : payloadOf? token = some payload) : HasNames payload claim := by
  simp only [carried, Option.bind_some, Option.bind_eq_some_iff] at h
  obtain ⟨value, found, text⟩ := h
  cases value with
  | str name => exact .inl ⟨name, found⟩
  | _ => cases text

theorem not_hasNames_of_none {token claim : String}
    (h : ((payloadOf? token).bind (Json.get? claim)).isNone = true) {payload : Json}
    (carried : payloadOf? token = some payload) : ¬HasNames payload claim := by
  simp only [carried, Option.bind_some, Option.isNone_iff_eq_none] at h
  rintro (⟨name, alone⟩ | ⟨names, among⟩)
  · cases h.symm.trans alone
  · cases h.symm.trans among

end Jwt

namespace Backend

variable (network : Network ν) (settings : JwtSettings)

theorem payload_of_accepted {presented : Presented} {backend : Backend ν} {accepted : Token}
    (h : (backend.present network settings presented).result = .ok accepted) :
    ∃ payload, payloadOf? presented.token = some payload ∧
      InOrder payload presented.now settings.issuer settings.audience ∧
      ∀ issuer audience, InOrder payload presented.now issuer audience →
        (backend.present network { settings with issuer, audience } presented).result =
          .ok accepted := by
  rw [(present_eq network settings presented backend).1, mapError_eq_ok] at h
  unfold validated at h
  rcases header_eq : Header.ofToken presented.token with fault | header
  · simp [header_eq] at h
  · simp only [header_eq] at h
    by_cases admitted : admits settings header.algorithm = true
    · rw [if_pos admitted] at h
      obtain ⟨published, found, answered⟩ := bind_eq_ok.mp h
      obtain ⟨payload, carried, inOrder, others⟩ := payload_of_answer answered
      refine ⟨payload, carried, inOrder, fun issuer audience inOrder => ?_⟩
      rw [(present_eq network _ presented backend).1, mapError_eq_ok]
      unfold validated
      simp only [header_eq]
      -- Neither the admitted algorithms nor the keys depend on the issuer and the audience.
      rw [if_pos (show admits { settings with issuer, audience } header.algorithm = true from
        admitted)]
      exact bind_eq_ok.mpr ⟨published, found, others issuer audience inOrder⟩
    · simp [admitted] at h

/-- An accepted token is of the wanted issuer exactly if it gives its issuers as a text or a list of
texts; otherwise it is accepted whichever issuer is wanted. -/
theorem issuer_of_accepted (backend : Backend ν) (presented : Presented) (accepted : Token)
    (h : (backend.present network settings presented).result = .ok accepted) :
    ∃ payload, payloadOf? presented.token = some payload ∧
      (Names payload "iss" settings.issuer ↔ HasNames payload "iss") ∧
      (¬HasNames payload "iss" → ∀ issuer,
        (backend.present network { settings with issuer } presented).result = .ok accepted) := by
  obtain ⟨payload, carried, inOrder, others⟩ := payload_of_accepted network settings h
  obtain ⟨current, issued, meant⟩ := check_eq_ok.mp inOrder
  refine ⟨payload, carried, names_iff_hasNames issued, fun unnamed issuer => ?_⟩
  exact others issuer settings.audience
    (check_eq_ok.mpr ⟨current, admits_of_not_hasNames unnamed issuer, meant⟩)

end Backend

namespace Shared

open Backend

theorem issued_of_issuer : ∃ payload, payloadOf? issued.token = some payload ∧
    Names payload "iss" (settings none).issuer := by
  obtain ⟨accepted, h⟩ := accepted_of_fits fits_issued
  obtain ⟨payload, carried, named, -⟩ :=
    issuer_of_accepted (Network.constant reply) (settings none) (fresh ()) issued accepted h
  have given : ((payloadOf? issued.token).bind (Json.get? "iss")).bind Json.str? = some "i" := by
    cbv
  exact ⟨payload, carried, named.mpr (hasNames_of_str given carried)⟩

/-- A token of no issuer. -/
def unissued : Presented where
  token := "eyJhbGciOiJIUzI1NiJ9.eyJleHAiOjk5OTk5OTk5OTksInN1YiI6ImEifQ." ++
    "vZYG37kmCINGhSnLqZjMfvw5J231br1-IUIO2RWGILk"
  now := ⟨1785000000, 0⟩

theorem unissued_accepted : ∃ accepted payload,
    ((fresh ()).present (Network.constant reply) (settings none) unissued).result = .ok accepted ∧
      payloadOf? unissued.token = some payload ∧
      ¬Names payload "iss" (settings none).issuer := by
  have fits : Fits none unissued := by decide +kernel
  have absent : ((payloadOf? unissued.token).bind (Json.get? "iss")).isNone = true := by
    cbv
  obtain ⟨accepted, h⟩ := accepted_of_fits fits
  obtain ⟨payload, carried, -⟩ := payload_of_accepted (Network.constant reply) (settings none) h
  exact ⟨accepted, payload, h, carried, fun named =>
    not_hasNames_of_none absent carried named.hasNames⟩

end Shared

namespace Backend

variable (network : Network ν) (settings : JwtSettings)

/-- Where an audience is wanted, an accepted token is for it exactly if it gives its audiences as a
text or a list of texts; otherwise it is accepted whichever audience is wanted. -/
theorem audience_of_accepted (backend : Backend ν) (presented : Presented) (accepted : Token)
    (audience : String) (wanted : settings.audience = some audience)
    (h : (backend.present network settings presented).result = .ok accepted) :
    ∃ payload, payloadOf? presented.token = some payload ∧
      (Names payload "aud" audience ↔ HasNames payload "aud") ∧
      (¬HasNames payload "aud" → ∀ audience,
        (backend.present network { settings with audience } presented).result = .ok accepted) := by
  obtain ⟨payload, carried, inOrder, others⟩ := payload_of_accepted network settings h
  obtain ⟨current, issued, meant⟩ := check_eq_ok.mp inOrder
  refine ⟨payload, carried, names_iff_hasNames (meant audience wanted), fun unnamed audience => ?_⟩
  exact others settings.issuer audience
    (check_eq_ok.mpr ⟨current, issued, fun name _ => admits_of_not_hasNames unnamed name⟩)

end Backend

namespace Shared

open Backend

/-- A token of the issuer `i` for the audience `b`. -/
def addressed : Presented where
  token :=
    "eyJhbGciOiJIUzI1NiJ9.eyJleHAiOjk5OTk5OTk5OTksInN1YiI6ImEiLCJpc3MiOiJpIiwiYXVkIjoiYiJ9." ++
      "fInWt4TBrFXEb5LXfFlSd5SMryO1yHCJnHDFTISU9yA"
  now := ⟨1785000000, 0⟩

theorem addressed_to_audience : ∃ payload, payloadOf? addressed.token = some payload ∧
    Names payload "aud" "b" := by
  have fits : Fits (some "b") addressed := by decide +kernel
  have given : ((payloadOf? addressed.token).bind (Json.get? "aud")).bind Json.str? = some "b" := by
    cbv
  obtain ⟨accepted, h⟩ := accepted_of_fits fits
  obtain ⟨payload, carried, named, -⟩ := audience_of_accepted (Network.constant reply)
    (settings (some "b")) (fresh ()) addressed accepted "b" rfl h
  exact ⟨payload, carried, named.mpr (hasNames_of_str given carried)⟩

/-- A token for no audience is accepted where one is wanted. -/
theorem unaddressed_accepted : ∃ accepted payload,
    ((fresh ()).present (Network.constant reply) (settings (some "b")) issued).result =
        .ok accepted ∧
      payloadOf? issued.token = some payload ∧ ¬Names payload "aud" "b" := by
  obtain ⟨accepted, h⟩ := accepted_of_fits fits_issued
  obtain ⟨payload, carried, inOrder, others⟩ :=
    payload_of_accepted (Network.constant reply) (settings none) h
  have absent : ((payloadOf? issued.token).bind (Json.get? "aud")).isNone = true := by
    cbv
  have unnamed : ¬HasNames payload "aud" := not_hasNames_of_none absent carried
  obtain ⟨current, given, -⟩ := check_eq_ok.mp inOrder
  -- What is accepted where no audience is wanted, is accepted where one is wanted as well.
  have h' := others "i" (some "b")
    (check_eq_ok.mpr ⟨current, given, fun name _ => admits_of_not_hasNames unnamed name⟩)
  exact ⟨accepted, payload, h', carried, fun named => unnamed named.hasNames⟩

end Shared

end BearerLogin
