import BearerLogin.Proofs.Validator.Names

/-! The judgement on a token whose key is known.  It depends on the token, the key, the settings and
the time alone, whatever the validator held and however the key was come by. -/

namespace BearerLogin

open Jwt Steps

namespace Jwt

/-- What is made of a token whose key is known. -/
def judged (settings : JwtSettings) (now : Instant) (algorithm : Algorithm) (key : Key)
    (token : String) : Except TokenError Token :=
  ((verifiedPayload settings now algorithm key token).mapError Fault.toTokenError).bind
    (tokenOf settings)

/-- The payload of a token, read as a value and for the claims that are checked. -/
def Reads (token : String) (payload : Json) (claims : Claims) : Prop :=
  ∃ parts bytes, Parts.ofText? token = some parts ∧ decodePart parts.payload = .ok bytes ∧
    valueOf bytes = .ok payload ∧ Claims.ofBytes bytes = .ok claims

variable {settings : JwtSettings} {now : Instant} {algorithm : Algorithm} {key : Key}
  {token : String} {payload : Json} {claims : Claims}

theorem Verified.reads (verified : Verified settings now token algorithm key payload claims) :
    Reads token payload claims := by
  obtain ⟨parts, bytes, cut, -, decoded, value, read⟩ := verified.signed
  exact ⟨parts, bytes, cut, decoded, value, read⟩

/-- The claims that are read are the ones in the value. -/
theorem Reads.claims_eq (reads : Reads token payload claims)
    (object : ∃ members, payload = .obj members) : claims = Claims.ofPayload payload := by
  obtain ⟨parts, bytes, -, -, value, read⟩ := reads
  obtain ⟨members, rfl⟩ := object
  exact Claims.ofBytes_eq value read

theorem Reads.payloadOf?_eq (reads : Reads token payload claims) :
    payloadOf? token = some payload := by
  obtain ⟨parts, bytes, cut, decoded, value, -⟩ := reads
  simp [payloadOf?, cut, decoded, value, Except.toOption]

theorem judged_eq_ok {accepted : Token} :
    judged settings now algorithm key token = .ok accepted ↔
      ∃ payload claims, Verified settings now token algorithm key payload claims ∧
        tokenOf settings payload = .ok accepted := by
  unfold judged
  constructor
  · intro h
    obtain ⟨payload, verified, named⟩ := bind_eq_ok.mp h
    obtain ⟨claims, verified⟩ := verifiedPayload_eq_ok.mp (mapError_eq_ok.mp verified)
    exact ⟨payload, claims, verified, named⟩
  · rintro ⟨payload, claims, verified, named⟩
    have given := verifiedPayload_eq_ok.mpr ⟨claims, verified⟩
    exact bind_eq_ok.mpr ⟨payload, mapError_eq_ok.mpr given, named⟩

theorem judged_of_verified (verified : verifiedPayload settings now algorithm key token = .ok payload) :
    judged settings now algorithm key token = tokenOf settings payload := by
  unfold judged
  rw [verified]
  rfl

end Jwt

namespace Backend

/-- A validator has a key for a token: the header of the token is in order, its algorithm is
admitted, and the key that it asks for is found. -/
structure HasKey (network : Network ν) (settings : JwtSettings) (backend : Backend ν)
    (presented : Presented) (header : Header) (key : Key) : Prop where
  header_eq : Header.ofToken presented.token = .ok header
  admitted : admits settings header.algorithm = true
  found : ((keyFor network settings presented.now header.keyId).run
    { cache := backend.keys, network := backend.network }).1 = .ok key

variable {network : Network ν} {settings : JwtSettings} {backend : Backend ν}
  {presented : Presented} {header : Header} {key : Key}

theorem hasKey_iff :
    HasKey network settings backend presented header key ↔
      Header.ofToken presented.token = .ok header ∧ admits settings header.algorithm = true ∧
        ∃ published, (located network settings presented.now header.keyId backend.network
          backend.keys).result = .ok published ∧ published.toKey = .ok key := by
  obtain ⟨events, run⟩ := keyFor_run network settings presented.now
    { cache := backend.keys, network := backend.network } header.keyId
  constructor
  · rintro ⟨header_eq, admitted, found⟩
    rw [run] at found
    exact ⟨header_eq, admitted, bind_eq_ok.mp found⟩
  · rintro ⟨header_eq, admitted, located⟩
    refine ⟨header_eq, admitted, ?_⟩
    rw [run]
    exact bind_eq_ok.mpr located

/-- A token whose key is known is judged. -/
theorem HasKey.result (has : HasKey network settings backend presented header key) :
    (backend.present network settings presented).result =
      (judged settings presented.now header.algorithm key presented.token).mapError
        TokenError.toAuthError := by
  obtain ⟨header_eq, admitted, published, found, toKey⟩ := hasKey_iff.mp has
  rw [(present_eq network settings presented backend).1]
  unfold validated
  simp only [header_eq, admitted, if_true, found]
  show Except.mapError _ (answer settings presented.now header presented.token published) = _
  unfold answer
  rw [toKey]
  rfl

/-- The key of an accepted token is known. -/
theorem exists_hasKey {accepted : Token}
    (h : (backend.present network settings presented).result = .ok accepted) :
    ∃ header key, HasKey network settings backend presented header key ∧
      judged settings presented.now header.algorithm key presented.token = .ok accepted := by
  rw [(present_eq network settings presented backend).1, mapError_eq_ok] at h
  unfold validated at h
  rcases header_eq : Header.ofToken presented.token with fault | header
  · simp [header_eq] at h
  · simp only [header_eq] at h
    by_cases admitted : admits settings header.algorithm = true
    · rw [if_pos admitted] at h
      obtain ⟨published, found, answered⟩ := bind_eq_ok.mp h
      obtain ⟨key, toKey, judged⟩ := bind_eq_ok.mp answered
      exact ⟨header, key, hasKey_iff.mpr ⟨header_eq, admitted, published, found, toKey⟩, judged⟩
    · simp [admitted] at h

end Backend

namespace Shared

open Backend

/-- The key with the secret. -/
def key : Key := .secret [107]

/-- A fresh validator to which the published key is always sent has it for a token that asks for no
other. -/
theorem hasKey (audience : Option String) {presented : Presented}
    (header_eq : Header.ofToken presented.token = .ok ⟨.hs256, none⟩) :
    HasKey (Network.constant reply) (settings audience) (fresh ()) presented ⟨.hs256, none⟩ key := by
  refine hasKey_iff.mpr ⟨header_eq, by simp [admits, settings]; decide, published, ?_, rfl⟩
  rw [show (fresh () : Backend Unit).keys = {} from rfl]
  rw [located_constant (settings audience) presented.now none keys?_reply]
  unfold received
  rw [if_pos (show Request.canRequest (Request.reported (settings audience).keysUrl) = true from
    buildable)]
  rfl

end Shared

end BearerLogin
