import BearerLogin.Proofs.Validator.Refresh

/-! Where the errors of a validation come from.  An error is about the token and its key, about the
published keys, or about the token endpoint; a validator has none of the last sort, so that a login
takes all of its errors for a rejected token. -/

namespace BearerLogin

open Jwt

namespace TokenError

/-- What an error is about. -/
inductive Origin where
  | token
  | keys
  | endpoint
  deriving DecidableEq, Repr

/-- What an error is about. -/
def origin : TokenError → Origin
  | keysUnavailable _ | keyNotFound _ => .keys
  | endpointStatus _ | http _ => .endpoint
  | _ => .token

theorem kind_toAuthError (error : TokenError) :
    error.toAuthError.kind = if error.origin = .endpoint then .transport else .validation := by
  cases error <;> rfl

/-- All errors that a result can be are about one thing. -/
def Only (origin : Origin) (result : Except TokenError α) : Prop :=
  ∀ error, result = .error error → error.origin = origin

namespace Only

variable {about : Origin}

theorem ok (a : α) : Only about (.ok a) :=
  Fails.ok a

theorem error {error : TokenError} (same : error.origin = about) :
    Only about (.error error : Except TokenError α) :=
  Fails.error same

theorem bind {result : Except TokenError α} {f : α → Except TokenError β}
    (first : Only about result) (rest : ∀ a, Only about (f a)) : Only about (result >>= f) :=
  Fails.bind first rest

theorem mapError {result : Except ε α} {f : ε → TokenError}
    (same : ∀ inner, (f inner).origin = about) : Only about (result.mapError f) :=
  Fails.of_mapError same

end Only

end TokenError

namespace Jwt

open TokenError

/-- A published key is no key because a member is missing or malformed, or because of its type. -/
def IsKeyFault (error : TokenError) : Prop :=
  ∃ detail, error = .invalidFormat detail ∨ error = .unsupportedAlgorithm detail

theorem need_fails (member : Option String) (description : String) :
    Fails IsKeyFault (PublishedKey.need member description) := by
  rcases member with _ | text
  · exact .error ⟨_, .inl rfl⟩
  · exact .ok text

theorem bytesOf_fails (member : String) : Fails IsKeyFault (PublishedKey.bytesOf member) :=
  .of_mapError fun _ => ⟨_, .inl rfl⟩

theorem toKey_fails (published : PublishedKey) : Fails IsKeyFault published.toKey := by
  unfold PublishedKey.toKey
  split
  · refine .bind (need_fails _ _) fun modulus => .bind (need_fails _ _) fun exponent => ?_
    exact .bind (bytesOf_fails modulus) fun _ => .bind (bytesOf_fails exponent) fun _ => .ok _
  · split
    · refine .bind (need_fails _ _) fun x => .bind (need_fails _ _) fun y => ?_
      exact .bind (bytesOf_fails x) fun _ => .bind (bytesOf_fails y) fun _ => .ok _
    · split
      · refine .bind (need_fails _ _) fun secret => ?_
        split
        · exact .ok _
        · exact .error ⟨_, .inl rfl⟩
      · exact .error ⟨_, .inr rfl⟩

theorem toKey_only (published : PublishedKey) : Only .token published.toKey := by
  intro error failed
  obtain ⟨detail, rfl | rfl⟩ := toKey_fails published error failed <;> rfl

theorem origin_toTokenError (fault : Fault) : fault.toTokenError.origin = .token := by
  cases fault <;> rfl

theorem tokenOf_only (settings : JwtSettings) (payload : Json) :
    Only .token (tokenOf settings payload) := by
  unfold tokenOf
  split
  · split
    · exact .ok _
    · exact .error rfl
  · exact .error rfl

theorem answer_only (settings : JwtSettings) (now : Instant) (header : Header) (token : String)
    (published : PublishedKey) : Only .token (answer settings now header token published) :=
  .bind (toKey_only published) fun _ =>
    .bind (.mapError origin_toTokenError) fun payload => tokenOf_only settings payload

section

variable (network : Network ν) (settings : JwtSettings) (now : Instant) (state : ν)
  (cache : KeyCache)

theorem requested_only : Only .keys (requested network settings now state cache).result := by
  intro error failed
  obtain ⟨detail, rfl⟩ := requested_error network settings now state cache failed
  rfl

theorem fetched_only : Only .keys (fetched network settings now state cache).result := by
  obtain ⟨keys, -, held⟩ | ⟨-, requested⟩ := fetched_cases network settings now state cache
  · rw [held]
    exact .ok keys
  · rw [requested]
    exact requested_only network settings now state cache

theorem pick_only (keyId : Option String) (keys : KeySet) : Only .keys (pick keyId keys) := by
  unfold pick
  split
  · exact .ok _
  · exact .error rfl

theorem located_only (keyId : Option String) :
    Only .keys (located network settings now keyId state cache).result := by
  obtain ⟨course, -⟩ | ⟨keys, -, -, -, course⟩ :=
    located_cases network settings now state cache keyId
  · rw [course]
    exact .bind (fetched_only network settings now state cache) (pick_only keyId)
  · rw [course, refreshed_eq]
    exact .bind (requested_only network settings now _ _) (pick_only keyId)

theorem validated_origin {token : String} {error : TokenError}
    (failed : (validated network settings now token state cache).result = .error error) :
    error.origin ≠ .endpoint := by
  unfold validated at failed
  split at failed
  · cases failed
    simp [origin]
  · next header _ =>
    split at failed
    · obtain missing | ⟨published, -, refused⟩ := bind_eq_error.mp failed
      · rw [located_only network settings now state cache header.keyId error missing]
        simp
      · rw [answer_only settings now header token published error refused]
        simp
    · cases failed
      simp [origin]

end

end Jwt

/-- Whatever makes a validator reject a token, also that no keys can be had, the login takes it for
a rejected token. -/
theorem Backend.kind_validateSigned {network : Network ν} {settings : JwtSettings} {token : String}
    {backend : Backend ν} {cause : AuthError}
    (rejected : (backend.validateSigned network settings token).result = .error cause) :
    cause.kind = .validation := by
  rw [(backend.validateSigned_eq network settings token).1] at rejected
  obtain ⟨error, failed, rfl⟩ := mapError_eq_error.mp rejected
  rw [error.kind_toAuthError, if_neg (validated_origin network settings _ _ _ failed)]

end BearerLogin
