import BearerLogin.Proofs.Validator.Projection
import BearerLogin.Proofs.Validator.Origin

/-! When a token begins to hold.  The claim `nbf` is read and not looked at: a token that is accepted
at one instant is accepted at every earlier one, however long before the instant from which it says
that it holds, and no token is refused because it does not hold yet. -/

namespace BearerLogin

open Jwt

namespace TokenError

/-- Only a token that does not hold yet has the wording of one. -/
theorem eq_notYetValid {error : TokenError}
    (h : error.toAuthError = .validation "Token not yet valid") : error = notYetValid := by
  cases error with
  | notYetValid => rfl
  | endpointStatus status => cases h
  | http text => cases h
  | _ =>
    have wording := AuthError.validation.inj h
    unfold message at wording
    have texts := congrArg String.toList wording
    simp at texts

end TokenError

namespace Jwt

variable {settings : JwtSettings} {now : Instant} {algorithm : Algorithm} {key : Key}
  {token : String}

/-- An error is another one than that a token does not hold yet. -/
def Timely (error : TokenError) : Prop :=
  error ≠ .notYetValid

instance : DecidablePred Timely := fun error =>
  inferInstanceAs (Decidable (error ≠ .notYetValid))

theorem decodePart_timely (part : List Char) : Fails (Timely ·.toTokenError) (decodePart part) :=
  .of_mapError fun _ same => by cases same

theorem verifies_timely (message : List UInt8) (signature : List Char) :
    Fails (Timely ·.toTokenError) (key.verifies algorithm message signature) := by
  unfold Key.verifies
  split
  case h_1 | h_2 | h_3 => exact .ok _
  case h_12 => exact .error (by decide)
  all_goals exact (decodePart_timely signature).map

theorem check_timely (claims : Claims) (issuer : String) (audience : Option String) :
    Fails (Timely ·.toTokenError) (claims.check now.seconds issuer audience) := by
  unfold Claims.check
  rcases claims.expiry with _ | _ | seconds
  · exact .error (by decide)
  · exact .error (by decide)
  · dsimp only
    split
    · exact .error (by decide)
    · split
      · exact .error (by decide)
      · cases audience with
        | none => exact .ok _
        | some wanted =>
          dsimp only
          split
          · exact .error (by decide)
          · exact .ok _

theorem verifiedPayload_timely :
    Fails (Timely ·.toTokenError) (verifiedPayload settings now algorithm key token) := by
  unfold verifiedPayload
  by_cases family : key.family = algorithm.family
  · rcases cut : Parts.ofText? token with _ | parts
    · simp only [family, ne_eq, not_true_eq_false, if_false]
      exact .error (by decide)
    · simp only [family, ne_eq, not_true_eq_false, if_false]
      refine .bind (verifies_timely _ _) fun fits => ?_
      cases fits with
      | false => exact .error (by decide)
      | true =>
        refine .bind (decodePart_timely _) fun bytes => ?_
        refine .bind (.of_mapError fun _ same => by cases same) fun payload => ?_
        refine .bind (.of_mapError fun _ same => by cases same) fun claims => ?_
        exact .bind (check_timely claims _ _) fun _ => .ok payload
  · simp only [family, ne_eq, not_false_eq_true, if_true]
    exact .error (by decide)

theorem tokenOf_timely (payload : Json) : Fails Timely (tokenOf settings payload) := by
  unfold tokenOf
  split
  · split
    · exact .ok _
    · exact .error (by decide)
  · exact .error fun same => by cases same

theorem judged_timely : Fails Timely (judged settings now algorithm key token) :=
  .bind (verifiedPayload_timely.mapError fun _ timely => timely) tokenOf_timely

theorem answer_timely (header : Header) (published : PublishedKey) :
    Fails Timely (answer settings now header token published) := by
  refine .bind (fun error failed => ?_) fun key => judged_timely
  obtain ⟨detail, rfl | rfl⟩ := toKey_fails published error failed
  · exact fun same => by cases same
  · exact fun same => by cases same

/-- Whatever a validator holds, and whatever is sent to it, it does not find that a token does not
hold yet. -/
theorem validated_timely (network : Network ν) (settings : JwtSettings) (now : Instant)
    (token : String) (state : ν) (cache : KeyCache) :
    Fails Timely (validated network settings now token state cache).result := by
  unfold validated
  split
  · exact .error fun same => by cases same
  · next header _ =>
    split
    · refine .bind (fun error failed same => ?_) (answer_timely header)
      -- What hinders the search for a key is about the published keys, not about the token.
      have about := located_only network settings now state cache header.keyId error failed
      rw [same] at about
      cases about
    · exact .error fun same => by cases same

/-- A token that is accepted is accepted at every earlier time. -/
theorem judged_earlier {accepted : Token} {earlier : Instant}
    (before : earlier.seconds ≤ now.seconds)
    (h : judged settings now algorithm key token = .ok accepted) :
    judged settings earlier algorithm key token = .ok accepted := by
  obtain ⟨payload, claims, verified, named⟩ := judged_eq_ok.mp h
  obtain ⟨⟨seconds, given, current⟩, issued, addressed⟩ := check_eq_ok.mp verified.inOrder
  have inOrder : claims.check earlier.seconds settings.issuer settings.audience = .ok () :=
    check_eq_ok.mpr ⟨⟨seconds, given, by omega⟩, issued, addressed⟩
  exact judged_eq_ok.mpr ⟨payload, claims, { verified with inOrder }, named⟩

end Jwt

namespace Backend

/-- A validator has at most one key for a token. -/
theorem HasKey.unique {network : Network ν} {settings : JwtSettings} {backend : Backend ν}
    {presented : Presented} {header header' : Header} {key key' : Key}
    (has : HasKey network settings backend presented header key)
    (has' : HasKey network settings backend presented header' key') :
    header = header' ∧ key = key' := by
  have same := has.header_eq.symm.trans has'.header_eq
  cases same
  have found := has.found.symm.trans has'.found
  cases found
  exact ⟨rfl, rfl⟩

/-- A token is never refused because it does not hold yet, and one that is accepted is accepted at
every earlier time by every validator that has the same key for it. -/
theorem notBefore_unchecked (network : Network ν) (settings : JwtSettings) (backend : Backend ν)
    (presented : Presented) :
    let result := (backend.present network settings presented).result
    result ≠ .error (.validation "Token not yet valid") ∧
      ∀ accepted, result = .ok accepted →
        ∃ header key, HasKey network settings backend presented header key ∧
          ∀ {μ : Type} (other : Network μ) (holder : Backend μ) (earlier : Instant),
            earlier.seconds ≤ presented.now.seconds →
            HasKey other settings holder { presented with now := earlier } header key →
            (holder.present other settings { presented with now := earlier }).result =
              .ok accepted := by
  refine ⟨fun refused => ?_, fun accepted h => ?_⟩
  · rw [(present_eq network settings presented backend).1] at refused
    obtain ⟨error, failed, wording⟩ := mapError_eq_error.mp refused
    exact validated_timely network settings _ _ _ _ error failed
      (TokenError.eq_notYetValid wording)
  · obtain ⟨header, key, has, judged⟩ := exists_hasKey h
    refine ⟨header, key, has, fun other holder earlier before held => ?_⟩
    rw [held.result]
    exact mapError_eq_ok.mpr (judged_earlier before judged)

end Backend

namespace Shared

open Backend

/-- A token that holds from `9999999998` seconds on. -/
def postdated : Presented where
  token := "eyJhbGciOiJIUzI1NiJ9." ++
    "eyJleHAiOjk5OTk5OTk5OTksIm5iZiI6OTk5OTk5OTk5OCwic3ViIjoiYSIsImlzcyI6ImkifQ." ++
    "pnLTLpdN4LYW8D3oe0TtE7ADmLVu8F2OdJ0Hsx5iDsU"
  now := ⟨1785000000, 0⟩

theorem fits_postdated : Fits none postdated := by
  decide +kernel

theorem postdated_earlier : 0 ≤ postdated.now.seconds ∧ ∃ accepted,
    ((fresh ()).present (Network.constant reply) (settings none) postdated).result =
        .ok accepted ∧
      ((fresh ()).present (Network.constant reply) (settings none)
        { postdated with now := ⟨0, 0⟩ }).result = .ok accepted := by
  have before : 0 ≤ postdated.now.seconds := by decide
  obtain ⟨accepted, h⟩ := accepted_of_fits fits_postdated
  obtain ⟨header, key, has, again⟩ := (notBefore_unchecked (Network.constant reply) (settings none)
    (fresh ()) postdated).2 accepted h
  have header_eq : Header.ofToken postdated.token = .ok ⟨.hs256, none⟩ :=
    eq_ok_of_toOption fits_postdated.1
  obtain ⟨rfl, rfl⟩ := has.unique (Shared.hasKey none header_eq)
  exact ⟨before, accepted, h, again _ _ ⟨0, 0⟩ before (Shared.hasKey none header_eq)⟩

/-- The token is accepted although it does not hold yet. -/
theorem postdated_accepted : ∃ accepted payload n,
    ((fresh ()).present (Network.constant reply) (settings none) postdated).result =
        .ok accepted ∧
      payloadOf? postdated.token = some payload ∧ payload.get? "nbf" = some (.int n) ∧
      postdated.now.seconds + Claims.leeway < n := by
  obtain ⟨accepted, h⟩ := accepted_of_fits fits_postdated
  have carried : carried? Json.int64? "nbf" postdated.token = some 9999999998 := by
    decide +kernel
  obtain ⟨payload, value, payload_eq, member, number⟩ := carried?_eq_some.mp carried
  obtain ⟨rfl, -⟩ := Json.int64?_eq_some.mp number
  exact ⟨accepted, payload, 9999999998, h, payload_eq, member, by decide⟩

end Shared

end BearerLogin
