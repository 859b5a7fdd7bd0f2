import BearerLogin.Proofs.Validator.Projection

/-! The expiry of a token.  Two readers look at it: the check takes every number from zero to
`2 ^ 64` for a point in time, fractions included, and the validated token takes an integer that is an
instant of the calendar.  A token whose expiry the check takes and the validated token does not is
refused as one that has none. -/

namespace BearerLogin

open Jwt

namespace Jwt

variable {payload : Json} {seconds : Nat}

/-- A payload gives its expiry as an integer, and the calendar has this instant. -/
def WholeExpiry (payload : Json) (seconds : Nat) : Prop :=
  payload.get? "exp" = some (.int seconds) ∧ (seconds : Int) ≤ Instant.maxSeconds

/-- The expiry that the check reads is the instant of the validated token, or this has none. -/
theorem instantIn?_expiry (given : (Claims.ofPayload payload).expiry = .given seconds) :
    instantIn? payload "exp" = some ⟨seconds, 0⟩ ∧ WholeExpiry payload seconds ∨
      instantIn? payload "exp" = none ∧ ¬WholeExpiry payload seconds := by
  by_cases whole : WholeExpiry payload seconds
  · have start : Instant.minSeconds ≤ seconds :=
      Instant.minSeconds_nonpos.trans (Int.natCast_nonneg seconds)
    exact .inl ⟨instantIn?_eq_some.mpr ⟨seconds, whole.1, start, whole.2, rfl⟩, whole⟩
  · refine .inr ⟨?_, whole⟩
    rcases expiry : instantIn? payload "exp" with _ | instant
    · rfl
    · obtain ⟨n, member, -, last, -⟩ := instantIn?_eq_some.mp expiry
      have read : Claim.ofTime (.int n) = .given seconds := by
        rw [← given]
        simp [Claims.ofPayload, member]
      obtain rfl := Claim.ofTime_int.mp read
      exact absurd ⟨member, last⟩ whole

theorem toAuthError_missingExpiry :
    (TokenError.missingClaim "exp").toAuthError = .validation "Missing required claim: exp" := by
  decide

end Jwt

namespace Backend

/-- A token that passes every check of its header, its key, its signature and its claims, and that
names a user, is accepted exactly if its expiry is written as an integer and is an instant of the
calendar; then this is the instant at which it expires.  Every other one is refused as if it had no
expiry. -/
theorem accepted_iff_wholeExpiry (network : Network ν) (settings : JwtSettings)
    (backend : Backend ν) (presented : Presented) (header : Header) (key : Key) (payload : Json)
    (name : String) (has : HasKey network settings backend presented header key)
    (verified : verifiedPayload settings presented.now header.algorithm key presented.token =
      .ok payload)
    (user : payload.get? settings.usernameClaim = some (.str name)) (nonempty : name ≠ "") :
    let result := (backend.present network settings presented).result
    ∃ seconds : Nat, (Claims.ofPayload payload).expiry = .given seconds ∧
      presented.now.seconds - Claims.leeway ≤ seconds ∧
      ((∃ accepted, result = .ok accepted ∧ accepted.expiresAt = ⟨seconds, 0⟩) ↔
        WholeExpiry payload seconds) ∧
      (result = .error (.validation "Missing required claim: exp") ↔
        ¬WholeExpiry payload seconds) := by
  have named := userIn?_eq_some.mpr ⟨user, nonempty⟩
  have object : ∃ members, payload = .obj members := by
    cases payload with
    | obj members => exact ⟨members, rfl⟩
    | _ => cases user
  have judged := judged_of_verified verified
  obtain ⟨claims, verified⟩ := verifiedPayload_eq_ok.mp verified
  obtain ⟨⟨seconds, given, current⟩, -⟩ := check_eq_ok.mp verified.inOrder
  rw [verified.reads.claims_eq object] at given
  rw [has.result, judged]
  refine ⟨seconds, given, current, ?_⟩
  obtain ⟨expiry, whole⟩ | ⟨expiry, whole⟩ := instantIn?_expiry given
  · rw [tokenOf_eq_ok.mpr ⟨name, ⟨seconds, 0⟩, named, expiry, rfl⟩]
    simp [Except.mapError, whole]
  · rw [tokenOf_of_no_expiry named expiry]
    simp [Except.mapError, whole, toAuthError_missingExpiry]

end Backend

namespace Shared

open Backend

/-- What a token that passes the checks under the key with the secret names as its user, and its
expiry as the check and the validated token read it. -/
def reading? (presented : Presented) : Option (Option String × Claim Nat × Option Instant) :=
  (verifiedPayload (settings none) presented.now .hs256 key presented.token).toOption.map
    fun payload =>
      (userIn? payload "sub", (Claims.ofPayload payload).expiry, instantIn? payload "exp")

theorem payload_of_reading {presented : Presented} {user : Option String} {checked : Claim Nat}
    {expiry : Option Instant} (h : reading? presented = some (user, checked, expiry)) :
    ∃ payload,
      verifiedPayload (settings none) presented.now .hs256 key presented.token = .ok payload ∧
        userIn? payload "sub" = user ∧ (Claims.ofPayload payload).expiry = checked ∧
        instantIn? payload "exp" = expiry := by
  obtain ⟨payload, verified, same⟩ := Option.map_eq_some_iff.mp h
  simp only [Prod.mk.injEq] at same
  exact ⟨payload, eq_ok_of_toOption verified, same⟩

theorem issued_expires : ∃ accepted,
    ((fresh ()).present (Network.constant reply) (settings none) issued).result = .ok accepted ∧
      accepted.expiresAt = ⟨9999999999, 0⟩ := by
  have has : HasKey (Network.constant reply) (settings none) (fresh ()) issued ⟨.hs256, none⟩ key :=
    hasKey none (eq_ok_of_toOption fits_issued.1)
  have reading : reading? issued =
      some (some "a", .given 9999999999, some ⟨9999999999, 0⟩) := by decide +kernel
  obtain ⟨payload, verified, user, -, expiry⟩ := payload_of_reading reading
  obtain ⟨member, nonempty⟩ := userIn?_eq_some.mp user
  obtain ⟨seconds, given, -, accepted, -⟩ := accepted_iff_wholeExpiry (Network.constant reply)
    (settings none) (fresh ()) issued ⟨.hs256, none⟩ key payload "a" has verified member nonempty
  obtain ⟨instant, whole⟩ | ⟨missing, -⟩ := instantIn?_expiry given
  · rw [← Option.some.inj (instant.symm.trans expiry)]
    exact accepted.mpr whole
  · cases missing.symm.trans expiry

/-- The token `issued` with its expiry written with a point. -/
def pointed : Presented where
  token := "eyJhbGciOiJIUzI1NiJ9." ++
    "eyJleHAiOjk5OTk5OTk5OTkuMCwic3ViIjoiYSIsImlzcyI6ImkifQ." ++
    "QGLrwFiQZZ0V8GXKJdZHFUg0mVin5pcgyi49xxk55Wo"
  now := ⟨1785000000, 0⟩

/-- The check takes this expiry for `9999999999` seconds, and the token is refused as one that has
none. -/
theorem pointed_refused : ∃ header key payload,
    HasKey (Network.constant reply) (settings none) (fresh ()) pointed header key ∧
      verifiedPayload (settings none) pointed.now header.algorithm key pointed.token =
        .ok payload ∧
      payload.get? "sub" = some (.str "a") ∧
      (Claims.ofPayload payload).expiry = .given 9999999999 ∧
      ((fresh ()).present (Network.constant reply) (settings none) pointed).result =
        .error (.validation "Missing required claim: exp") := by
  have header_eq : Header.ofToken pointed.token = .ok ⟨.hs256, none⟩ :=
    eq_ok_of_toOption (by decide +kernel)
  have has : HasKey (Network.constant reply) (settings none) (fresh ()) pointed ⟨.hs256, none⟩
      key := hasKey none header_eq
  have reading : reading? pointed = some (some "a", .given 9999999999, none) := by decide +kernel
  obtain ⟨payload, verified, user, checked, expiry⟩ := payload_of_reading reading
  refine ⟨_, key, payload, has, verified, (userIn?_eq_some.mp user).1, checked, ?_⟩
  rw [has.result, judged_of_verified verified, tokenOf_of_no_expiry user expiry]
  exact congrArg Except.error toAuthError_missingExpiry

end Shared

end BearerLogin
