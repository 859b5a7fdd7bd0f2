import BearerLogin.Deployment
import BearerLogin.Proofs.Settings.Contents

/-! Which settings can be deployed.  Settings that were accepted lead to a service or to a fault of
the settings, with one exception: the time for which keys are held is bounded only where they are,
so that a service whose settings ask for more than 1000 years is stopped while it is set up
(`deployment_outcomes`). -/

namespace BearerLogin

/-- A text stands for one number. -/
theorem Text.Decimal.Writes.unique {text : String} {one other : Nat} (first : Writes text one)
    (second : Writes text other) : one = other := by
  have read := read?_eq_some.mpr ⟨first, Nat.le_max_left one other⟩
  rw [read?_eq_some.mpr ⟨second, Nat.le_max_right one other⟩] at read
  cases read
  rfl

namespace Sources

/-- The certificates that are to be trusted can be. -/
def TrustsCertificates (sources : Sources) : Prop :=
  ∀ text, sources.text? .trustedCertificates = some text → Certificate.allTrustable text = true

/-- Published keys are to be held for more than 1000 years of 365 days. -/
def HoldsKeysTooLong (sources : Sources) : Prop :=
  ∃ text seconds, sources.text? .keysExpiry = some text ∧ Text.Decimal.Writes text seconds ∧
    1000 * 365 * 24 * 60 * 60 < seconds

variable {sources : Sources} {transport : TransportSettings} {jwt : JwtSettings}

theorem check_of_trusts (tell : sources.TellTransport transport)
    (trusts : sources.TrustsCertificates) : transport.check = .ok () := by
  unfold TransportSettings.check
  rw [tell.trustedCertificates]
  rcases given : sources.text? .trustedCertificates with _ | text
  · rfl
  · exact if_pos (trusts text given)

theorem check_of_not_trusts (tell : sources.TellTransport transport)
    (doubts : ¬sources.TrustsCertificates) : transport.check = .error .badCertificates := by
  unfold TrustsCertificates at doubts
  push Not at doubts
  obtain ⟨text, given, untrusted⟩ := doubts
  unfold TransportSettings.check
  rw [tell.trustedCertificates, given]
  exact if_neg untrusted

theorem holdsKeysTooLong_iff (tell : sources.TellSigned jwt) :
    sources.HoldsKeysTooLong ↔ Jwt.maxExpirySeconds < jwt.expirySeconds := by
  have expiry := tell.expiry
  unfold Gives at expiry
  unfold HoldsKeysTooLong
  rcases given : sources.text? .keysExpiry with _ | text
  · rw [given] at expiry
    simp [show jwt.expirySeconds = 360 from expiry, Jwt.maxExpirySeconds]
  · rw [given] at expiry
    obtain ⟨written, small⟩ := expiry
    simp only [Option.some.injEq, exists_and_left, exists_eq_left']
    constructor
    · rintro ⟨seconds, writes, long⟩
      rw [writes.unique written] at long
      exact long
    · intro long
      exact ⟨jwt.expirySeconds, written, long⟩

end Sources

namespace Service

variable (network : Network ν) {sources : Sources} {settings : Settings}

theorem deploySigned_of_unsigned (unsigned : settings.jwt = none) :
    deploySigned network mechanism settings = .error (.settings (.missing .keysEndpoint)) := by
  unfold deploySigned Acceptance.ofSettings
  rw [unsigned]
  rfl

theorem deploySigned_of_signed {jwt : JwtSettings} (signed : settings.jwt = some jwt) :
    deploySigned network mechanism settings =
      deploy network mechanism settings (.signed jwt) := by
  unfold deploySigned Acceptance.ofSettings
  rw [signed]
  rfl

variable {jwt : JwtSettings}

theorem deploy_of_untrusted (untrusted : settings.transport.check = .error .badCertificates) :
    deploy network mechanism settings (.signed jwt) = .error (.settings .badCertificates) := by
  unfold deploy Acceptance.check
  dsimp only
  rw [untrusted]
  rfl

theorem deploy_of_trusted (trusted : settings.transport.check = .ok ()) :
    deploy network mechanism settings (.signed jwt) =
      if Jwt.maxExpirySeconds < jwt.expirySeconds then .error .keysHeldTooLong
      else .ok (⟨(Acceptance.signed jwt).peers network settings.client, settings.tokenEndpoint⟩,
        .configured (settings.tokenEndpoint.map Url.render) Jwt.validatorName) := by
  unfold deploy Acceptance.check Acceptance.checkExpiry
  dsimp only
  rw [trusted]
  split
  · rfl
  · rfl

/-- What becomes of settings that were accepted: they are deployed, they name no issuer, their
certificates cannot be trusted, or they hold keys for longer than can be done; the last is no fault
of the settings but stops the program. -/
theorem deployment_outcomes (network : Network ν) {sources : Sources} {settings : Settings}
    (accepted : Settings.ofSources sources = .ok settings) :
    ((∃ deployed, deploySigned network "PLAIN" settings = .ok deployed) ↔
        sources.Given .issuer ∧ sources.TrustsCertificates ∧ ¬sources.HoldsKeysTooLong) ∧
      (deploySigned network "PLAIN" settings = .error (.settings (.missing .keysEndpoint)) ↔
        ¬sources.Given .issuer) ∧
      (deploySigned network "PLAIN" settings = .error (.settings .badCertificates) ↔
        sources.Given .issuer ∧ ¬sources.TrustsCertificates) ∧
      (deploySigned network "PLAIN" settings = .error .keysHeldTooLong ↔
        sources.Given .issuer ∧ sources.TrustsCertificates ∧ sources.HoldsKeysTooLong) := by
  have tell := Settings.ofSources_eq_ok.mp accepted
  rcases signed : settings.jwt with _ | jwt
  · have outcome := deploySigned_of_unsigned network signed
    have unset : ¬sources.Given .issuer := fun given => by
      have both := tell.signed.mpr ⟨given, tell.paired.mp given⟩
      rw [signed] at both
      cases both
    rw [show "PLAIN" = mechanism from rfl, outcome]
    simp [unset]
  · have given : sources.Given .issuer := ⟨_, (tell.jwt jwt signed).issuer⟩
    rw [show "PLAIN" = mechanism from rfl, deploySigned_of_signed network signed]
    by_cases trusts : sources.TrustsCertificates
    · rw [deploy_of_trusted network (Sources.check_of_trusts tell.transport trusts)]
      have long := Sources.holdsKeysTooLong_iff (tell.jwt jwt signed)
      by_cases held : Jwt.maxExpirySeconds < jwt.expirySeconds
      · rw [if_pos held]
        simp [given, trusts, long, held]
      · rw [if_neg held]
        simp [given, trusts, long, held]
    · rw [deploy_of_untrusted network (Sources.check_of_not_trusts tell.transport trusts)]
      simp [given, trusts]

/-- Settings of an issuer whose keys are held for a time. -/
def holding (seconds : String) : Sources where
  options := [("oauth.valid.issuer.uri", "i"), ("oauth.jwks.endpoint.uri", "a:b"),
    ("oauth.jwks.expiry.seconds", seconds)]

/-- What is read of these settings. -/
def held (seconds : Nat) : Settings where
  jwt := some {
    issuer := "i"
    keysUrl := { scheme := "a", authority := none, path := .rootless "b" }
    expirySeconds := seconds }

/-- Keys may be held for 1000 years. -/
theorem deployed_for_millennium :
    Settings.ofSources (holding "31536000000") = .ok (held 31536000000) ∧
      ∃ deployed, deploySigned Network.unreachable "PLAIN" (held 31536000000) = .ok deployed := by
  have accepted : Settings.ofSources (holding "31536000000") = .ok (held 31536000000) := by
    decide +kernel
  have issued : (holding "31536000000").Given .issuer := ⟨"i", by decide +kernel⟩
  have trusts : (holding "31536000000").TrustsCertificates := by
    intro text given
    have unset : (holding "31536000000").text? .trustedCertificates = none := by decide +kernel
    rw [unset] at given
    cases given
  have short : ¬(holding "31536000000").HoldsKeysTooLong := by
    have tell := (Settings.ofSources_eq_ok.mp accepted).jwt _ rfl
    rw [Sources.holdsKeysTooLong_iff tell]
    decide
  exact ⟨accepted, (deployment_outcomes Network.unreachable accepted).1.mpr ⟨issued, trusts, short⟩⟩

/-- One second more is accepted and stops the program. -/
theorem accepted_undeployable :
    Settings.ofSources (holding "31536000001") = .ok (held 31536000001) ∧
      deploySigned Network.unreachable "PLAIN" (held 31536000001) = .error .keysHeldTooLong := by
  refine ⟨by decide +kernel, ?_⟩
  rw [show "PLAIN" = mechanism from rfl, deploySigned_of_signed Network.unreachable rfl,
    deploy_of_trusted Network.unreachable rfl, if_pos (by decide)]

end Service

end BearerLogin
