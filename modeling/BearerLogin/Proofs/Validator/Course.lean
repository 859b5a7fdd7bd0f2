import BearerLogin.Deployment
import BearerLogin.Proofs.Steps
import BearerLogin.Proofs.Traffic

/-! The course of a validation.  What a validator answers, what it remembers and which requests it
sends depend on the keys that it holds and on the replies of the network alone.  The functions here
say how, without the reports; `validate_run` and `validateSigned_eq` say that a validator follows
them, and `validated_noting` that the requests named here are the ones that the network receives. -/

namespace BearerLogin

open Steps

namespace Jwt

/-- What a step of a validation comes to: its result, what is remembered from then on, the state of
the network, and what passed over it. -/
structure Course (ν α : Type) where
  result : Except TokenError α
  cache : KeyCache
  network : ν
  traffic : Traffic := []

section

variable (network : Network ν) (settings : JwtSettings) (now : Instant)

/-- The published keys as they are requested. -/
def requested (state : ν) (cache : KeyCache) : Course ν KeySet :=
  let draft : Request := { method := "GET", url := settings.keysUrl }
  let (response, next) := network.exchange settings.keysUrl draft state
  let traffic := network.traffic settings.keysUrl draft state
  match keysOf settings.keysUrl response with
  | .ok keys => ⟨.ok keys, { cache with held := some (keys, now) }, next, traffic⟩
  | .error fault => ⟨.error (.keysUnavailable fault.message), cache, next, traffic⟩

/-- The published keys: those that are held or requested ones. -/
def fetched (state : ν) (cache : KeyCache) : Course ν KeySet :=
  match cache.fresh? now settings.expirySeconds with
  | some keys => { result := .ok keys, cache, network := state }
  | none => requested network settings now state cache

/-- The key of a set that a token asks for. -/
def pick (keyId : Option String) (keys : KeySet) : Except TokenError PublishedKey :=
  match keys.find? keyId with
  | some published => .ok published
  | none => .error (.keyNotFound (KeySet.missing keyId))

/-- The published key for a token after keys had to be fetched anew. -/
def refreshed (keyId : Option String) (first : Course ν KeySet) : Course ν PublishedKey :=
  let again := fetched network settings now first.network { lastForced := some now }
  { again with
    result := again.result.bind (pick keyId)
    traffic := first.traffic ++ again.traffic }

/-- The published key for a token. -/
def located (keyId : Option String) (state : ν) (cache : KeyCache) : Course ν PublishedKey :=
  let first := fetched network settings now state cache
  match first.result with
  | .error error => { first with result := .error error }
  | .ok keys =>
    if (keys.find? keyId).isNone &&
        !first.cache.refusesRefresh now settings.refreshPauseSeconds then
      refreshed network settings now keyId first
    else { first with result := pick keyId keys }

/-- The answer for a token whose key is known. -/
def answer (header : Header) (token : String) (published : PublishedKey) :
    Except TokenError Token :=
  published.toKey.bind fun key =>
    ((verifiedPayload settings now header.algorithm key token).mapError Fault.toTokenError).bind
      (tokenOf settings)

/-- The course of a validation. -/
def validated (token : String) (state : ν) (cache : KeyCache) : Course ν Token :=
  match Header.ofToken token with
  | .error fault =>
    { result := .error (.invalidFormat fault.message), cache, network := state }
  | .ok header =>
    if admits settings header.algorithm then
      let found := located network settings now header.keyId state cache
      { found with result := found.result.bind (answer settings now header token) }
    else
      { result := .error (.unsupportedAlgorithm header.algorithm.name), cache, network := state }

/-- The state of a validator behind a step, but for the reports. -/
def Course.Leaves (course : Course ν α) (before : ValidatorState ν)
    (after : Except TokenError α × ValidatorState ν) : Prop :=
  ∃ events, after =
    (course.result,
      { cache := course.cache, network := course.network, events := before.events ++ events })

variable (s : ValidatorState ν)

theorem run_report (event : Event) :
    (ValidatorM.report event).run s = (.ok (), { s with events := s.events ++ [event] }) := rfl

theorem run_setCache (change : KeyCache → KeyCache) :
    (ValidatorM.setCache change).run s = (.ok (), { s with cache := change s.cache }) := rfl

theorem fetchKeys_run :
    (fetched network settings now s.network s.cache).Leaves s
      ((fetchKeys network settings now).run s) := by
  unfold fetchKeys fetched requested requestKeys Course.Leaves
  simp only [run_bind, run_get]
  rcases s.cache.fresh? now settings.expirySeconds with _ | keys
  · simp only [run_bind, run_report, run_get, run_set]
    rcases keysOf settings.keysUrl _ with fault | keys
    · exact ⟨_, rfl⟩
    · exact ⟨_, rfl⟩
  · exact ⟨_, rfl⟩

theorem keyFor_run (keyId : Option String) :
    ∃ events, (keyFor network settings now keyId).run s =
      ((located network settings now keyId s.network s.cache).result.bind PublishedKey.toKey,
        { cache := (located network settings now keyId s.network s.cache).cache
          network := (located network settings now keyId s.network s.cache).network
          events := s.events ++ events }) := by
  unfold keyFor located
  simp only [run_bind]
  obtain ⟨events, first⟩ := fetchKeys_run network settings now s
  rw [first]
  rcases (fetched network settings now s.network s.cache).result with error | keys
  · exact ⟨events, rfl⟩
  · rcases known : keys.find? keyId with _ | published
    · simp only [run_bind, run_get, known]
      by_cases refused : KeyCache.refusesRefresh
          (fetched network settings now s.network s.cache).cache now
          settings.refreshPauseSeconds = true
      · simp only [refused, if_true, run_bind, run_report, run_throw]
        exact ⟨_, by simp [pick, known, Except.bind]; rfl⟩
      · simp only [refused, Bool.false_eq_true, if_false, run_bind, run_setCache, run_report]
        obtain ⟨more, again⟩ := fetchKeys_run network settings now
          { cache := { lastForced := some now }
            network := (fetched network settings now s.network s.cache).network
            events := s.events ++ events ++ [Event.refreshingKeys keyId] }
        refine ⟨events ++ ([.refreshingKeys keyId] ++ more), ?_⟩
        rw [again]
        simp only [Option.isNone_none, Bool.not_false, Bool.and_self, if_true, refreshed,
          List.append_assoc]
        rcases (fetched network settings now _ { lastForced := some now }).result
          with error | renewed
        · rfl
        · simp only [Except.bind, pick]
          rcases renewed.find? keyId with _ | published
          · rfl
          · rw [run_ofExcept]
    · exact ⟨events, by simp [pick, known, Except.bind]⟩

theorem validate_run (token : String) :
    (validated network settings now token s.network s.cache).Leaves s
      ((validate network settings now token).run s) := by
  unfold validate validated Course.Leaves
  simp only [run_bind, run_ofExcept, ValidatorM.ofFault]
  rcases Header.ofToken token with fault | header
  · exact ⟨[], by simp [Except.mapError]⟩
  · simp only [Except.mapError]
    by_cases admitted : admits settings header.algorithm = true
    · obtain ⟨events, key⟩ := keyFor_run network settings now s header.keyId
      simp only [admitted, Bool.not_true, Bool.false_eq_true, if_false, if_true, run_bind, key]
      refine ⟨events, ?_⟩
      rcases (located network settings now header.keyId s.network s.cache).result
        with error | published
      · rfl
      · simp only [Except.bind, answer]
        rcases published.toKey with error | key
        · rfl
        · simp only [run_ofExcept]
          rcases verifiedPayload settings now header.algorithm key token with fault | payload <;>
            simp [Except.mapError, *]
    · exact ⟨[], by simp [admitted]⟩

/-! ### Notes of the traffic -/

/-- A course on a network that had noted `earlier` and notes what passes over it. -/
def Course.noted (course : Course ν α) (earlier : Traffic) : Course (ν × Traffic) α :=
  { course with network := (course.network, earlier ++ course.traffic) }

variable (state : ν) (cache : KeyCache) (earlier : Traffic)

theorem requested_noting :
    requested network.noting settings now (state, earlier) cache =
      (requested network settings now state cache).noted earlier := by
  unfold requested
  simp only [Network.exchange_noting]
  rcases keysOf settings.keysUrl _ with fault | keys <;> rfl

theorem fetched_noting :
    fetched network.noting settings now (state, earlier) cache =
      (fetched network settings now state cache).noted earlier := by
  unfold fetched
  rcases cache.fresh? now settings.expirySeconds with _ | keys
  · exact requested_noting network settings now state cache earlier
  · simp [Course.noted]

theorem located_noting (keyId : Option String) :
    located network.noting settings now keyId (state, earlier) cache =
      (located network settings now keyId state cache).noted earlier := by
  unfold located
  simp only [fetched_noting]
  rcases result : (fetched network settings now state cache).result with error | keys
  · simp [Course.noted, result]
  · simp only [Course.noted, result]
    split
    · simp [refreshed, fetched_noting, Course.noted, List.append_assoc]
    · rfl

theorem validated_noting (token : String) :
    validated network.noting settings now token (state, earlier) cache =
      (validated network settings now token state cache).noted earlier := by
  unfold validated
  rcases Header.ofToken token with fault | header
  · simp [Course.noted]
  · simp only [located_noting]
    split <;> simp [Course.noted]

end

end Jwt

open Jwt in
/-- A validator answers and remembers what the course of the validation says. -/
theorem Backend.validateSigned_eq (network : Network ν) (settings : JwtSettings) (token : String)
    (backend : Backend ν) :
    let course := validated network settings backend.now token backend.network backend.keys
    (backend.validateSigned network settings token).result =
        course.result.mapError TokenError.toAuthError ∧
      (backend.validateSigned network settings token).next =
        { backend with keys := course.cache, network := course.network } := by
  obtain ⟨events, leaves⟩ := validate_run network settings backend.now
    { cache := backend.keys, network := backend.network } token
  simp only [validateSigned, leaves, and_self]

end BearerLogin
