import BearerLogin.Proofs.Validator.Course

/-! Sessions of a validator: tokens that are presented one after the other, at any instants and over
any network.  What passes over the network is noted, so that the keys that the validator holds can
be compared with the ones that it was sent: they are always the last ones. -/

namespace BearerLogin

/-- The keys in a reply, if it is a good one and publishes keys. -/
def Reply.keys? : Reply → Option Jwt.KeySet
  | .answered status body true =>
    if HttpFault.statusFails status then none else Jwt.KeySet.ofBytes? body
  | _ => none

namespace Traffic

/-- All sets of keys that were sent, oldest first. -/
def keySets (traffic : Traffic) : List Jwt.KeySet :=
  traffic.filterMap fun exchange => exchange.2.keys?

/-- The keys that were sent last. -/
def lastKeys? (traffic : Traffic) : Option Jwt.KeySet :=
  traffic.keySets.getLast?

theorem keySets_append (earlier later : Traffic) :
    keySets (earlier ++ later) = keySets earlier ++ keySets later :=
  List.filterMap_append

end Traffic

/-- A token that is presented to a validator, and when. -/
structure Presented where
  token : String
  now : Instant

namespace Backend

/-- A validator that holds nothing yet. -/
def fresh (network : ν) : Backend ν :=
  { network, now := ⟨0, 0⟩ }

variable (network : Network ν) (settings : JwtSettings)

/-- Validates a token when it is presented. -/
def present (presented : Presented) (backend : Backend ν) : Answer (Backend ν) Token :=
  { backend with now := presented.now }.validateSigned network settings presented.token

/-- The answers to tokens that are presented in turn, and what the validator is like after them. -/
def session : List Presented → Backend ν → List (Except AuthError Token) × Backend ν
  | [], backend => ([], backend)
  | presented :: rest, backend =>
    let answer := backend.present network settings presented
    let (results, last) := session rest answer.next
    (answer.result :: results, last)

/-- What passes over a network during a session that begins with a fresh validator. -/
def trafficOf (history : List Presented) (start : ν) : Traffic :=
  (session network.noting settings history (fresh (start, []))).2.network.2

end Backend

namespace Jwt

variable (network : Network ν) (settings : JwtSettings) (now : Instant) (state : ν)
  (cache : KeyCache)

/-- A request for keys succeeds exactly if its reply has them. -/
theorem keySets_requested :
    Traffic.keySets (requested network settings now state cache).traffic =
      (requested network settings now state cache).result.toOption.toList := by
  unfold requested Network.exchange Network.traffic keysOf Traffic.keySets
  by_cases buildable : Request.canRequest (Request.reported settings.keysUrl)
  · simp only [buildable, if_true]
    rcases network.send _ state with ⟨_ | ⟨status, body, complete⟩, next⟩
    · rfl
    · by_cases bad : HttpFault.statusFails status = true
      · cases complete <;> simp [bad, Reply.keys?, Except.toOption]
      · rcases complete
        · simp [bad, Reply.keys?, Except.toOption]
        · rcases hkeys : KeySet.ofBytes? body with _ | keys <;>
            simp [bad, Reply.keys?, Except.toOption, hkeys]
  · simp [buildable, Except.toOption]

/-- What is remembered after a request for keys: the keys of its reply, if it has them. -/
theorem cache_requested :
    (requested network settings now state cache).cache =
      match (requested network settings now state cache).result with
      | .ok keys => { cache with held := some (keys, now) }
      | .error _ => cache := by
  unfold requested
  dsimp only
  rcases keysOf settings.keysUrl _ with fault | keys <;> rfl

/-- The keys that are held, if any, are the last ones that were sent. -/
def KeyCache.Current (cache : KeyCache) (traffic : Traffic) : Prop :=
  ∀ keys since, cache.held = some (keys, since) → traffic.lastKeys? = some keys

/-- What a step of a validation keeps: the held keys stay the last ones that were sent, and a result
that is found in keys is found in these. -/
def Course.FromCurrent (course : Course ν α) (earlier : Traffic)
    (found : KeySet → α → Prop) : Prop :=
  course.cache.Current (earlier ++ course.traffic) ∧
    ∀ a, course.result = .ok a →
      ∃ keys, Traffic.lastKeys? (earlier ++ course.traffic) = some keys ∧ found keys a

variable {cache} {earlier : Traffic}

theorem requested_current (current : cache.Current earlier) :
    (requested network settings now state cache).FromCurrent earlier (· = ·) := by
  unfold Course.FromCurrent KeyCache.Current Traffic.lastKeys?
  rw [Traffic.keySets_append, keySets_requested, cache_requested]
  rcases (requested network settings now state cache).result with error | keys
  · simpa [Except.toOption, Traffic.lastKeys?, KeyCache.Current] using current
  · simp [Except.toOption]

theorem fresh?_held {keys : KeySet} {seconds : Nat} (h : cache.fresh? now seconds = some keys) :
    ∃ since, cache.held = some (keys, since) := by
  unfold KeyCache.fresh? at h
  split at h
  · next held since hheld =>
    split at h
    · exact ⟨since, by simp_all⟩
    · simp at h
  · simp at h

theorem fetched_current (current : cache.Current earlier) :
    (fetched network settings now state cache).FromCurrent earlier (· = ·) := by
  unfold fetched
  rcases fresh : cache.fresh? now settings.expirySeconds with _ | keys
  · exact requested_current network settings now state current
  · obtain ⟨since, held⟩ := fresh?_held now fresh
    exact ⟨by simpa using current, fun found same => ⟨keys, by simpa using current keys since held,
      Except.ok.inj same⟩⟩

theorem pick_eq_ok {keyId : Option String} {keys : KeySet} {published : PublishedKey} :
    pick keyId keys = .ok published ↔ keys.find? keyId = some published := by
  unfold pick
  rcases keys.find? keyId with _ | found <;> simp

theorem refreshed_current (keyId : Option String) (first : Course ν KeySet) :
    (refreshed network settings now keyId first).FromCurrent earlier
      fun keys published => keys.find? keyId = some published := by
  obtain ⟨current, found⟩ : (fetched network settings now first.network
      { lastForced := some now }).FromCurrent (earlier ++ first.traffic) (· = ·) :=
    fetched_current network settings now first.network (by simp [KeyCache.Current])
  unfold refreshed
  refine ⟨by simpa using current, fun published result => ?_⟩
  rcases again : (fetched network settings now first.network { lastForced := some now }).result
    with error | keys
  · simp [again, Except.bind] at result
  · obtain ⟨_, last, rfl⟩ := found keys again
    simp only [again, Except.bind, pick_eq_ok] at result
    exact ⟨_, by simpa using last, result⟩

theorem located_current (keyId : Option String) (current : cache.Current earlier) :
    (located network settings now keyId state cache).FromCurrent earlier
      fun keys published => keys.find? keyId = some published := by
  obtain ⟨firstCurrent, found⟩ := fetched_current network settings now state current
  unfold located
  rcases first : (fetched network settings now state cache).result with error | keys
  · simp only [first]
    exact ⟨firstCurrent, by simp⟩
  · simp only [first]
    split
    · exact refreshed_current network settings now keyId _
    · refine ⟨firstCurrent, fun published result => ?_⟩
      obtain ⟨_, last, rfl⟩ := found keys first
      exact ⟨_, last, pick_eq_ok.mp result⟩

/-- A token is accepted on account of a key among the last ones that were sent. -/
theorem validated_current (token : String) (current : cache.Current earlier) :
    (validated network settings now token state cache).FromCurrent earlier
      fun keys accepted => ∃ header published, Header.ofToken token = .ok header ∧
        admits settings header.algorithm ∧ keys.find? header.keyId = some published ∧
        answer settings now header token published = .ok accepted := by
  unfold validated
  rcases hheader : Header.ofToken token with fault | header
  · exact ⟨by simpa using current, by simp⟩
  · by_cases admitted : admits settings header.algorithm = true
    · obtain ⟨foundCurrent, found⟩ := located_current network settings now state header.keyId
        current
      simp only [admitted, if_true]
      refine ⟨foundCurrent, fun accepted result => ?_⟩
      rcases hpublished : (located network settings now header.keyId state cache).result
        with error | published
      · simp [hpublished, Except.bind] at result
      · obtain ⟨keys, last, picked⟩ := found published hpublished
        simp only [hpublished, Except.bind] at result
        exact ⟨keys, last, header, published, rfl, admitted, picked, result⟩
    · simp only [admitted]
      exact ⟨by simpa using current, by simp⟩

end Jwt

namespace Backend

open Jwt

variable (network : Network ν) (settings : JwtSettings)

theorem present_eq (presented : Presented) (backend : Backend ν) :
    let course := validated network settings presented.now presented.token backend.network
      backend.keys
    (backend.present network settings presented).result =
        course.result.mapError TokenError.toAuthError ∧
      (backend.present network settings presented).next =
        { backend with
          now := presented.now, keys := course.cache, network := course.network } :=
  validateSigned_eq network settings presented.token { backend with now := presented.now }

/-- A backend with the traffic that passed over its network. -/
def withTraffic (backend : Backend ν) (traffic : Traffic) : Backend (ν × Traffic) where
  network := (backend.network, traffic)
  now := backend.now
  keys := backend.keys
  registered := backend.registered

theorem present_noting (presented : Presented) (backend : Backend ν) (earlier : Traffic) :
    let course := validated network settings presented.now presented.token backend.network
      backend.keys
    let noted := (backend.withTraffic earlier).present network.noting settings presented
    noted.result = (backend.present network settings presented).result ∧
      noted.next =
        (backend.present network settings presented).next.withTraffic
          (earlier ++ course.traffic) := by
  obtain ⟨plain_result, plain_next⟩ := present_eq network settings presented backend
  obtain ⟨noted_result, noted_next⟩ :=
    present_eq network.noting settings presented (backend.withTraffic earlier)
  have course_eq : validated network.noting settings presented.now presented.token
      (backend.withTraffic earlier).network (backend.withTraffic earlier).keys =
        (validated network settings presented.now presented.token backend.network
          backend.keys).noted earlier :=
    validated_noting ..
  rw [course_eq] at noted_result noted_next
  refine ⟨noted_result.trans plain_result.symm, ?_⟩
  rw [noted_next, plain_next]
  rfl

/-- Everything that passes over the network during a session. -/
def passed : List Presented → Backend ν → Traffic
  | [], _ => []
  | presented :: rest, backend =>
    (validated network settings presented.now presented.token backend.network
      backend.keys).traffic ++ passed rest (backend.present network settings presented).next

/-- Noting the traffic changes neither the answers nor the validator. -/
theorem session_noting (history : List Presented) (backend : Backend ν) (earlier : Traffic) :
    session network.noting settings history (backend.withTraffic earlier) =
      ((session network settings history backend).1,
        (session network settings history backend).2.withTraffic
          (earlier ++ passed network settings history backend)) := by
  induction history generalizing backend earlier with
  | nil => simp [session, passed]
  | cons presented rest ih =>
    obtain ⟨result, next⟩ := present_noting network settings presented backend earlier
    simp only [session, passed, result, next, ih, List.append_assoc]

theorem trafficOf_eq (history : List Presented) (start : ν) :
    trafficOf network settings history start = passed network settings history (fresh start) := by
  have noted := session_noting network settings history (fresh start) []
  unfold trafficOf
  rw [show fresh (start, []) = (fresh start).withTraffic [] from rfl, noted]
  rfl

theorem passed_append (history more : List Presented) (backend : Backend ν) :
    passed network settings (history ++ more) backend =
      passed network settings history backend ++
        passed network settings more (session network settings history backend).2 := by
  induction history generalizing backend with
  | nil => rfl
  | cons presented rest ih => simp [session, passed, ih]

/-- The keys that a validator holds during a session are the last ones that were sent. -/
theorem session_current (history : List Presented) (backend : Backend ν) (earlier : Traffic)
    (current : backend.keys.Current earlier) :
    (session network settings history backend).2.keys.Current
      (earlier ++ passed network settings history backend) := by
  induction history generalizing backend earlier with
  | nil => simpa [session, passed] using current
  | cons presented rest ih =>
    simp only [session, passed, ← List.append_assoc]
    apply ih
    rw [(present_eq network settings presented backend).2]
    exact (validated_current network settings presented.now backend.network presented.token
      current).1

/-- A token that is accepted at the end of a session is accepted on account of a key among the last
ones that were sent. -/
theorem accepted_current {history : List Presented} {start : ν} {last : Presented}
    {accepted : Token}
    (h : ((session network settings history (fresh start)).2.present network settings last).result =
      .ok accepted) :
    ∃ keys header published,
      (trafficOf network settings (history ++ [last]) start).lastKeys? = some keys ∧
        Header.ofToken last.token = .ok header ∧ Jwt.admits settings header.algorithm ∧
        keys.find? header.keyId = some published ∧
        answer settings last.now header last.token published = .ok accepted := by
  have current := session_current network settings history (fresh start) []
    (by simp [KeyCache.Current, fresh])
  rw [(present_eq network settings last _).1] at h
  generalize hbackend : (session network settings history (fresh start)).2 = backend at h current
  obtain ⟨-, found⟩ := validated_current network settings last.now backend.network last.token
    current
  rcases result : (validated network settings last.now last.token backend.network
    backend.keys).result with error | token
  · simp [result, Except.mapError] at h
  · obtain rfl : token = accepted := by simpa [result, Except.mapError] using h
    obtain ⟨keys, sent, header, published, hheader, admitted, picked, hanswer⟩ := found token result
    refine ⟨keys, header, published, ?_, hheader, admitted, picked, hanswer⟩
    rw [trafficOf_eq, passed_append, hbackend]
    simpa [passed] using sent

end Backend

end BearerLogin
