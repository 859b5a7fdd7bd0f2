import BearerLogin.Proofs.Validator.Refresh

/-! How many requests a validator sends.  A token costs two requests at most.  While keys are held
and no refresh is due again, a whole session costs two successful ones at most: a request succeeds
only when no keys are held, and they are given up only once. -/

namespace BearerLogin

open Jwt

namespace Jwt

section

variable (network : Network ν) (settings : JwtSettings) (now : Instant) (state : ν)
  (cache : KeyCache)

theorem length_fetched :
    (fetched network settings now state cache).traffic.length ≤ 1 := by
  obtain ⟨keys, -, held⟩ | ⟨-, unheld⟩ := fetched_cases network settings now state cache
  · rw [held]
    exact Nat.zero_le 1
  · rw [unheld, requested_traffic]
    split <;> simp

theorem length_located (keyId : Option String) :
    (located network settings now keyId state cache).traffic.length ≤ 2 := by
  have first := length_fetched network settings now state cache
  obtain ⟨course, -⟩ | ⟨keys, -, -, -, course⟩ :=
    located_cases network settings now state cache keyId
  · rw [course]
    exact Nat.le_succ_of_le first
  · have again := length_fetched network settings now
      (fetched network settings now state cache).network { lastForced := some now }
    rw [course, refreshed]
    simp only [List.length_append]
    omega

/-- All requests of a step are requests for keys that can be sent, with the replies of the
network. -/
def Course.ForKeys (course : Course ν α) (url : Url) : Prop :=
  ∀ exchange ∈ course.traffic, Request.canRequest (Request.reported url) = true ∧ ∃ before,
    exchange = (keysRequest url, (network.send (keysRequest url) before).1)

theorem fetched_forKeys :
    (fetched network settings now state cache).ForKeys network settings.keysUrl := by
  intro exchange member
  obtain ⟨keys, -, held⟩ | ⟨-, unheld⟩ := fetched_cases network settings now state cache
  · rw [held] at member
    cases member
  · rw [unheld, requested_traffic] at member
    split at member
    · next buildable => exact ⟨buildable, state, List.mem_singleton.mp member⟩
    · cases member

theorem located_forKeys (keyId : Option String) :
    (located network settings now keyId state cache).ForKeys network settings.keysUrl := by
  have first := fetched_forKeys network settings now state cache
  obtain ⟨course, -⟩ | ⟨keys, -, -, -, course⟩ :=
    located_cases network settings now state cache keyId
  · rw [course]
    exact first
  · have again := fetched_forKeys network settings now
      (fetched network settings now state cache).network { lastForced := some now }
    rw [course, refreshed]
    intro exchange member
    rcases List.mem_append.mp member with earlier | later
    · exact first exchange earlier
    · exact again exchange later

/-- What is remembered comes from before a step or is of the instant of the step. -/
def Course.Dated (course : Course ν α) (before : KeyCache) : Prop :=
  (∀ keys since, course.cache.held = some (keys, since) →
      before.held = some (keys, since) ∨ since = now) ∧
    ∀ since, course.cache.lastForced = some since →
      before.lastForced = some since ∨ since = now

theorem fetched_dated : (fetched network settings now state cache).Dated now cache := by
  refine ⟨fun keys since held => ?_, fun since forced => ?_⟩
  · obtain ⟨found, -, course⟩ | ⟨-, course⟩ := fetched_cases network settings now state cache
    · rw [course] at held
      exact .inl held
    · rw [course, cache_requested] at held
      rcases result : (requested network settings now state cache).result with error | brought
      · rw [result] at held
        exact .inl held
      · rw [result] at held
        cases held
        exact .inr rfl
  · rw [lastForced_fetched] at forced
    exact .inl forced

theorem located_dated (keyId : Option String) :
    (located network settings now keyId state cache).Dated now cache := by
  obtain ⟨course, -⟩ | ⟨keys, -, -, -, course⟩ :=
    located_cases network settings now state cache keyId
  · rw [course]
    exact fetched_dated network settings now state cache
  · obtain ⟨again, forced⟩ := fetched_dated network settings now
      (fetched network settings now state cache).network { lastForced := some now }
    rw [course, refreshed]
    refine ⟨fun keys since held => ?_, fun since stamp => ?_⟩
    · rcases again keys since held with none | instant
      · cases none
      · exact .inr instant
    · rcases forced since stamp with same | instant
      · cases same
        exact .inr rfl
      · exact .inr instant

/-- Held keys count as one and a forced refresh as another one. -/
def KeyCache.worth (cache : KeyCache) : Nat :=
  cache.held.toList.length + cache.lastForced.toList.length

theorem KeyCache.worth_le : cache.worth ≤ 2 := by
  unfold worth
  rcases cache with ⟨_ | held, _ | forced⟩ <;> simp

/-- The held keys are fresh, and no refresh is due again. -/
def KeyCache.Lasts (cache : KeyCache) : Prop :=
  (∀ keys since, cache.held = some (keys, since) →
      KeyCache.within now since settings.expirySeconds = true) ∧
    ∀ since, cache.lastForced = some since →
      KeyCache.within now since settings.refreshPauseSeconds = true

/-- Each set of keys that is sent in a step adds to the worth of what is remembered. -/
def Course.PaysFor (course : Course ν α) (before : KeyCache) : Prop :=
  course.traffic.keySets.length + before.worth ≤ course.cache.worth

theorem requested_paysFor (unheld : cache.held = none) :
    (requested network settings now state cache).PaysFor cache := by
  unfold Course.PaysFor KeyCache.worth
  rw [keySets_requested, cache_requested, unheld]
  rcases (requested network settings now state cache).result with error | keys
  · simp [unheld, Except.toOption]
  · simp [Except.toOption]

variable {cache}

theorem fetched_paysFor (lasts : cache.Lasts settings now) :
    (fetched network settings now state cache).PaysFor cache := by
  obtain ⟨keys, -, course⟩ | ⟨stale, course⟩ := fetched_cases network settings now state cache
  · rw [course]
    exact Nat.le_of_eq (Nat.zero_add _)
  · rw [course]
    apply requested_paysFor
    rcases held : cache.held with _ | ⟨keys, since⟩
    · rfl
    · unfold KeyCache.fresh? at stale
      simp only [held, lasts.1 keys since held, if_true] at stale
      cases stale

theorem located_paysFor (keyId : Option String) (lasts : cache.Lasts settings now) :
    (located network settings now keyId state cache).PaysFor cache := by
  have first := fetched_paysFor network settings now state lasts
  obtain ⟨course, -⟩ | ⟨keys, found, -, due, course⟩ :=
    located_cases network settings now state cache keyId
  · rw [course]
    exact first
  · -- No refresh was forced before, or else it would not be due.
    have unforced : cache.lastForced = none := by
      rcases forced : cache.lastForced with _ | since
      · rfl
      · unfold KeyCache.refusesRefresh at due
        simp only [forced, lasts.2 since forced] at due
        cases due
    have before : (fetched network settings now state cache).cache.worth ≤ 1 := by
      unfold KeyCache.worth
      rw [lastForced_fetched, unforced]
      rcases (fetched network settings now state cache).cache.held with _ | held <;> simp
    have again : ((requested network settings now
        (fetched network settings now state cache).network
          { lastForced := some now }).PaysFor { lastForced := some now }) :=
      requested_paysFor network settings now _ { lastForced := some now } rfl
    rw [course, refreshed_eq]
    unfold Course.PaysFor at first again ⊢
    dsimp only
    rw [Traffic.keySets_append, List.length_append]
    have forced : KeyCache.worth { lastForced := some now } = 1 := rfl
    omega

end

end Jwt

namespace Backend

variable (network : Network ν) (settings : JwtSettings)

/-- Whatever is presented, keys that are held stay fresh and no second refresh is due. -/
def Lasting (history : List Presented) : Prop :=
  history.Pairwise fun earlier later =>
    KeyCache.within later.now earlier.now settings.expirySeconds = true ∧
      KeyCache.within later.now earlier.now settings.refreshPauseSeconds = true

instance (history : List Presented) : Decidable (Lasting settings history) :=
  inferInstanceAs (Decidable (List.Pairwise _ _))

/-- A token whose header is not in order, or whose algorithm is not admitted. -/
def Unadmitted (presented : Presented) : Prop :=
  ∀ header, Header.ofToken presented.token = .ok header →
    admits settings header.algorithm = false

theorem validated_dated (presented : Presented) (state : ν) (cache : KeyCache) :
    (validated network settings presented.now presented.token state cache).Dated presented.now
      cache := by
  obtain ⟨-, error, -, course⟩ | ⟨header, -, -, course⟩ :=
    validated_cases network settings presented.now state cache presented.token
  · rw [course]
    exact ⟨fun _ _ held => .inl held, fun _ forced => .inl forced⟩
  · rw [course]
    exact located_dated network settings presented.now state cache header.keyId

theorem sent_forKeys (presented : Presented) (backend : Backend ν) :
    ∀ exchange ∈ backend.sent network settings presented,
      Request.canRequest (Request.reported settings.keysUrl) = true ∧ ∃ before,
        exchange = (keysRequest settings.keysUrl,
          (network.send (keysRequest settings.keysUrl) before).1) := by
  rw [sent_eq]
  obtain ⟨-, error, -, course⟩ | ⟨header, -, -, course⟩ := validated_cases network settings
    presented.now backend.network backend.keys presented.token
  · rw [course]
    intro exchange member
    cases member
  · rw [course]
    exact located_forKeys network settings presented.now backend.network backend.keys header.keyId

theorem length_sent (presented : Presented) (backend : Backend ν) :
    (backend.sent network settings presented).length ≤ 2 := by
  rw [sent_eq]
  obtain ⟨-, error, -, course⟩ | ⟨header, -, -, course⟩ := validated_cases network settings
    presented.now backend.network backend.keys presented.token
  · rw [course]
    exact Nat.zero_le 2
  · rw [course]
    exact length_located network settings presented.now backend.network backend.keys header.keyId

theorem sent_unadmitted {presented : Presented} (backend : Backend ν)
    (unadmitted : Unadmitted settings presented) :
    backend.sent network settings presented = [] := by
  rw [sent_eq]
  obtain ⟨-, error, -, course⟩ | ⟨header, header_eq, admitted, -⟩ := validated_cases network
    settings presented.now backend.network backend.keys presented.token
  · rw [course]
  · rw [unadmitted header header_eq] at admitted
    cases admitted

theorem sent_paysFor {presented : Presented} {backend : Backend ν}
    (lasts : backend.keys.Lasts settings presented.now) :
    (backend.sent network settings presented).keySets.length + backend.keys.worth ≤
      (backend.present network settings presented).next.keys.worth := by
  rw [sent_eq, keys_present]
  obtain ⟨-, error, -, course⟩ | ⟨header, -, -, course⟩ := validated_cases network settings
    presented.now backend.network backend.keys presented.token
  · rw [course]
    exact Nat.le_of_eq (Nat.zero_add _)
  · rw [course]
    exact located_paysFor network settings presented.now backend.network header.keyId lasts

theorem passed_cons (presented : Presented) (rest : List Presented) (backend : Backend ν) :
    passed network settings (presented :: rest) backend =
      backend.sent network settings presented ++
        passed network settings rest (backend.present network settings presented).next := by
  rw [sent_eq]
  rfl

theorem passed_forKeys (history : List Presented) (backend : Backend ν) :
    ∀ exchange ∈ passed network settings history backend,
      Request.canRequest (Request.reported settings.keysUrl) = true ∧ ∃ before,
        exchange = (keysRequest settings.keysUrl,
          (network.send (keysRequest settings.keysUrl) before).1) := by
  induction history generalizing backend with
  | nil =>
    intro exchange member
    cases member
  | cons presented rest ih =>
    intro exchange member
    rw [passed_cons] at member
    rcases List.mem_append.mp member with now | later
    · exact sent_forKeys network settings presented backend exchange now
    · exact ih _ exchange later

theorem lasts_present {presented : Presented} {rest : List Presented} {backend : Backend ν}
    (lasting : Lasting settings (presented :: rest))
    (lasts : ∀ later ∈ presented :: rest, backend.keys.Lasts settings later.now) :
    ∀ later ∈ rest,
      (backend.present network settings presented).next.keys.Lasts settings later.now := by
  intro later member
  have apart := List.rel_of_pairwise_cons lasting member
  have before := lasts later (List.mem_cons_of_mem presented member)
  obtain ⟨held, forced⟩ := validated_dated network settings presented backend.network backend.keys
  rw [keys_present]
  refine ⟨fun keys since stored => ?_, fun since stamp => ?_⟩
  · rcases held keys since stored with old | rfl
    · exact before.1 keys since old
    · exact apart.1
  · rcases forced since stamp with old | rfl
    · exact before.2 since old
    · exact apart.2

/-- During a lasting session each set of keys that is sent adds to the worth of what is
remembered. -/
theorem passed_paysFor {history : List Presented} {backend : Backend ν}
    (lasting : Lasting settings history)
    (lasts : ∀ presented ∈ history, backend.keys.Lasts settings presented.now) :
    (passed network settings history backend).keySets.length + backend.keys.worth ≤
      (session network settings history backend).2.keys.worth := by
  induction history generalizing backend with
  | nil => exact Nat.le_of_eq (Nat.zero_add _)
  | cons presented rest ih =>
    have now := sent_paysFor network settings
      (lasts presented (List.mem_cons_self (l := rest)))
    have later := ih (List.Pairwise.of_cons lasting)
      (lasts_present network settings lasting lasts)
    rw [passed_cons, Traffic.keySets_append, List.length_append]
    show _ ≤ (session network settings rest
      (backend.present network settings presented).next).2.keys.worth
    omega

end Backend

/-- A request either brings keys or fails. -/
theorem Traffic.length_eq (traffic : Traffic) :
    traffic.length = traffic.keySets.length + traffic.countP fun exchange =>
      exchange.2.keys?.isNone := by
  induction traffic with
  | nil => rfl
  | cons exchange rest ih =>
    rcases brought : exchange.2.keys? with _ | keys
    · simp only [keySets, List.filterMap_cons, List.countP_cons, brought, List.length_cons] at ih ⊢
      simp
      omega
    · simp only [keySets, List.filterMap_cons, List.countP_cons, brought, List.length_cons] at ih ⊢
      simp
      omega

namespace Backend

/-- All requests of a session are requests for keys, two at most for each token and none for a token
that is not admitted.  In a session that is short enough for keys to stay fresh and for no refresh
to be due again, two of them succeed at most. -/
theorem requests_bounded (network : Network ν) (settings : JwtSettings) (history : List Presented)
    (start : ν) :
    (∀ exchange ∈ trafficOf network settings history start,
        exchange.1 = keysRequest settings.keysUrl) ∧
      (∀ (backend : Backend ν) presented,
        (backend.sent network settings presented).length ≤ 2 ∧
          (Unadmitted settings presented → backend.sent network settings presented = [])) ∧
      (Lasting settings history →
        (trafficOf network settings history start).keySets.length ≤ 2 ∧
          (trafficOf network settings history start).length ≤
            2 + (trafficOf network settings history start).countP
              (fun exchange => exchange.2.keys?.isNone) ∧
          ((∀ exchange ∈ trafficOf network settings history start,
              exchange.2.keys?.isSome = true) →
            (trafficOf network settings history start).length ≤ 2)) := by
  refine ⟨?_, fun backend presented => ?_, fun lasting => ?_⟩
  · intro exchange member
    rw [trafficOf_eq] at member
    obtain ⟨-, before, rfl⟩ :=
      passed_forKeys network settings history (fresh start) exchange member
    rfl
  · exact ⟨length_sent network settings presented backend,
      sent_unadmitted network settings backend⟩
  · have lasts : ∀ presented ∈ history,
        (fresh start).keys.Lasts settings presented.now := by
      intro presented _
      constructor
      · intro keys since held
        cases held
      · intro since forced
        cases forced
    have paid := passed_paysFor network settings lasting lasts
    have most := KeyCache.worth_le (session network settings history (fresh start)).2.keys
    rw [← trafficOf_eq] at paid
    have two : (trafficOf network settings history start).keySets.length ≤ 2 := by omega
    have all := Traffic.length_eq (trafficOf network settings history start)
    refine ⟨two, by omega, fun good => ?_⟩
    have none : (trafficOf network settings history start).countP
        (fun exchange => exchange.2.keys?.isNone) = 0 := by
      rw [List.countP_eq_zero]
      intro exchange member
      simp [Option.isSome_iff_ne_none.mp (good exchange member)]
    omega

end Backend

namespace Shared

open Backend

/-- A token without a header. -/
def headless : Presented where
  token := "a.b"
  now := ⟨1785000000, 0⟩

theorem headless_unadmitted : Unadmitted (settings none) headless := by
  intro header header_eq
  have refused : (Header.ofToken headless.token).toOption = none := by decide +kernel
  rw [header_eq] at refused
  cases refused

theorem two_requests_at_most :
    (trafficOf (Network.constant reply) (settings none) [issued, renamed, headless, renamed]
        ()).length ≤ 2 ∧
      (fresh ()).sent (Network.constant reply) (settings none) headless = [] := by
  obtain ⟨-, tokens, lasting⟩ := requests_bounded (Network.constant reply) (settings none)
    [issued, renamed, headless, renamed] ()
  obtain ⟨-, -, good⟩ := lasting (by decide)
  refine ⟨good fun exchange member => ?_, (tokens (fresh ()) headless).2 headless_unadmitted⟩
  rw [trafficOf_eq] at member
  obtain ⟨-, before, rfl⟩ := passed_forKeys _ _ _ _ exchange member
  show reply.keys?.isSome = true
  rw [keys?_reply]
  rfl

end Shared

end BearerLogin
