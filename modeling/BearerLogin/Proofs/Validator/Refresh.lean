import BearerLogin.Network.Transcript
import BearerLogin.Proofs.Validator.Acceptance

/-! Forced refreshes.  A token that asks for a key that is not among the held ones makes a validator
give these up and request keys anew, unless it did so only recently.  When that request fails, the
validator holds no keys any more. -/

namespace BearerLogin

open Jwt

namespace Jwt

/-- The request for the keys at a URL. -/
def keysRequest (url : Url) : Request where
  method := "GET"
  url := url.withoutUser.withoutFragment
  authorization := Request.urlAuthorization url

/-- What becomes of a request for the keys at a URL that has this reply. -/
def keysIn (url : Url) (reply : Reply) : Except TokenError KeySet :=
  let exchange := (Network.constant reply).exchange url { method := "GET", url } ()
  (keysOf url exchange.1).mapError fun fault => .keysUnavailable fault.message

section

variable (network : Network ν) (settings : JwtSettings) (now : Instant) (state : ν)
  (cache : KeyCache)

theorem requested_result :
    (requested network settings now state cache).result =
      keysIn settings.keysUrl (network.send (keysRequest settings.keysUrl) state).1 := by
  unfold requested keysIn Network.exchange
  by_cases buildable : Request.canRequest (Request.reported settings.keysUrl)
  · simp only [buildable, if_true, Network.constant, List.append_nil, keysRequest]
    rcases network.send _ state with ⟨_ | ⟨status, body, complete⟩, next⟩
    · rfl
    · dsimp only
      rcases keysOf settings.keysUrl _ with fault | keys <;> rfl
  · simp only [buildable, Bool.false_eq_true, if_false]
    rfl

theorem requested_network :
    (requested network settings now state cache).network =
      if Request.canRequest (Request.reported settings.keysUrl) then
        (network.send (keysRequest settings.keysUrl) state).2
      else state := by
  unfold requested Network.exchange
  by_cases buildable : Request.canRequest (Request.reported settings.keysUrl)
  · simp only [buildable, if_true, List.append_nil, keysRequest]
    rcases network.send _ state with ⟨_ | ⟨status, body, complete⟩, next⟩
    · rfl
    · dsimp only
      rcases keysOf settings.keysUrl _ with fault | keys <;> rfl
  · simp only [buildable, Bool.false_eq_true, if_false]
    rfl

theorem requested_traffic :
    (requested network settings now state cache).traffic =
      if Request.canRequest (Request.reported settings.keysUrl) then
        [(keysRequest settings.keysUrl, (network.send (keysRequest settings.keysUrl) state).1)]
      else [] := by
  unfold requested
  dsimp only
  rcases keysOf settings.keysUrl _ with fault | keys <;> simp [Network.traffic, keysRequest]

theorem requested_error {error : TokenError}
    (h : (requested network settings now state cache).result = .error error) :
    ∃ detail, error = .keysUnavailable detail := by
  rw [requested_result] at h
  obtain ⟨fault, -, rfl⟩ := mapError_eq_error.mp h
  exact ⟨fault.message, rfl⟩

theorem toOption_keysIn (reply : Reply)
    (buildable : Request.canRequest (Request.reported settings.keysUrl) = true) :
    (keysIn settings.keysUrl reply).toOption = reply.keys? := by
  have sets := keySets_requested (Network.constant reply) settings ⟨0, 0⟩ () {}
  rw [requested_traffic, if_pos buildable, requested_result] at sets
  have single : Traffic.keySets [(keysRequest settings.keysUrl, reply)] = reply.keys?.toList := by
    rcases keys : reply.keys? with _ | found <;> simp [Traffic.keySets, keys]
  have heads := congrArg List.head? (sets.symm.trans single)
  rw [Option.head?_toList, Option.head?_toList] at heads
  exact heads

theorem requested_buildable
    (buildable : Request.canRequest (Request.reported settings.keysUrl) = true) :
    requested network settings now state cache =
      { result := (requested network settings now state cache).result
        cache := (requested network settings now state cache).cache
        network := (network.send (keysRequest settings.keysUrl) state).2
        traffic := [(keysRequest settings.keysUrl,
          (network.send (keysRequest settings.keysUrl) state).1)] } := by
  have after := requested_network network settings now state cache
  have traffic := requested_traffic network settings now state cache
  rw [if_pos buildable] at after traffic
  rw [← after, ← traffic]

/-- A request for keys that brings some. -/
theorem requested_good {keys : KeySet}
    (buildable : Request.canRequest (Request.reported settings.keysUrl) = true)
    (good : (network.send (keysRequest settings.keysUrl) state).1.keys? = some keys) :
    requested network settings now state cache =
      { result := .ok keys
        cache := { cache with held := some (keys, now) }
        network := (network.send (keysRequest settings.keysUrl) state).2
        traffic := [(keysRequest settings.keysUrl,
          (network.send (keysRequest settings.keysUrl) state).1)] } := by
  have brought := toOption_keysIn settings
    (network.send (keysRequest settings.keysUrl) state).1 buildable
  rw [good, ← requested_result network settings now state cache] at brought
  have result := eq_ok_of_toOption brought
  rw [requested_buildable network settings now state cache buildable]
  simp only [cache_requested, result]

/-- A request for keys that brings none. -/
theorem requested_bad
    (buildable : Request.canRequest (Request.reported settings.keysUrl) = true)
    (bad : (network.send (keysRequest settings.keysUrl) state).1.keys? = none) :
    ∃ error, requested network settings now state cache =
      { result := .error error
        cache := cache
        network := (network.send (keysRequest settings.keysUrl) state).2
        traffic := [(keysRequest settings.keysUrl,
          (network.send (keysRequest settings.keysUrl) state).1)] } := by
  have missed := toOption_keysIn settings
    (network.send (keysRequest settings.keysUrl) state).1 buildable
  rw [bad, ← requested_result network settings now state cache] at missed
  rcases result : (requested network settings now state cache).result with error | keys
  · refine ⟨error, ?_⟩
    rw [requested_buildable network settings now state cache buildable]
    simp only [cache_requested, result]
  · rw [result] at missed
    cases missed

theorem fetched_unheld (unheld : cache.held = none) :
    fetched network settings now state cache = requested network settings now state cache := by
  unfold fetched KeyCache.fresh?
  rw [unheld]

theorem fetched_cases :
    (∃ keys, cache.fresh? now settings.expirySeconds = some keys ∧
        fetched network settings now state cache =
          { result := .ok keys, cache, network := state }) ∨
      cache.fresh? now settings.expirySeconds = none ∧
        fetched network settings now state cache =
          requested network settings now state cache := by
  unfold fetched
  rcases cache.fresh? now settings.expirySeconds with _ | keys
  · exact .inr ⟨rfl, rfl⟩
  · exact .inl ⟨keys, rfl, rfl⟩

theorem lastForced_fetched :
    (fetched network settings now state cache).cache.lastForced = cache.lastForced := by
  obtain ⟨keys, -, held⟩ | ⟨-, requested⟩ := fetched_cases network settings now state cache
  · rw [held]
  · rw [requested, cache_requested]
    rcases (Jwt.requested network settings now state cache).result with error | keys <;> rfl

theorem refusesRefresh_fetched (seconds : Nat) :
    (fetched network settings now state cache).cache.refusesRefresh now seconds =
      cache.refusesRefresh now seconds := by
  unfold KeyCache.refusesRefresh
  rw [lastForced_fetched]

/-- A refresh requests keys: none are held while it goes on. -/
theorem refreshed_eq (keyId : Option String) (first : Course ν KeySet) :
    refreshed network settings now keyId first =
      let again := requested network settings now first.network { lastForced := some now }
      { again with
        result := again.result.bind (pick keyId)
        traffic := first.traffic ++ again.traffic } := rfl

/-- The key for a token is looked up among the fetched ones, unless it is unknown there and no
refresh was forced recently. -/
theorem located_cases (keyId : Option String) :
    let first := fetched network settings now state cache
    (located network settings now keyId state cache =
          { first with result := first.result.bind (pick keyId) } ∧
        ∀ keys, first.result = .ok keys → keys.find? keyId = none →
          cache.refusesRefresh now settings.refreshPauseSeconds = true) ∨
      ∃ keys, first.result = .ok keys ∧ keys.find? keyId = none ∧
        cache.refusesRefresh now settings.refreshPauseSeconds = false ∧
        located network settings now keyId state cache =
          refreshed network settings now keyId first := by
  unfold located
  dsimp only
  rw [refusesRefresh_fetched]
  rcases first : (fetched network settings now state cache).result with error | keys
  · exact .inl ⟨rfl, by simp⟩
  · by_cases due : cache.refusesRefresh now settings.refreshPauseSeconds = true
    · exact .inl ⟨by simp [due, Except.bind], fun _ _ _ => due⟩
    · rw [Bool.not_eq_true] at due
      rcases known : keys.find? keyId with _ | published
      · exact .inr ⟨keys, rfl, known, due, by simp [due, known]⟩
      · refine .inl ⟨by simp [known, Except.bind], fun others same unknown => ?_⟩
        obtain rfl : keys = others := Except.ok.inj same
        rw [known] at unknown
        cases unknown

/-- Keys are looked up for a token only if its header is in order and its algorithm admitted. -/
theorem validated_cases (token : String) :
    ((∀ header, Header.ofToken token = .ok header → admits settings header.algorithm = false) ∧
        ∃ error, (∀ detail, error ≠ .keyNotFound detail) ∧
          validated network settings now token state cache =
            { result := .error error, cache, network := state }) ∨
      ∃ header, Header.ofToken token = .ok header ∧ admits settings header.algorithm = true ∧
        validated network settings now token state cache =
          let found := located network settings now header.keyId state cache
          { found with result := found.result.bind (answer settings now header token) } := by
  unfold validated
  rcases Header.ofToken token with fault | header
  · exact .inl ⟨by simp, .invalidFormat fault.message, by simp, rfl⟩
  · by_cases admitted : admits settings header.algorithm = true
    · exact .inr ⟨header, rfl, admitted, by simp [admitted]⟩
    · rw [Bool.not_eq_true] at admitted
      refine .inl ⟨?_, .unsupportedAlgorithm header.algorithm.name, by simp, by simp [admitted]⟩
      intro other same
      obtain rfl : header = other := Except.ok.inj same
      exact admitted

end

/-- A token forces a refresh: it asks for a key that is not among the held ones, and the last such
token was long enough ago. -/
def ForcesRefresh (settings : JwtSettings) (cache : KeyCache) (keys : KeySet)
    (presented : Presented) : Prop :=
  ∃ header, Header.ofToken presented.token = .ok header ∧
    admits settings header.algorithm = true ∧ keys.find? header.keyId = none ∧
    cache.refusesRefresh presented.now settings.refreshPauseSeconds = false

section

variable (network : Network ν) (settings : JwtSettings) {presented : Presented} (state : ν)
  {cache : KeyCache} {keys : KeySet}

/-- Keys are looked up among the held ones first. -/
theorem located_held {now : Instant} (keyId : Option String)
    (held : cache.fresh? now settings.expirySeconds = some keys) :
    located network settings now keyId state cache =
      if (keys.find? keyId).isNone &&
          !cache.refusesRefresh now settings.refreshPauseSeconds then
        refreshed network settings now keyId { result := .ok keys, cache, network := state }
      else { result := pick keyId keys, cache, network := state } := by
  unfold located fetched
  simp only [held]

/-- What a token does that forces a refresh. -/
theorem validated_forced {header : Header}
    (held : cache.fresh? presented.now settings.expirySeconds = some keys)
    (header_eq : Header.ofToken presented.token = .ok header)
    (admitted : admits settings header.algorithm = true)
    (unknown : keys.find? header.keyId = none)
    (due : cache.refusesRefresh presented.now settings.refreshPauseSeconds = false) :
    validated network settings presented.now presented.token state cache =
      let again := requested network settings presented.now state
        { lastForced := some presented.now }
      { again with
        result := (again.result.bind (pick header.keyId)).bind
          (answer settings presented.now header presented.token) } := by
  unfold validated
  simp only [header_eq, admitted, if_true]
  rw [located_held network settings state header.keyId held]
  simp only [unknown, due, Option.isNone_none, Bool.not_false, Bool.and_self, if_true,
    refreshed_eq, List.nil_append]

/-- A token that forces no refresh leaves a validator that holds keys as it is. -/
theorem validated_unforced
    (held : cache.fresh? presented.now settings.expirySeconds = some keys)
    (unforced : ¬ForcesRefresh settings cache keys presented) :
    let course := validated network settings presented.now presented.token state cache
    course.cache = cache ∧ course.traffic = [] := by
  unfold validated
  rcases header_eq : Header.ofToken presented.token with fault | header
  · exact ⟨rfl, rfl⟩
  · by_cases admitted : admits settings header.algorithm = true
    · have kept : ¬((keys.find? header.keyId).isNone &&
          !cache.refusesRefresh presented.now settings.refreshPauseSeconds) = true := by
        intro forced
        rw [Bool.and_eq_true, Option.isNone_iff_eq_none, Bool.not_eq_true'] at forced
        exact unforced ⟨header, header_eq, admitted, forced⟩
      simp only [admitted, if_true]
      rw [located_held network settings state header.keyId held, if_neg kept]
      exact ⟨rfl, rfl⟩
    · simp only [admitted]
      exact ⟨rfl, rfl⟩

end

end Jwt

namespace Backend

variable (network : Network ν) (settings : JwtSettings)

/-- What passes over a network while a token is validated. -/
def sent (presented : Presented) (backend : Backend ν) : Traffic :=
  ((backend.withTraffic []).present network.noting settings presented).next.network.2

theorem sent_eq (presented : Presented) (backend : Backend ν) :
    backend.sent network settings presented =
      (validated network settings presented.now presented.token backend.network
        backend.keys).traffic := by
  unfold sent
  rw [(present_noting network settings presented backend []).2]
  rfl

theorem keys_present (presented : Presented) (backend : Backend ν) :
    (backend.present network settings presented).next.keys =
      (validated network settings presented.now presented.token backend.network
        backend.keys).cache := by
  rw [(present_eq network settings presented backend).2]

/-- No token is accepted without a request by a validator that holds no keys. -/
theorem sent_of_accepted {backend : Backend ν} {presented : Presented} {accepted : Token}
    (unheld : backend.keys.held = none)
    (h : (backend.present network settings presented).result = .ok accepted) :
    backend.sent network settings presented ≠ [] := by
  rw [(present_eq network settings presented backend).1, mapError_eq_ok] at h
  have current : backend.keys.Current [] := by
    intro keys since held
    rw [unheld] at held
    cases held
  obtain ⟨-, found⟩ := validated_current network settings presented.now backend.network
    presented.token current
  obtain ⟨keys, last, -⟩ := found accepted h
  rw [sent_eq]
  intro none
  rw [none] at last
  cases last

/-- Where no keys are held and the request for them fails, a token is refused. -/
theorem refused_unserved {backend : Backend ν} {presented : Presented} {header : Header}
    (unheld : backend.keys.held = none) (header_eq : Header.ofToken presented.token = .ok header)
    (admitted : admits settings header.algorithm = true)
    (buildable : Request.canRequest (Request.reported settings.keysUrl) = true)
    (bad : (network.send (keysRequest settings.keysUrl) backend.network).1.keys? = none) :
    (∃ error, (backend.present network settings presented).result = .error error) ∧
      (backend.sent network settings presented).length = 1 := by
  obtain ⟨error, failed⟩ :=
    requested_bad network settings presented.now backend.network backend.keys buildable bad
  rw [(present_eq network settings presented backend).1, sent_eq]
  unfold validated located
  simp only [header_eq, admitted, if_true, fetched_unheld network settings presented.now
    backend.network backend.keys unheld, failed]
  exact ⟨⟨error.toAuthError, rfl⟩, rfl⟩

/-- A validator that holds keys loses them exactly if a token forces a refresh and the request for
keys fails; from then on no token is accepted without another request. -/
theorem held_keys_lost_iff (backend : Backend ν) (presented : Presented) (keys : KeySet)
    (held : backend.keys.fresh? presented.now settings.expirySeconds = some keys) :
    let next := (backend.present network settings presented).next
    (¬ForcesRefresh settings backend.keys keys presented → next.keys = backend.keys ∧
        backend.sent network settings presented = []) ∧
      (next.keys.held = none ↔ ForcesRefresh settings backend.keys keys presented ∧
        (backend.sent network settings presented).keySets = []) ∧
      (next.keys.held = none → ∀ later accepted,
        (next.present network settings later).result = .ok accepted →
          next.sent network settings later ≠ []) := by
  have kept : ¬ForcesRefresh settings backend.keys keys presented →
      (backend.present network settings presented).next.keys = backend.keys ∧
        backend.sent network settings presented = [] := by
    intro unforced
    rw [keys_present, sent_eq]
    exact validated_unforced network settings backend.network held unforced
  refine ⟨kept, ?_, fun unheld later accepted => sent_of_accepted network settings unheld⟩
  by_cases forced : ForcesRefresh settings backend.keys keys presented
  · have forces := forced
    obtain ⟨header, header_eq, admitted, unknown, due⟩ := forces
    rw [keys_present, sent_eq, validated_forced network settings backend.network held header_eq
      admitted unknown due, keySets_requested, cache_requested]
    rcases (requested network settings presented.now backend.network
      { lastForced := some presented.now }).result with error | brought
    · simp [forced, Except.toOption]
    · simp [Except.toOption]
  · obtain ⟨since, stored⟩ := fresh?_held presented.now held
    rw [(kept forced).1, stored]
    simp [forced]

end Backend

namespace Shared

open Backend

/-- The token `issued` under a header that asks for the key `k`. -/
def renamed : Presented where
  token :=
    "eyJhbGciOiJIUzI1NiIsImtpZCI6ImsifQ.eyJleHAiOjk5OTk5OTk5OTksInN1YiI6ImEiLCJpc3MiOiJpIn0." ++
      "EAUw_Ac38Ctsr4kZbp7fmDhmucBD-7OcPc88SeMcwzk"
  now := ⟨1785000000, 0⟩

theorem header_issued : Header.ofToken issued.token = .ok ⟨.hs256, none⟩ :=
  eq_ok_of_toOption fits_issued.1

theorem header_renamed : Header.ofToken renamed.token = .ok ⟨.hs256, some "k"⟩ := by
  apply eq_ok_of_toOption
  decide +kernel

theorem answer_issued : ∃ accepted,
    answer (settings none) issued.now ⟨.hs256, none⟩ issued.token published = .ok accepted := by
  obtain ⟨accepted, answered⟩ := Option.isSome_iff_exists.mp fits_issued.2
  exact ⟨accepted, eq_ok_of_toOption answered⟩

/-- A network that sends the published key once and fails from then on. -/
def failing : Transcript where
  replies := [reply, .answered 500 [] true]

theorem admitted_hs256 (audience : Option String) :
    admits (settings audience) .hs256 = true := by
  simp [admits, settings]
  decide

/-- What a validator is like that was sent the published key for `issued`. -/
theorem next_issued (network : Network ν) (start : ν) (refreshPauseSeconds : Nat)
    (first : (network.send (keysRequest keysUrl) start).1 = reply) :
    ((fresh start).present network { settings none with refreshPauseSeconds } issued).next =
      { network := (network.send (keysRequest keysUrl) start).2
        now := issued.now
        keys := { held := some (⟨[published]⟩, issued.now) } } := by
  have sent : fetched network { settings none with refreshPauseSeconds } issued.now start {} = _ :=
    requested_good network { settings none with refreshPauseSeconds } issued.now start {} buildable
      ((congrArg Reply.keys? first).trans keys?_reply)
  have admitted : admits { settings none with refreshPauseSeconds } .hs256 = true :=
    admitted_hs256 none
  rw [(present_eq network { settings none with refreshPauseSeconds } issued (fresh start)).2]
  unfold validated
  simp only [header_issued, admitted, if_true]
  unfold located
  simp only [fresh, sent]
  rfl

/-- A validator that has accepted `issued` over this network. -/
def holding : Backend Transcript :=
  ((fresh failing).present Transcript.network (settings none) issued).next

theorem holding_eq : holding =
    { network := { replies := [.answered 500 [] true] }
      now := issued.now
      keys := { held := some (⟨[published]⟩, issued.now) } } :=
  next_issued Transcript.network failing 1 rfl

theorem holds_published :
    holding.keys.fresh? renamed.now (settings none).expirySeconds = some ⟨[published]⟩ := by
  rw [holding_eq]
  rfl

theorem renamed_forces : ForcesRefresh (settings none) holding.keys ⟨[published]⟩ renamed := by
  refine ⟨⟨.hs256, some "k"⟩, header_renamed, admitted_hs256 none, by decide, ?_⟩
  rw [holding_eq]
  rfl

/-- What `renamed` does to a validator that holds the published key over this network. -/
theorem validated_renamed : ∃ error,
    validated Transcript.network (settings none) renamed.now renamed.token holding.network
        holding.keys =
      { result := .error error
        cache := { lastForced := some renamed.now }
        network := {}
        traffic := [(keysRequest keysUrl, .answered 500 [] true)] } := by
  obtain ⟨header, header_eq, admitted, unknown, due⟩ := renamed_forces
  rw [validated_forced Transcript.network (settings none) holding.network holds_published
    header_eq admitted unknown due]
  obtain ⟨error, failed⟩ := requested_bad Transcript.network (settings none) renamed.now
    holding.network { lastForced := some renamed.now } buildable (by rw [holding_eq]; rfl)
  rw [failed]
  refine ⟨error, ?_⟩
  rw [holding_eq]
  rfl

theorem failed_renamed :
    (holding.sent Transcript.network (settings none) renamed).keySets = [] := by
  obtain ⟨error, course⟩ := validated_renamed
  rw [sent_eq, course]
  rfl

theorem renamed_empties :
    (holding.present Transcript.network (settings none) renamed).next.keys.held = none := by
  obtain ⟨-, lost, -⟩ := held_keys_lost_iff Transcript.network (settings none) holding renamed
    ⟨[published]⟩ holds_published
  exact lost.mpr ⟨renamed_forces, failed_renamed⟩

/-- While the published key is held, `issued` is accepted without a request. -/
theorem issued_while_held :
    (∃ accepted, (holding.present Transcript.network (settings none) issued).result =
        .ok accepted) ∧
      holding.sent Transcript.network (settings none) issued = [] := by
  have course : validated Transcript.network (settings none) issued.now issued.token
      holding.network holding.keys =
        { result := answer (settings none) issued.now ⟨.hs256, none⟩ issued.token published
          cache := holding.keys
          network := holding.network } := by
    unfold validated
    simp only [header_issued, admitted_hs256, if_true]
    have held : holding.keys.fresh? issued.now (settings none).expirySeconds =
        some ⟨[published]⟩ := holds_published
    have known : KeySet.find? ⟨[published]⟩ none = some published := by decide
    rw [located_held Transcript.network (settings none) holding.network none held]
    simp only [pick, known, Option.isNone_some, Bool.false_and, Bool.false_eq_true, if_false,
      Except.bind]
  constructor
  · obtain ⟨accepted, answered⟩ := answer_issued
    refine ⟨accepted, ?_⟩
    rw [(present_eq Transcript.network (settings none) issued holding).1, course, answered]
    rfl
  · rw [sent_eq, course]

/-- A token that the held keys are enough for is accepted without a request before a forced refresh
fails; after it, a request is made and the token is refused. -/
theorem issued_refused_after_refresh :
    ForcesRefresh (settings none) holding.keys ⟨[published]⟩ renamed ∧
      (holding.sent Transcript.network (settings none) renamed).keySets = [] ∧
      (∃ accepted, (holding.present Transcript.network (settings none) issued).result =
        .ok accepted) ∧
      holding.sent Transcript.network (settings none) issued = [] ∧
      let after := (holding.present Transcript.network (settings none) renamed).next
      after.keys.held = none ∧
        (∃ error, (after.present Transcript.network (settings none) issued).result =
          .error error) ∧
        (after.sent Transcript.network (settings none) issued).length = 1 := by
  obtain ⟨error, course⟩ := validated_renamed
  have after := (present_eq Transcript.network (settings none) renamed holding).2
  rw [course] at after
  obtain ⟨accepted, silent⟩ := issued_while_held
  refine ⟨renamed_forces, failed_renamed, accepted, silent, ?_⟩
  rw [after]
  exact ⟨rfl, refused_unserved Transcript.network (settings none) rfl header_issued
    (admitted_hs256 none) buildable rfl⟩

end Shared

end BearerLogin
