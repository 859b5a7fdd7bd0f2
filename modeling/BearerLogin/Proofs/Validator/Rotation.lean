import BearerLogin.Proofs.Validator.Origin
import BearerLogin.Proofs.Validator.Requests

/-! What a validator holds when the published keys change.  The held keys are always the last ones
that were sent; a key that is not found was looked up among keys that were fetched for this very
token, unless the pause between refreshes forbade it; and a key that is published anew is found at
its first use. -/

namespace BearerLogin

open Jwt

namespace TokenError

/-- Only a key that is not found has the wording of one. -/
theorem eq_keyNotFound {error : TokenError} {detail : String}
    (h : error.toAuthError = .validation ("Key not found: " ++ detail)) :
    error = keyNotFound detail := by
  cases error with
  | keyNotFound other =>
    have wording := AuthError.validation.inj h
    unfold message at wording
    rw [(String.append_right_inj _).mp wording]
  | endpointStatus status => cases h
  | http text => cases h
  | _ =>
    have wording := AuthError.validation.inj h
    unfold message at wording
    have texts := congrArg String.toList wording
    simp at texts

end TokenError

namespace Jwt

theorem answer_ne_keyNotFound {settings : JwtSettings} {now : Instant} {header : Header}
    {token : String} {published : PublishedKey} {detail : String} :
    answer settings now header token published ≠ .error (.keyNotFound detail) := by
  intro missing
  have about := answer_only settings now header token published _ missing
  cases about

section

variable (network : Network ν) (settings : JwtSettings) (now : Instant) (state : ν)
  (cache : KeyCache)

theorem fetched_ne_keyNotFound (detail : String) :
    (fetched network settings now state cache).result ≠ .error (.keyNotFound detail) := by
  intro h
  obtain ⟨keys, -, course⟩ | ⟨-, course⟩ := fetched_cases network settings now state cache
  · rw [course] at h
    cases h
  · rw [course] at h
    obtain ⟨text, same⟩ := requested_error network settings now state cache h
    cases same

theorem pick_eq_error {keyId : Option String} {keys : KeySet} {error : TokenError}
    (h : pick keyId keys = .error error) : keys.find? keyId = none := by
  unfold pick at h
  split at h
  · cases h
  · assumption

/-- A key that is not found was looked up among keys that were fetched for it, unless a refresh was
not due. -/
theorem located_keyNotFound (keyId : Option String) (detail : String)
    (h : (located network settings now keyId state cache).result =
      .error (.keyNotFound detail)) :
    cache.refusesRefresh now settings.refreshPauseSeconds = true ∨
      ∃ keys, (located network settings now keyId state cache).traffic.lastKeys? = some keys ∧
        keys.find? keyId = none := by
  obtain ⟨course, refused⟩ | ⟨keys, -, -, -, course⟩ :=
    located_cases network settings now state cache keyId
  · rw [course] at h
    obtain first | ⟨keys, found, unknown⟩ := bind_eq_error.mp h
    · exact absurd first (fetched_ne_keyNotFound network settings now state cache detail)
    · exact .inl (refused keys found (pick_eq_error unknown))
  · have again := fetched_ne_keyNotFound network settings now
      (fetched network settings now state cache).network { lastForced := some now } detail
    rw [course, refreshed_eq] at h ⊢
    obtain failed | ⟨renewed, brought, unknown⟩ := bind_eq_error.mp h
    · exact absurd failed again
    · have sets := keySets_requested network settings now
        (fetched network settings now state cache).network { lastForced := some now }
      rw [brought] at sets
      refine .inr ⟨renewed, ?_, pick_eq_error unknown⟩
      unfold Traffic.lastKeys?
      rw [Traffic.keySets_append, sets]
      exact List.getLast?_concat

end

end Jwt

namespace Backend

variable (network : Network ν) (settings : JwtSettings)

theorem present_keyNotFound {presented : Presented} {backend : Backend ν} {detail : String}
    (h : (backend.present network settings presented).result =
      .error (.validation ("Key not found: " ++ detail))) :
    backend.keys.refusesRefresh presented.now settings.refreshPauseSeconds = true ∨
      ∃ header keys, Header.ofToken presented.token = .ok header ∧
        (backend.sent network settings presented).lastKeys? = some keys ∧
        keys.find? header.keyId = none := by
  rw [(present_eq network settings presented backend).1] at h
  obtain ⟨error, failed, wording⟩ := mapError_eq_error.mp h
  obtain rfl := TokenError.eq_keyNotFound wording
  rw [sent_eq]
  obtain ⟨-, other, otherwise, course⟩ | ⟨header, header_eq, -, course⟩ := validated_cases network
    settings presented.now backend.network backend.keys presented.token
  · rw [course] at failed
    exact absurd (Except.error.inj failed) (otherwise detail)
  · rw [course] at failed ⊢
    obtain missing | ⟨published, -, answered⟩ := bind_eq_error.mp failed
    · obtain refused | ⟨keys, last, unknown⟩ := located_keyNotFound network settings presented.now
        backend.network backend.keys header.keyId detail missing
      · exact .inl refused
      · exact .inr ⟨header, keys, header_eq, last, unknown⟩
    · exact absurd answered answer_ne_keyNotFound

/-- A refresh was last forced at an instant of the session. -/
theorem session_lastForced (history : List Presented) (backend : Backend ν) {since : Instant}
    (forced : (session network settings history backend).2.keys.lastForced = some since) :
    backend.keys.lastForced = some since ∨ ∃ presented ∈ history, presented.now = since := by
  induction history generalizing backend with
  | nil => exact .inl forced
  | cons presented rest ih =>
    obtain later | ⟨other, member, instant⟩ := ih _ forced
    · rw [keys_present] at later
      obtain before | rfl :=
        (validated_dated network settings presented backend.network backend.keys).2 since later
      · exact .inl before
      · exact .inr ⟨presented, List.mem_cons_self, rfl⟩
    · exact .inr ⟨other, List.mem_cons_of_mem presented member, instant⟩

/-- The held keys are the last ones that were sent. -/
theorem session_held (history : List Presented) (start : ν) {keys : KeySet} {since : Instant}
    (held : (session network settings history (fresh start)).2.keys.held = some (keys, since)) :
    (trafficOf network settings history start).lastKeys? = some keys := by
  have current := session_current network settings history (fresh start) []
    (by simp [KeyCache.Current, fresh])
  rw [List.nil_append, ← trafficOf_eq] at current
  exact current keys since held

/-- Without a pause a refresh is due for every token, as long as the clock does not run back. -/
theorem refresh_due {history : List Presented} {start : ν} {presented : Presented}
    (unpaused : settings.refreshPauseSeconds = 0)
    (forwards : ∀ earlier ∈ history, presented.now.before earlier.now = false) :
    (session network settings history (fresh start)).2.keys.refusesRefresh presented.now
      settings.refreshPauseSeconds = false := by
  unfold KeyCache.refusesRefresh
  rcases forced : (session network settings history (fresh start)).2.keys.lastForced with _ | since
  · rfl
  · obtain never | ⟨earlier, member, rfl⟩ := session_lastForced network settings history _ forced
    · cases never
    · have still := forwards earlier member
      rw [unpaused]
      simpa [KeyCache.within, Instant.plusSeconds] using still

/-- The keys that a validator holds were sent to it, so they can be requested. -/
theorem buildable_of_held {history : List Presented} {start : ν} {keys : KeySet} {since : Instant}
    (held : (session network settings history (fresh start)).2.keys.held = some (keys, since)) :
    Request.canRequest (Request.reported settings.keysUrl) = true := by
  have last := session_held network settings history start held
  obtain ⟨exchange, member, -⟩ := List.mem_filterMap.mp (List.mem_of_getLast? last)
  rw [trafficOf_eq] at member
  exact (passed_forKeys network settings history (fresh start) exchange member).1

/-- The held keys have none for a token, and the keys that come next have one with which the token
is accepted. -/
def Rotated (backend : Backend ν) (presented : Presented) (accepted : Token) : Prop :=
  ∃ header held served published key payload,
    Header.ofToken presented.token = .ok header ∧ admits settings header.algorithm = true ∧
      backend.keys.fresh? presented.now settings.expirySeconds = some held ∧
      held.find? header.keyId = none ∧
      (network.send (keysRequest settings.keysUrl) backend.network).1.keys? = some served ∧
      served.find? header.keyId = some published ∧ published.toKey = .ok key ∧
      verifiedPayload settings presented.now header.algorithm key presented.token = .ok payload ∧
      tokenOf settings payload = .ok accepted

theorem Rotated.held {network : Network ν} {settings : JwtSettings} {backend : Backend ν}
    {presented : Presented} {accepted : Token}
    (rotated : Rotated network settings backend presented accepted) :
    ∃ keys since, backend.keys.held = some (keys, since) := by
  obtain ⟨header, keys, -, -, -, -, -, -, fresh, -⟩ := rotated
  exact ⟨keys, fresh?_held presented.now fresh⟩

theorem accepted_of_rotated {backend : Backend ν} {presented : Presented} {accepted : Token}
    (buildable : Request.canRequest (Request.reported settings.keysUrl) = true)
    (due : backend.keys.refusesRefresh presented.now settings.refreshPauseSeconds = false)
    (rotated : Rotated network settings backend presented accepted) :
    (backend.present network settings presented).result = .ok accepted ∧
      (backend.sent network settings presented).length = 1 := by
  obtain ⟨header, held, served, published, key, payload, header_eq, admitted, fresh, unknown, sent,
    known, toKey, verified, named⟩ := rotated
  have answered : answer settings presented.now header presented.token published =
      .ok accepted := by
    unfold answer
    simp only [toKey, verified, Except.bind, Except.mapError, named]
  have brought := requested_good network settings presented.now backend.network
    { lastForced := some presented.now } buildable sent
  rw [(present_eq network settings presented backend).1, sent_eq,
    validated_forced network settings backend.network fresh header_eq admitted unknown due, brought]
  simp only [pick, known, Except.bind, answered]
  exact ⟨rfl, rfl⟩

/-- The held keys, if any, are the last ones that were sent.  A key that is not found was looked up
among keys that were fetched for this token, unless a refresh was not due.  Without a pause, a token
is accepted with one request as soon as its key is published. -/
theorem keys_coherent (network : Network ν) (settings : JwtSettings) (history : List Presented)
    (start : ν) (presented : Presented) :
    let backend := (session network settings history (fresh start)).2
    (backend.keys.held = none ∨ ∃ keys since, backend.keys.held = some (keys, since) ∧
        (trafficOf network settings history start).lastKeys? = some keys) ∧
      (∀ detail, (backend.present network settings presented).result =
          .error (.validation ("Key not found: " ++ detail)) →
        backend.keys.refusesRefresh presented.now settings.refreshPauseSeconds = true ∨
          ∃ header keys, Header.ofToken presented.token = .ok header ∧
            (backend.sent network settings presented).lastKeys? = some keys ∧
            keys.find? header.keyId = none) ∧
      (settings.refreshPauseSeconds = 0 →
        (∀ earlier ∈ history, presented.now.before earlier.now = false) →
          ∀ accepted, Rotated network settings backend presented accepted →
            (backend.present network settings presented).result = .ok accepted ∧
              (backend.sent network settings presented).length = 1) := by
  refine ⟨?_, fun detail => present_keyNotFound network settings, ?_⟩
  · rcases held : (session network settings history (fresh start)).2.keys.held with _ | ⟨keys, since⟩
    · exact .inl rfl
    · exact .inr ⟨keys, since, rfl, session_held network settings history start held⟩
  · intro unpaused forwards accepted rotated
    obtain ⟨keys, since, held⟩ := rotated.held
    exact accepted_of_rotated network settings (buildable_of_held network settings held)
      (refresh_due network settings unpaused forwards) rotated

end Backend

namespace Shared

open Backend

/-- The published key under the name `k`. -/
def named : PublishedKey := { published with keyId := some "k" }

/-- A reply that publishes the key under this name. -/
def namingReply : Reply :=
  .answered 200 (Text.utf8
    "\x7b\"keys\":[\x7b\"kid\":\"k\",\"kty\":\"oct\",\"k\":\"aw\"\x7d]\x7d") true

theorem keys?_namingReply : namingReply.keys? = some ⟨[named]⟩ := by
  cbv

/-- Settings without a pause between refreshes. -/
def unpaused : JwtSettings := { settings none with refreshPauseSeconds := 0 }

/-- A network that publishes the key without a name first, then under this name. -/
def rotating : Transcript where
  replies := [reply, namingReply]

theorem session_issued (network : Network ν) (start : ν)
    (first : (network.send (keysRequest keysUrl) start).1 = reply) :
    (session network unpaused [issued] (fresh start)).2 =
      { network := (network.send (keysRequest keysUrl) start).2
        now := issued.now
        keys := { held := some (⟨[published]⟩, issued.now) } } := by
  have after := next_issued network start 0 first
  unfold unpaused
  simpa only [session] using after

theorem forwards_renamed : ∀ earlier ∈ [issued], renamed.now.before earlier.now = false := by
  intro earlier member
  rw [List.mem_singleton.mp member]
  rfl

theorem fits_renamed : (answer unpaused renamed.now ⟨.hs256, some "k"⟩ renamed.token
    named).toOption.isSome = true := by
  decide +kernel

theorem unpaused_admits : admits unpaused .hs256 = true :=
  admitted_hs256 none

theorem rotated_renamed : ∃ accepted, Rotated Transcript.network unpaused
    (session Transcript.network unpaused [issued] (fresh rotating)).2 renamed accepted := by
  obtain ⟨accepted, answered⟩ := Option.isSome_iff_exists.mp fits_renamed
  obtain ⟨key, payload, claims, toKey, verified, accepts⟩ :=
    answer_eq_ok.mp (eq_ok_of_toOption answered)
  rw [session_issued Transcript.network rotating rfl]
  exact ⟨accepted, ⟨.hs256, some "k"⟩, ⟨[published]⟩, ⟨[named]⟩, named, key, payload,
    header_renamed, unpaused_admits, rfl, by decide, keys?_namingReply, by decide,
    toKey, verifiedPayload_eq_ok.mpr ⟨claims, verified⟩, accepts⟩

/-- Where the key is not published under this name, `renamed` does not find it. -/
theorem renamed_not_found :
    ((session (Network.constant reply) unpaused [issued] (fresh ())).2.present
      (Network.constant reply) unpaused renamed).result =
        .error (.validation ("Key not found: " ++ "k")) := by
  rw [session_issued (Network.constant reply) () rfl,
    (present_eq (Network.constant reply) unpaused renamed _).1]
  have held : KeyCache.fresh? { held := some (⟨[published]⟩, issued.now) } renamed.now
      unpaused.expirySeconds = some ⟨[published]⟩ := rfl
  rw [validated_forced (Network.constant reply) unpaused () held header_renamed
      (admitted_hs256 none) (by decide) rfl,
    requested_good (Network.constant reply) unpaused renamed.now () _ buildable keys?_reply]
  rfl

theorem renamed_found_when_published :
    (∃ accepted, ((session Transcript.network unpaused [issued] (fresh rotating)).2.present
        Transcript.network unpaused renamed).result = .ok accepted) ∧
      ((session Transcript.network unpaused [issued] (fresh rotating)).2.sent Transcript.network
        unpaused renamed).length = 1 ∧
      ∃ keys, ((session (Network.constant reply) unpaused [issued] (fresh ())).2.sent
          (Network.constant reply) unpaused renamed).lastKeys? = some keys ∧
        keys.find? (some "k") = none := by
  obtain ⟨-, -, found⟩ := keys_coherent Transcript.network unpaused [issued] rotating renamed
  obtain ⟨accepted, rotated⟩ := rotated_renamed
  obtain ⟨accepts, once⟩ := found rfl forwards_renamed accepted rotated
  obtain ⟨-, missing, -⟩ := keys_coherent (Network.constant reply) unpaused [issued] () renamed
  obtain refused | ⟨header, keys, header_eq, last, unknown⟩ := missing "k" renamed_not_found
  · rw [refresh_due (Network.constant reply) unpaused rfl forwards_renamed] at refused
    cases refused
  · rw [header_renamed] at header_eq
    cases header_eq
    exact ⟨⟨accepted, accepts⟩, once, keys, last, unknown⟩

end Shared

end BearerLogin
