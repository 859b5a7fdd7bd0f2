import BearerLogin.Proofs.Validator.Refresh

/-! Holding keys changes no answer while the identity provider sends always the same: whatever is
held and whether a refresh is due, a token has the answer of a validator that requests the keys for
each token anew. -/

namespace BearerLogin

open Jwt

namespace Network

/-- A network gives the same reply to a request however often it is sent in a row. -/
def Repeats (network : Network ν) (request : Request) (reply : Reply) (start : ν) : Prop :=
  ∀ n, (network.send request ((fun state => (network.send request state).2)^[n] start)).1 = reply

variable {network : Network ν} {request : Request} {reply : Reply} {start : ν}

theorem Repeats.first (repeats : network.Repeats request reply start) :
    (network.send request start).1 = reply := repeats 0

theorem Repeats.rest (repeats : network.Repeats request reply start) :
    network.Repeats request reply (network.send request start).2 := by
  intro n
  have later := repeats (n + 1)
  rw [Function.iterate_succ_apply] at later
  exact later

end Network

namespace Script

/-- What a network that follows a script does with a request that has a scripted reply. -/
def replyOf : ScriptedReply → Reply
  | .drop => .lost
  | .respond status body complete => .answered status body complete

variable {script : Script} {request : Request} {scripted : ScriptedReply}

theorem next_of_single {key : String}
    (listed : script.replies.find? (fun r => r.1 == keyOf request) = some (key, [scripted])) :
    script.next request = scripted := by
  unfold next
  simp only [listed]
  rcases (script.received.filter fun r => keyOf r == keyOf request).length with _ | n
  · rfl
  · rfl

theorem send_of_single {key : String} (plain : request.url.scheme = "http")
    (listed : script.replies.find? (fun r => r.1 == keyOf request) = some (key, [scripted])) :
    Script.network.send request script =
      (replyOf scripted, { script with received := script.received ++ [request] }) := by
  unfold network
  simp only [plain, ne_eq, not_true_eq_false, if_false, next_of_single listed]
  rcases scripted with _ | ⟨status, body, complete⟩
  · rfl
  · rfl

/-- A script with one reply to a request gives it always. -/
theorem repeats_of_single {key : String} (plain : request.url.scheme = "http")
    (listed : script.replies.find? (fun r => r.1 == keyOf request) = some (key, [scripted])) :
    Script.network.Repeats request (replyOf scripted) script := by
  intro n
  induction n generalizing script with
  | zero => exact congrArg Prod.fst (send_of_single plain listed)
  | succ n ih =>
    rw [Function.iterate_succ_apply, send_of_single plain listed]
    exact ih listed

end Script

namespace Jwt

/-- The answer for a token where the keys are requested anew and this is the reply. -/
def verdict (settings : JwtSettings) (reply : Reply) (presented : Presented) :
    Except TokenError Token :=
  match Header.ofToken presented.token with
  | .error fault => .error (.invalidFormat fault.message)
  | .ok header =>
    if admits settings header.algorithm then
      ((keysIn settings.keysUrl reply).bind (pick header.keyId)).bind
        (answer settings presented.now header presented.token)
    else .error (.unsupportedAlgorithm header.algorithm.name)

/-- From here on the same reply comes always, and the held keys, if any, are the ones in it. -/
structure Steady (network : Network ν) (settings : JwtSettings) (reply : Reply) (state : ν)
    (cache : KeyCache) : Prop where
  repeats : network.Repeats (keysRequest settings.keysUrl) reply state
  held : ∀ keys since, cache.held = some (keys, since) → keysIn settings.keysUrl reply = .ok keys

/-- A step has the result that the reply has, and what comes after it is steady again. -/
def Course.FollowsReply (course : Course ν α) (network : Network ν) (settings : JwtSettings)
    (reply : Reply) (result : Except TokenError α) : Prop :=
  course.result = result ∧ Steady network settings reply course.network course.cache

section

variable {network : Network ν} {settings : JwtSettings} {reply : Reply} (now : Instant) {state : ν}
  {cache : KeyCache}

theorem requested_follows (steady : Steady network settings reply state cache) :
    (requested network settings now state cache).FollowsReply network settings reply
      (keysIn settings.keysUrl reply) := by
  have result : (requested network settings now state cache).result =
      keysIn settings.keysUrl reply := by
    rw [requested_result, steady.repeats.first]
  refine ⟨result, ?_, ?_⟩
  · rw [requested_network]
    split
    · exact steady.repeats.rest
    · exact steady.repeats
  · intro keys since held
    rw [cache_requested, result] at held
    rcases sent : keysIn settings.keysUrl reply with error | brought
    · rw [sent] at held
      rw [← sent]
      exact steady.held keys since held
    · rw [sent] at held
      cases held
      rfl

theorem fetched_follows (steady : Steady network settings reply state cache) :
    (fetched network settings now state cache).FollowsReply network settings reply
      (keysIn settings.keysUrl reply) := by
  obtain ⟨keys, fresh, course⟩ | ⟨-, course⟩ := fetched_cases network settings now state cache
  · obtain ⟨since, held⟩ := fresh?_held now fresh
    rw [course]
    exact ⟨(steady.held keys since held).symm, steady⟩
  · rw [course]
    exact requested_follows now steady

theorem located_follows (keyId : Option String)
    (steady : Steady network settings reply state cache) :
    (located network settings now keyId state cache).FollowsReply network settings reply
      ((keysIn settings.keysUrl reply).bind (pick keyId)) := by
  obtain ⟨result, after⟩ := fetched_follows now steady
  obtain ⟨course, -⟩ | ⟨keys, -, -, -, course⟩ :=
    located_cases network settings now state cache keyId
  · rw [course, result]
    exact ⟨rfl, after⟩
  · have emptied : Steady network settings reply (fetched network settings now state cache).network
        { lastForced := some now } :=
      ⟨after.repeats, by simp⟩
    obtain ⟨again, renewed⟩ := requested_follows now emptied
    rw [course, refreshed_eq]
    exact ⟨congrArg (Except.bind · (pick keyId)) again, renewed⟩

theorem validated_follows (presented : Presented)
    (steady : Steady network settings reply state cache) :
    (validated network settings presented.now presented.token state cache).FollowsReply network
      settings reply (verdict settings reply presented) := by
  unfold validated verdict
  rcases Header.ofToken presented.token with fault | header
  · exact ⟨rfl, steady⟩
  · obtain ⟨result, after⟩ := located_follows presented.now header.keyId steady
    dsimp only
    split
    · exact ⟨congrArg (Except.bind · _) result, after⟩
    · exact ⟨rfl, steady⟩

end

end Jwt

namespace Backend

variable {network : Network ν} {settings : JwtSettings} {reply : Reply}

theorem fresh_steady {start : ν}
    (repeats : network.Repeats (keysRequest settings.keysUrl) reply start) :
    Steady network settings reply (fresh start).network (fresh start).keys :=
  ⟨repeats, by simp [fresh]⟩

theorem present_steady (presented : Presented) {backend : Backend ν}
    (steady : Steady network settings reply backend.network backend.keys) :
    (backend.present network settings presented).result =
        (verdict settings reply presented).mapError TokenError.toAuthError ∧
      Steady network settings reply (backend.present network settings presented).next.network
        (backend.present network settings presented).next.keys := by
  obtain ⟨result, after⟩ := validated_follows presented steady
  obtain ⟨answered, next⟩ := present_eq network settings presented backend
  rw [answered, next, result]
  exact ⟨rfl, after⟩

theorem session_steady (history : List Presented) {backend : Backend ν}
    (steady : Steady network settings reply backend.network backend.keys) :
    (session network settings history backend).1 =
      history.map fun presented =>
        (verdict settings reply presented).mapError TokenError.toAuthError := by
  induction history generalizing backend with
  | nil => rfl
  | cons presented rest ih =>
    obtain ⟨answered, after⟩ := present_steady presented steady
    rw [List.map_cons, ← answered, ← ih after]
    rfl

/-- While an identity provider replies always alike, each token of a session has the answer that a
fresh validator gives to it alone, however long keys are held and refreshes are put off. -/
theorem session_eq_map_fresh (network : Network ν) (settings : JwtSettings) (reply : Reply)
    (start : ν) (repeats : network.Repeats (keysRequest settings.keysUrl) reply start)
    (expirySeconds refreshPauseSeconds : Nat) (history : List Presented) :
    (session network { settings with expirySeconds, refreshPauseSeconds } history
        (fresh start)).1 =
      history.map fun presented => ((fresh start).present network settings presented).result := by
  have steady : Steady network { settings with expirySeconds, refreshPauseSeconds } reply
      (fresh start).network (fresh start).keys := fresh_steady repeats
  rw [session_steady history steady]
  apply List.map_congr_left
  intro presented _
  rw [(present_steady presented (fresh_steady repeats)).1]
  rfl

end Backend

namespace Shared

open Backend

/-- The scripted form of the reply that publishes the key. -/
def scripted : ScriptedReply :=
  .respond 200 (Text.utf8 "\x7b\"keys\":[\x7b\"kty\":\"oct\",\"k\":\"aw\"\x7d]\x7d") true

/-- A script that publishes the key always. -/
def publishing : Script where
  replies := [(Script.keyOf (keysRequest keysUrl), [scripted])]

theorem publishing_repeats :
    Script.network.Repeats (keysRequest keysUrl) (Script.replyOf scripted) publishing := by
  have listed : publishing.replies.find?
      (fun r => r.1 == Script.keyOf (keysRequest keysUrl)) = some (_, [scripted]) :=
    List.find?_cons_of_pos (beq_self_eq_true _)
  exact Script.repeats_of_single rfl listed

theorem unheld_answers_alike :
    (session Script.network { settings none with expirySeconds := 0, refreshPauseSeconds := 0 }
        [issued, renamed, issued] (fresh publishing)).1 =
      [((fresh publishing).present Script.network (settings none) issued).result,
        ((fresh publishing).present Script.network (settings none) renamed).result,
        ((fresh publishing).present Script.network (settings none) issued).result] :=
  session_eq_map_fresh Script.network (settings none) reply publishing publishing_repeats 0 0 _

end Shared

end BearerLogin
