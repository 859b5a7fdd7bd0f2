import BearerLogin.Proofs.TokenEndpoint.Attempts
import BearerLogin.Proofs.Url.Form

/-! The course of a purchase.  As long as the attempts can be counted, the network receives the one
request of the client once for each of them, and the last answer alone decides what comes of it. -/

namespace BearerLogin.TokenEndpoint

variable {network : Network ν} {client : Client} {endpoint : Url} {clientId secret : String}
  {state : ν} {k : Nat}

/-! ### The requests of all attempts -/

section

variable {url : Url} {draft : Request} {earlier : Traffic}

/-- What `n` attempts put on a network. -/
def trafficOfAttempts (network : Network ν) (url : Url) (draft : Request) (state : ν) (n : Nat) :
    Traffic :=
  (List.range n).flatMap fun i =>
    network.traffic url draft (stateAfter (network.exchange url draft) state i)

theorem stateAfter_noting (n : Nat) :
    stateAfter (network.noting.exchange url draft) (state, earlier) n =
      (stateAfter (network.exchange url draft) state n,
        earlier ++ trafficOfAttempts network url draft state n) := by
  induction n generalizing state earlier with
  | zero => simp [stateAfter, trafficOfAttempts]
  | succ n ih =>
    have first : trafficOfAttempts network url draft state (n + 1) =
        network.traffic url draft state ++
          trafficOfAttempts network url draft (network.exchange url draft state).2 n := by
      simp only [trafficOfAttempts, List.range_succ_eq_map, List.flatMap_cons, List.flatMap_map]
      rfl
    rw [stateAfter, Network.exchange_noting, ih, first, List.append_assoc]
    rfl

theorem resultAfter_noting (n : Nat) :
    resultAfter (network.noting.exchange url draft) (state, earlier) n =
      resultAfter (network.exchange url draft) state n := by
  rw [resultAfter, stateAfter_noting, Network.exchange_noting]
  rfl

theorem trafficOfAttempts_requests (n : Nat) :
    (trafficOfAttempts network url draft state n).map Prod.fst =
      if Request.canRequest (Request.reported url) then List.replicate n (draft.sentTo url)
      else [] := by
  have each (state : ν) : (network.traffic url draft state).map Prod.fst =
      if Request.canRequest (Request.reported url) then [draft.sentTo url] else [] := by
    unfold Network.traffic
    split <;> rfl
  rw [trafficOfAttempts, List.map_flatMap]
  simp only [each]
  split
  · rw [← List.map_eq_flatMap, List.map_const', List.length_range]
  · simp

end

/-- The network receives the same request with every attempt. -/
theorem requests_of_countable (last : Last network client endpoint clientId secret state k)
    (countable : ¬Uncountable network client endpoint clientId secret state) :
    requests network client endpoint clientId secret state =
      if Request.canRequest (Request.reported endpoint) then
        List.replicate (k + 1) ((client.request endpoint clientId secret).sentTo endpoint)
      else [] := by
  have noted : IsLast (network.noting.exchange endpoint (client.request endpoint clientId secret))
      client.retries (state, []) k :=
    (last_iff.mp last).congr fun i => by rw [resultAfter_noting]
  have countableNoted :
      ¬Overflows (network.noting.exchange endpoint (client.request endpoint clientId secret))
        client.retries (state, []) := by
    intro overflows
    refine countable ⟨overflows.1, fun i below => ?_⟩
    have retryable := overflows.2 i below
    rwa [resultAfter_noting] at retryable
  unfold requests acquire
  simp only [attempts_of_countable noted countableNoted, stateAfter_noting, List.nil_append]
  exact trafficOfAttempts_requests (k + 1)

/-! ### The answer that decides -/

/-- An answer brings a token: it is a success whose body is a grant of that token. -/
inductive Brings : Except HttpFault Response → String → Prop
  | granted {status : Nat} {body : List UInt8} {grant : Grant} {token : String}
      (success : 200 ≤ status ∧ status < 300) (read : Grant.ofBytes? body = some grant)
      (given : grant.accessToken = some token) (nonempty : token ≠ "") :
      Brings (.ok ⟨status, some body⟩) token

theorem tokenIn_eq_ok {answer : Except HttpFault Response} {token : String} :
    (tokenIn answer).1 = .ok token ↔ Brings answer token := by
  constructor
  · intro bought
    rcases answer with fault | ⟨status, body⟩
    · cases bought
    · simp only [tokenIn] at bought
      split at bought
      · cases bought
      · next success =>
        split at bought
        · cases bought
        · next grant read =>
          split at bought
          · next given =>
            cases bought
            obtain ⟨body, rfl, read⟩ := Option.bind_eq_some_iff.mp read
            obtain ⟨given, nonempty⟩ := Option.filter_eq_some_iff.mp given
            exact .granted (by omega) read given (of_decide_eq_true nonempty)
          · cases bought
  · rintro ⟨success, read, given, nonempty⟩
    have kept : Option.filter (fun token => decide (token ≠ "")) (some token) = some token :=
      Option.filter_eq_some_iff.mpr ⟨rfl, decide_eq_true nonempty⟩
    simp only [tokenIn, Option.bind_some, read, given, kept]
    rw [if_neg (by omega)]

/-- The answer to a request that cannot be made. -/
theorem answerAfter_of_unbuildable
    (unbuildable : Request.canRequest (Request.reported endpoint) = false) (n : Nat) :
    answerAfter network client endpoint clientId secret state n =
      .error (.unbuildable (Request.reported endpoint).render) := by
  rw [answerAfter, resultAfter, Network.exchange_eq, if_neg (by simp [unbuildable])]

theorem last_of_unbuildable (last : Last network client endpoint clientId secret state k)
    (unbuildable : Request.canRequest (Request.reported endpoint) = false) : k = 0 := by
  rcases k with _ | k
  · rfl
  · have transient := last.before 0 (Nat.succ_pos k)
    rw [answerAfter_of_unbuildable unbuildable] at transient
    cases transient

/-- What is bought is decided by the result of all attempts. -/
theorem acquire_result :
    (acquire network client endpoint clientId secret state).result =
      (tokenIn (purchase network client endpoint clientId secret state).result).1.mapError
        fun error => .transport error.message :=
  rfl

theorem acquire_of_countable (last : Last network client endpoint clientId secret state k)
    (countable : ¬Uncountable network client endpoint clientId secret state) :
    (acquire network client endpoint clientId secret state).result =
      (tokenIn (answerAfter network client endpoint clientId secret state k)).1.mapError
        fun error => .transport error.message := by
  rw [acquire_result, (purchase_of_countable last countable).1]

theorem countable_of_lt (few : client.retries < maxAttempts) :
    ¬Uncountable network client endpoint clientId secret state :=
  fun uncountable => absurd uncountable.1 (Nat.not_le_of_lt few)

/-- The course of a purchase whose attempts can be counted.  The attempts go on until an answer is
neither a lost connection nor a failure of the server, or until there are no retries left; the
network receives the same request with each of them, if it can be made at all; and the last answer
alone decides, as a failure of transport or with the token that it brings. -/
theorem last_answer_decides (network : Network ν) (client : Client) (endpoint : Url)
    (clientId secret : String) (state : ν)
    (countable : ¬Uncountable network client endpoint clientId secret state) :
    let request := (client.request endpoint clientId secret).sentTo endpoint
    let sent := requests network client endpoint clientId secret state
    let answer := answerAfter network client endpoint clientId secret state
    let result := (acquire network client endpoint clientId secret state).result
    ∃ k, StopsAt (fun i => Transient (answer i)) client.retries k ∧
      purchaseAttempts network client endpoint clientId secret state = k + 1 ∧
      (if Request.canRequest (Request.reported endpoint) then sent = List.replicate (k + 1) request
        else sent = [] ∧ k = 0 ∧
          answer k = .error (.unbuildable (Request.reported endpoint).render)) ∧
      request.contentType = some "application/x-www-form-urlencoded" ∧
      Url.Percent.readForm? request.body = some (("grant_type", "client_credentials") ::
        ((client.scope.toList.map (("scope", ·))) ++
          (client.audience.toList.map (("audience", ·))))) ∧
      result = (tokenIn (answer k)).1.mapError (fun error => .transport error.message) ∧
      (∀ token, result = .ok token ↔ Brings (answer k) token) ∧
      (∀ i ≤ k, ∀ response, answer i = .ok response →
        response.status < 500 ∨ 600 ≤ response.status → i = k) ∧
      (∀ error, result = .error error → ∃ detail, error = .transport detail) := by
  intro request sent answer result
  obtain ⟨k, last⟩ := exists_stopsAt (fun i => Transient (answer i)) client.retries
  have decided : result = (tokenIn (answer k)).1.mapError fun error => .transport error.message :=
    acquire_of_countable last countable
  have sent_eq := requests_of_countable last countable
  refine ⟨k, last, (purchase_of_countable last countable).2, ?_, rfl,
    Url.Percent.readForm?_form client.form, decided, ?_, ?_, ?_⟩
  · split
    · next buildable => rwa [if_pos buildable] at sent_eq
    · next unbuildable =>
      rw [if_neg unbuildable] at sent_eq
      rw [Bool.not_eq_true] at unbuildable
      exact ⟨sent_eq, last_of_unbuildable last unbuildable,
        answerAfter_of_unbuildable unbuildable k⟩
  · intro token
    rw [decided, mapError_eq_ok, tokenIn_eq_ok]
  · intro i within response answered settled
    by_contra other
    have transient := last.before i (Nat.lt_of_le_of_ne within other)
    rw [answered] at transient
    cases transient with
    | serverFault least most => omega
  · intro error failed
    rw [decided] at failed
    obtain ⟨cause, -, rfl⟩ := mapError_eq_error.mp failed
    exact ⟨cause.message, rfl⟩

/-- Without any connection the request is sent once more for each retry. -/
theorem requests_when_lost :
    requests (Network.constant .lost) { retries := 2 } plainEndpoint "a" "s" () =
      List.replicate 3
        (({ retries := 2 } : Client).request plainEndpoint "a" "s" |>.sentTo plainEndpoint) := by
  have course := last_answer_decides (Network.constant .lost) { retries := 2 } plainEndpoint "a" "s"
    () (countable_of_lt (by decide))
  obtain ⟨k, last, -, sent, -⟩ := course
  rw [if_pos canRequest_plainEndpoint] at sent
  have always (i : Nat) : Transient
      (answerAfter (Network.constant .lost) { retries := 2 } plainEndpoint "a" "s" () i) := by
    rw [answerAfter_constant canRequest_plainEndpoint]
    exact .unconnected _
  rw [last.last (always k)] at sent
  exact sent

end BearerLogin.TokenEndpoint
