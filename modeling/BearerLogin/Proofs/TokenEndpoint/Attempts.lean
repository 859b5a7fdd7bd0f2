import BearerLogin.Deployment
import BearerLogin.Proofs.Steps
import BearerLogin.Proofs.TokenEndpoint.Requests

/-! How often a request for a token is repeated.  `resultAfter` says what each further attempt would
come to, and `StopsAt` which of them is the last; the attempts that are really made are the ones up
to it (`attempts_of_isLast`), unless their count cannot grow any more (`attempts_of_overflows`). -/

namespace BearerLogin.TokenEndpoint

/-- The number at which counting up from zero stops: the first one that does not go on, or the
limit if all below it do. -/
structure StopsAt (goesOn : Nat → Prop) (limit k : Nat) : Prop where
  within : k ≤ limit
  before : ∀ i < k, goesOn i
  last : goesOn k → k = limit

namespace StopsAt

variable {goesOn : Nat → Prop} {limit k m : Nat}

theorem zero (last : goesOn 0 → limit = 0) : StopsAt goesOn limit 0 :=
  ⟨Nat.zero_le limit, fun _ below => absurd below (Nat.not_lt_zero _), fun more => (last more).symm⟩

theorem succ (more : goesOn 0) (rest : StopsAt (fun i => goesOn (i + 1)) limit k) :
    StopsAt goesOn (limit + 1) (k + 1) where
  within := Nat.succ_le_succ rest.within
  before i below := by
    cases i with
    | zero => exact more
    | succ i => exact rest.before i (Nat.lt_of_succ_lt_succ below)
  last again := congrArg (· + 1) (rest.last again)

theorem pred (stops : StopsAt goesOn (limit + 1) (k + 1)) :
    StopsAt (fun i => goesOn (i + 1)) limit k where
  within := Nat.le_of_succ_le_succ stops.within
  before i below := stops.before (i + 1) (Nat.succ_lt_succ below)
  last again := Nat.succ.inj (stops.last again)

/-- Counting stops at one number only. -/
theorem unique (first : StopsAt goesOn limit k) (second : StopsAt goesOn limit m) : k = m := by
  rcases Nat.lt_trichotomy k m with below | same | above
  · have atLimit := first.last (second.before k below)
    have within := second.within
    omega
  · exact same
  · have atLimit := second.last (first.before m above)
    have within := first.within
    omega

theorem congr {others : Nat → Prop} (same : ∀ i, goesOn i ↔ others i)
    (stops : StopsAt goesOn limit k) : StopsAt others limit k :=
  ⟨stops.within, fun i below => (same i).mp (stops.before i below),
    fun more => stops.last ((same k).mpr more)⟩

end StopsAt

theorem exists_stopsAt (goesOn : Nat → Prop) (limit : Nat) : ∃ k, StopsAt goesOn limit k := by
  induction limit generalizing goesOn with
  | zero => exact ⟨0, .zero fun _ => rfl⟩
  | succ limit ih =>
    by_cases more : goesOn 0
    · obtain ⟨k, rest⟩ := ih fun i => goesOn (i + 1)
      exact ⟨k + 1, rest.succ more⟩
    · exact ⟨0, .zero fun again => absurd again more⟩

/-! ### Attempts -/

section

variable (send : ν → Except HttpFault Response × ν) (name : String)

/-- What the network is like after a number of attempts. -/
def stateAfter (state : ν) : Nat → ν
  | 0 => state
  | n + 1 => stateAfter (send state).2 n

/-- What the attempt behind `n` others comes to. -/
def resultAfter (state : ν) (n : Nat) : Except HttpFault Response :=
  (send (stateAfter send state n)).1

/-- Whether the attempt behind `k` others is the last one. -/
def IsLast (retries : Nat) (state : ν) (k : Nat) : Prop :=
  StopsAt (fun i => isRetryable (resultAfter send state i) = true) retries k

/-- The warnings of `n` attempts that are repeated, behind `done` others. -/
def warnings (done n : Nat) : List Event :=
  (List.range n).map fun i => .retrying name (done + i + 1)

theorem warnings_succ (done n : Nat) :
    .retrying name (done + 1) :: warnings name (done + 1) n = warnings name done (n + 1) := by
  simp only [warnings, List.range_succ_eq_map, List.map_cons, List.map_map, Nat.add_zero]
  congr 1
  refine List.map_congr_left fun i _ => ?_
  simp only [Function.comp_apply, Nat.succ_eq_add_one, Nat.add_comm 1, Nat.add_assoc]

variable {send name} {state : ν} {done left spare k : Nat}

/-- One step of the attempts: the one that is made next is the last, or the others follow it. -/
theorem attempts_succ (counted : done + (left + 1) = maxAttempts) :
    attempts send name (done + spare) (left + 1) state =
      if isRetryable (send state).1 = true ∧ 0 < spare then
        let rest := attempts send name (done + spare) left (send state).2
        { rest with events := .retrying name (done + 1) :: rest.events }
      else ⟨(send state).1, [], (send state).2⟩ := by
  have attempt : maxAttempts - left = done + 1 := by omega
  rw [attempts]
  simp only [attempt]
  by_cases retryable : isRetryable (send state).1 = true
  · by_cases more : 0 < spare
    · simp [retryable, more, Nat.ne_of_gt more]
    · simp [retryable, show spare = 0 by omega]
  · simp [retryable]

/-- The attempts that are made are the ones up to the last, each of the others with a warning. -/
theorem attempts_of_isLast (counted : done + left = maxAttempts)
    (last : IsLast send spare state k) (room : k < left) :
    attempts send name (done + spare) left state =
      ⟨resultAfter send state k, warnings name done k, stateAfter send state (k + 1)⟩ := by
  induction k generalizing done left spare state with
  | zero =>
    obtain ⟨left, rfl⟩ : ∃ l, left = l + 1 := ⟨left - 1, by omega⟩
    have stops : ¬(isRetryable (send state).1 = true ∧ 0 < spare) := by
      rintro ⟨retryable, more⟩
      exact absurd (last.last retryable) (Nat.ne_of_lt more)
    rw [attempts_succ counted, if_neg stops]
    rfl
  | succ k ih =>
    obtain ⟨left, rfl⟩ : ∃ l, left = l + 1 := ⟨left - 1, by omega⟩
    obtain ⟨spare, rfl⟩ : ∃ s, spare = s + 1 := ⟨spare - 1, by have := last.within; omega⟩
    have retryable : isRetryable (send state).1 = true := last.before 0 (Nat.succ_pos k)
    have counted_next : done + 1 + left = maxAttempts := by omega
    have rest := ih counted_next last.pred (Nat.lt_of_succ_lt_succ room)
    rw [show done + 1 + spare = done + (spare + 1) by omega] at rest
    rw [attempts_succ counted, if_pos ⟨retryable, Nat.succ_pos spare⟩, rest, ← warnings_succ]
    rfl

/-- If every attempt that can be counted is to be repeated, one more is made than can be counted. -/
theorem attempts_of_all_retryable (counted : done + left = maxAttempts) (enough : left ≤ spare)
    (all : ∀ i < left, isRetryable (resultAfter send state i) = true) :
    attempts send name (done + spare) left state =
      ⟨.error .tooManyAttempts, warnings name done left, stateAfter send state left⟩ := by
  induction left generalizing done spare state with
  | zero => rfl
  | succ left ih =>
    obtain ⟨spare, rfl⟩ : ∃ s, spare = s + 1 := ⟨spare - 1, by omega⟩
    have counted_next : done + 1 + left = maxAttempts := by omega
    have all_next : ∀ i < left, isRetryable (resultAfter send (send state).2 i) = true :=
      fun i below => all (i + 1) (Nat.succ_lt_succ below)
    have rest := ih counted_next (Nat.le_of_succ_le_succ enough) all_next
    rw [show done + 1 + spare = done + (spare + 1) by omega] at rest
    rw [attempts_succ counted, if_pos ⟨all 0 (Nat.succ_pos left), Nat.succ_pos spare⟩, rest,
      ← warnings_succ]
    rfl

/-- Whether an attempt is to be made that cannot be counted any more. -/
def Overflows (send : ν → Except HttpFault Response × ν) (retries : Nat) (state : ν) : Prop :=
  maxAttempts ≤ retries ∧ ∀ i < maxAttempts, isRetryable (resultAfter send state i) = true

/-- As long as the count does not overflow, the last attempt can be counted. -/
theorem IsLast.lt_maxAttempts (last : IsLast send spare state k)
    (countable : ¬Overflows send spare state) : k < maxAttempts := by
  by_contra beyond
  have within := last.within
  exact countable ⟨by omega, fun i below => last.before i (by omega)⟩

theorem attempts_of_countable (last : IsLast send spare state k)
    (countable : ¬Overflows send spare state) :
    attempts send name spare maxAttempts state =
      ⟨resultAfter send state k, warnings name 0 k, stateAfter send state (k + 1)⟩ := by
  have made : attempts send name (0 + spare) maxAttempts state = _ :=
    attempts_of_isLast (Nat.zero_add maxAttempts) last (last.lt_maxAttempts countable)
  rwa [Nat.zero_add] at made

theorem attempts_of_overflows (overflows : Overflows send spare state) :
    attempts send name spare maxAttempts state =
      ⟨.error .tooManyAttempts, warnings name 0 maxAttempts,
        stateAfter send state maxAttempts⟩ := by
  have made : attempts send name (0 + spare) maxAttempts state = _ :=
    attempts_of_all_retryable (Nat.zero_add maxAttempts) overflows.1 overflows.2
  rwa [Nat.zero_add] at made

/-! ### The number of attempts -/

/-- An attempt that is counted: the number of the ones before stands beside the state. -/
def counting (send : ν → Except HttpFault Response × ν) (counted : ν × Nat) :
    Except HttpFault Response × (ν × Nat) :=
  ((send counted.1).1, (send counted.1).2, counted.2 + 1)

theorem stateAfter_counting (n k : Nat) :
    stateAfter (counting send) (state, n) k = (stateAfter send state k, n + k) := by
  induction k generalizing state n with
  | zero => rfl
  | succ k ih =>
    have rest : stateAfter (counting send) ((send state).2, n + 1) k = _ := ih (n + 1)
    rw [Nat.add_right_comm n 1 k] at rest
    exact rest

theorem resultAfter_counting (n k : Nat) :
    resultAfter (counting send) (state, n) k = resultAfter send state k := by
  rw [resultAfter, stateAfter_counting]
  rfl

/-- How many attempts are made. -/
def attemptsMade (send : ν → Except HttpFault Response × ν) (retries : Nat) (state : ν) : Nat :=
  (attempts (counting send) "" retries maxAttempts (state, 0)).network.2

theorem overflows_counting :
    Overflows (counting send) spare (state, 0) ↔ Overflows send spare state := by
  simp only [Overflows, resultAfter_counting]

theorem attemptsMade_of_countable (last : IsLast send spare state k)
    (countable : ¬Overflows send spare state) : attemptsMade send spare state = k + 1 := by
  have counted : IsLast (counting send) spare (state, 0) k :=
    last.congr fun i => by rw [resultAfter_counting]
  rw [attemptsMade, attempts_of_countable counted (mt overflows_counting.mp countable),
    stateAfter_counting, Nat.zero_add]

theorem attemptsMade_of_overflows (overflows : Overflows send spare state) :
    attemptsMade send spare state = maxAttempts := by
  rw [attemptsMade, attempts_of_overflows (overflows_counting.mpr overflows), stateAfter_counting,
    Nat.zero_add]

end

/-! ### Attempts over a network -/

/-- An answer that another attempt may improve: there was no connection, or the server failed. -/
inductive Transient : Except HttpFault Response → Prop
  | unconnected (url : String) : Transient (.error (.unsent url))
  | serverFault {response : Response} (least : 500 ≤ response.status)
      (most : response.status < 600) : Transient (.ok response)

variable {network : Network ν} {client : Client} {endpoint : Url} {clientId secret : String}
  {draft : Request} {state : ν} {k : Nat}

theorem isRetryable_ok {response : Response} :
    isRetryable (.ok response) = true ↔ 500 ≤ response.status ∧ response.status < 600 := by
  simp [isRetryable]

theorem isRetryable_result {url : String} {reply : Reply} :
    isRetryable (reply.result url) = true ↔ Transient (reply.result url) := by
  cases reply with
  | lost => exact ⟨fun _ => .unconnected url, fun _ => rfl⟩
  | answered status body complete =>
    rw [Reply.result, isRetryable_ok]
    constructor
    · rintro ⟨least, most⟩
      exact .serverFault least most
    · rintro (_ | ⟨least, most⟩)
      exact ⟨least, most⟩

/-- The answers of a network that are worth another attempt. -/
theorem isRetryable_exchange :
    isRetryable (network.exchange endpoint draft state).1 = true ↔
      Transient (network.exchange endpoint draft state).1 := by
  rw [Network.exchange_eq]
  split
  · exact isRetryable_result
  · constructor
    · intro retryable
      cases retryable
    · intro transient
      cases transient

theorem result_ne_tooManyAttempts {url : String} {reply : Reply} :
    reply.result url ≠ .error .tooManyAttempts := by
  cases reply <;> simp [Reply.result]

theorem exchange_ne_tooManyAttempts :
    (network.exchange endpoint draft state).1 ≠ .error .tooManyAttempts := by
  rw [Network.exchange_eq]
  split
  · exact result_ne_tooManyAttempts
  · simp

section

variable (network : Network ν) (client : Client) (endpoint : Url) (clientId secret : String)
  (state : ν)

/-- What comes of all attempts to buy a token. -/
def purchase : Outcome ν :=
  attempts (network.exchange endpoint (client.request endpoint clientId secret)) endpoint.render
    client.retries maxAttempts state

/-- How many attempts to buy a token are made. -/
def purchaseAttempts : Nat :=
  attemptsMade (network.exchange endpoint (client.request endpoint clientId secret)) client.retries
    state

/-- What the attempt to buy a token behind `n` others comes to. -/
def answerAfter (n : Nat) : Except HttpFault Response :=
  resultAfter (network.exchange endpoint (client.request endpoint clientId secret)) state n

/-- The number of attempts to buy a token exceeds what can be counted. -/
def Uncountable : Prop :=
  Overflows (network.exchange endpoint (client.request endpoint clientId secret)) client.retries
    state

/-- The attempt to buy a token behind `k` others is the last one: it is not worth another one, or
there are no retries left. -/
def Last (k : Nat) : Prop :=
  StopsAt (fun i => Transient (answerAfter network client endpoint clientId secret state i))
    client.retries k

end

/-- A network that answers everything in the same way does so after any number of attempts. -/
theorem answerAfter_constant {reply : Reply} {n : Nat}
    (buildable : Request.canRequest (Request.reported endpoint) = true) :
    answerAfter (Network.constant reply) client endpoint clientId secret () n =
      reply.result (Request.reported endpoint).render := by
  rw [answerAfter, resultAfter, Network.exchange_eq, if_pos buildable]
  rfl

theorem last_iff :
    Last network client endpoint clientId secret state k ↔
      IsLast (network.exchange endpoint (client.request endpoint clientId secret)) client.retries
        state k :=
  ⟨StopsAt.congr fun _ => isRetryable_exchange.symm, StopsAt.congr fun _ => isRetryable_exchange⟩

theorem uncountable_iff :
    Uncountable network client endpoint clientId secret state ↔ maxAttempts ≤ client.retries ∧
      ∀ i < maxAttempts, Transient (answerAfter network client endpoint clientId secret state i) :=
  and_congr_right fun _ => forall₂_congr fun _ _ => isRetryable_exchange

theorem purchase_of_countable (last : Last network client endpoint clientId secret state k)
    (countable : ¬Uncountable network client endpoint clientId secret state) :
    (purchase network client endpoint clientId secret state).result =
        answerAfter network client endpoint clientId secret state k ∧
      purchaseAttempts network client endpoint clientId secret state = k + 1 := by
  have last := last_iff.mp last
  constructor
  · rw [purchase, attempts_of_countable last countable]
    rfl
  · exact attemptsMade_of_countable last countable

theorem purchase_of_uncountable
    (uncountable : Uncountable network client endpoint clientId secret state) :
    (purchase network client endpoint clientId secret state).result = .error .tooManyAttempts ∧
      purchaseAttempts network client endpoint clientId secret state = maxAttempts := by
  constructor
  · rw [purchase, attempts_of_overflows uncountable]
  · exact attemptsMade_of_overflows uncountable

theorem result_eq_tooManyAttempts_iff :
    (purchase network client endpoint clientId secret state).result = .error .tooManyAttempts ↔
      Uncountable network client endpoint clientId secret state := by
  constructor
  · intro overflowed
    by_contra countable
    obtain ⟨k, last⟩ := exists_stopsAt
      (fun i => Transient (answerAfter network client endpoint clientId secret state i))
      client.retries
    rw [(purchase_of_countable last countable).1] at overflowed
    exact exchange_ne_tooManyAttempts overflowed
  · exact fun uncountable => (purchase_of_uncountable uncountable).1

/-! ### The retries that settings admit -/

theorem le_of_number {sources : Sources} {limit n : Nat} {key : SettingKey}
    (read : sources.number limit key = .ok (some n)) : n ≤ limit := by
  unfold Sources.number at read
  split at read
  · cases read
  · split at read
    · next value found =>
      cases read
      unfold Text.Decimal.read? at found
      split at found
      · cases found
      · exact of_decide_eq_true (Option.filter_eq_some_iff.mp found).2
    · cases read

/-- Settings ask for no more retries than can be counted. -/
theorem retries_le {sources : Sources} {settings : Settings}
    (loaded : Settings.ofSources sources = .ok settings) :
    settings.client.retries ≤ maxAttempts := by
  unfold Settings.ofSources at loaded
  obtain ⟨tokenEndpoint, -, loaded⟩ := bind_eq_ok.mp loaded
  obtain ⟨keysUrl, -, loaded⟩ := bind_eq_ok.mp loaded
  obtain ⟨jwt, -, loaded⟩ := bind_eq_ok.mp loaded
  obtain ⟨transport, read, loaded⟩ := bind_eq_ok.mp loaded
  cases loaded
  unfold Settings.transportSettings at read
  obtain ⟨connect, -, read⟩ := bind_eq_ok.mp read
  obtain ⟨timeout, -, read⟩ := bind_eq_ok.mp read
  obtain ⟨retries, number, read⟩ := bind_eq_ok.mp read
  obtain ⟨pause, -, read⟩ := bind_eq_ok.mp read
  cases read
  rcases retries with _ | n
  · exact Nat.zero_le _
  · exact le_of_number number

/-- For all settings, at most one attempt more is made than there are retries.  The last answer is
the result, except where the largest number of retries is set and every attempt that can be counted
is to be repeated: then the count overflows. -/
theorem count_overflows_iff {sources : Sources} {settings : Settings}
    (loaded : Settings.ofSources sources = .ok settings) (network : Network ν) (endpoint : Url)
    (clientId secret : String) (state : ν) :
    let client := settings.client
    let made := purchaseAttempts network client endpoint clientId secret state
    let result := (purchase network client endpoint clientId secret state).result
    made ≤ client.retries + 1 ∧
      (result = .error .tooManyAttempts ↔
        client.retries = maxAttempts ∧ ∀ i < maxAttempts,
          Transient (answerAfter network client endpoint clientId secret state i)) ∧
      (result ≠ .error .tooManyAttempts →
        ∃ k, Last network client endpoint clientId secret state k ∧ made = k + 1 ∧
          result = answerAfter network client endpoint clientId secret state k) := by
  intro client made result
  have admitted : client.retries ≤ maxAttempts := retries_le loaded
  have overflow_iff : result = .error .tooManyAttempts ↔
      client.retries = maxAttempts ∧ ∀ i < maxAttempts,
        Transient (answerAfter network client endpoint clientId secret state i) := by
    rw [result_eq_tooManyAttempts_iff, uncountable_iff]
    exact and_congr_left fun _ => ⟨Nat.le_antisymm admitted, fun same => Nat.le_of_eq same.symm⟩
  have regular (countable : ¬Uncountable network client endpoint clientId secret state) :
      ∃ k, Last network client endpoint clientId secret state k ∧ made = k + 1 ∧
        result = answerAfter network client endpoint clientId secret state k := by
    obtain ⟨k, last⟩ := exists_stopsAt
      (fun i => Transient (answerAfter network client endpoint clientId secret state i))
      client.retries
    obtain ⟨final, count⟩ := purchase_of_countable last countable
    exact ⟨k, last, count, final⟩
  refine ⟨?_, overflow_iff, fun ended => regular (mt result_eq_tooManyAttempts_iff.mpr ended)⟩
  by_cases uncountable : Uncountable network client endpoint clientId secret state
  · rw [show made = maxAttempts from (purchase_of_uncountable uncountable).2]
    exact Nat.le_succ_of_le uncountable.1
  · obtain ⟨k, last, count, -⟩ := regular uncountable
    rw [count]
    exact Nat.succ_le_succ last.within

/-- Settings with a token endpoint and a number of retries. -/
def retrySources (retries : String) : Sources where
  options := [("oauth.token.endpoint.uri", "http://[::1]/t"), ("oauth.http.retries", retries)]

theorem two_retries_counted : ∃ settings,
    Settings.ofSources (retrySources "2") = .ok settings ∧ settings.client.retries = 2 ∧
      (purchase (Network.constant .lost) settings.client plainEndpoint "a" "s" ()).result ≠
        .error .tooManyAttempts := by
  obtain ⟨settings, loaded, retries⟩ : ∃ settings,
      Settings.ofSources (retrySources "2") = .ok settings ∧ settings.client.retries = 2 :=
    ⟨_, eq_ok_of_toOption rfl, rfl⟩
  have spec := count_overflows_iff loaded (Network.constant .lost) plainEndpoint "a" "s" ()
  refine ⟨settings, loaded, retries, fun overflowed => ?_⟩
  have largest := (spec.2.1.mp overflowed).1
  rw [retries] at largest
  cases largest

/-- A server that always fails, and the largest number of retries. -/
theorem largest_retries_overflow : ∃ settings,
    Settings.ofSources (retrySources "4294967295") = .ok settings ∧
      settings.tokenEndpoint = some plainEndpoint ∧
      (purchase (Network.constant (.answered 503 [] true)) settings.client plainEndpoint "a" "s"
        ()).result = .error .tooManyAttempts ∧
      purchaseAttempts (Network.constant (.answered 503 [] true)) settings.client plainEndpoint
        "a" "s" () = maxAttempts := by
  obtain ⟨settings, loaded, tokenEndpoint, retries⟩ : ∃ settings,
      Settings.ofSources (retrySources "4294967295") = .ok settings ∧
        settings.tokenEndpoint = some plainEndpoint ∧ settings.client.retries = maxAttempts :=
    ⟨_, eq_ok_of_toOption rfl, by decide +kernel, rfl⟩
  have uncountable : Uncountable (Network.constant (.answered 503 [] true)) settings.client
      plainEndpoint "a" "s" () := by
    refine uncountable_iff.mpr ⟨Nat.le_of_eq retries.symm, fun i _ => ?_⟩
    rw [answerAfter_constant canRequest_plainEndpoint]
    exact .serverFault (by decide) (by decide)
  obtain ⟨overflowed, count⟩ := purchase_of_uncountable uncountable
  exact ⟨settings, loaded, tokenEndpoint, overflowed, count⟩

end BearerLogin.TokenEndpoint
