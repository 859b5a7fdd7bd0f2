import BearerLogin.Proofs.Traffic
import BearerLogin.Settings

/-! The requests that are sent while a token is bought.  All of them are the one request of the
client, and they bear its authorization behind the one for the user in the URL of the endpoint. -/

namespace BearerLogin.TokenEndpoint

/-! ### The course of a purchase -/

/-- What attempts put on a network if `traffic` is what one of them puts there. -/
def attemptsTraffic (send : ν → Except HttpFault Response × ν) (traffic : ν → Traffic)
    (retries : Nat) : Nat → ν → Traffic
  | 0, _ => []
  | left + 1, state =>
    let (result, next) := send state
    traffic state ++
      if !isRetryable result || retries < maxAttempts - left then []
      else attemptsTraffic send traffic retries left next

/-- What came of attempts on a network that had noted `earlier` and notes what they put on it. -/
def Outcome.noted (outcome : Outcome ν) (traffic : Traffic) : Outcome (ν × Traffic) :=
  { outcome with network := (outcome.network, traffic) }

variable (network : Network ν) (client : Client) (endpoint : Url) (clientId secret : String)

/-- A network that notes what passes over it makes no difference to attempts. -/
theorem attempts_noting (draft : Request) (name : String) (retries left : Nat) (state : ν)
    (earlier : Traffic) :
    attempts (network.noting.exchange endpoint draft) name retries left (state, earlier) =
      (attempts (network.exchange endpoint draft) name retries left state).noted
        (earlier ++ attemptsTraffic (network.exchange endpoint draft)
          (network.traffic endpoint draft) retries left state) := by
  induction left generalizing state earlier with
  | zero => simp [attempts, attemptsTraffic, Outcome.noted]
  | succ left ih =>
    unfold attempts attemptsTraffic
    simp only [Network.exchange_noting]
    split
    · simp [Outcome.noted]
    · simp [ih, Outcome.noted, List.append_assoc]

/-- What passes over the network while a token is bought. -/
def acquireTraffic (state : ν) : Traffic :=
  let draft := client.request endpoint clientId secret
  attemptsTraffic (network.exchange endpoint draft) (network.traffic endpoint draft) client.retries
    maxAttempts state

theorem acquire_noting (state : ν) (earlier : Traffic) :
    acquire network.noting client endpoint clientId secret (state, earlier) =
      let answer := acquire network client endpoint clientId secret state
      { answer with
        next := (answer.next,
          earlier ++ acquireTraffic network client endpoint clientId secret state) } := by
  unfold acquire acquireTraffic
  simp only [attempts_noting, Outcome.noted]

/-! ### The requests -/

/-- The requests that the network receives while a token is bought. -/
def requests (state : ν) : List Request :=
  (acquire network.noting client endpoint clientId secret (state, [])).next.2.map Prod.fst

variable {network client endpoint clientId secret} {state : ν}

theorem requests_eq :
    requests network client endpoint clientId secret state =
      (acquireTraffic network client endpoint clientId secret state).map Prod.fst := by
  simp [requests, acquire_noting]

/-- Attempts put nothing else on a network than each of them does. -/
theorem attemptsTraffic_each {send : ν → Except HttpFault Response × ν} {traffic : ν → Traffic}
    {retries left : Nat} {property : Request × Reply → Prop}
    (each : ∀ state, ∀ passed ∈ traffic state, property passed) :
    ∀ passed ∈ attemptsTraffic send traffic retries left state, property passed := by
  induction left generalizing state with
  | zero => simp [attemptsTraffic]
  | succ left ih =>
    intro passed member
    unfold attemptsTraffic at member
    rcases List.mem_append.mp member with first | later
    · exact each state passed first
    · split at later
      · cases later
      · exact ih passed later

/-- All requests are the request of the client as it is sent to the endpoint. -/
theorem eq_of_mem_requests {request : Request}
    (member : request ∈ requests network client endpoint clientId secret state) :
    request = (client.request endpoint clientId secret).sentTo endpoint := by
  rw [requests_eq] at member
  obtain ⟨passed, passing, rfl⟩ := List.mem_map.mp member
  have each (state : ν) :
      ∀ passed ∈ network.traffic endpoint (client.request endpoint clientId secret) state,
        passed.1 = (client.request endpoint clientId secret).sentTo endpoint :=
    fun _ => Network.fst_of_mem_traffic
  exact attemptsTraffic_each each passed passing

/-- A request is sent exactly if one can be made for the endpoint. -/
theorem requests_eq_nil_iff :
    requests network client endpoint clientId secret state = [] ↔
      Request.canRequest (Request.reported endpoint) = false := by
  rw [requests_eq, List.map_eq_nil_iff]
  constructor
  · intro silent
    have first : network.traffic endpoint (client.request endpoint clientId secret) state = [] := by
      unfold acquireTraffic at silent
      rw [show maxAttempts = (maxAttempts - 1) + 1 from rfl] at silent
      unfold attemptsTraffic at silent
      exact (List.append_eq_nil_iff.mp silent).1
    exact Network.traffic_eq_nil_iff.mp first
  · intro unbuildable
    refine List.eq_nil_iff_forall_not_mem.mpr (attemptsTraffic_each fun state passed member => ?_)
    rw [Network.traffic_eq_nil_iff.mpr unbuildable] at member
    cases member

theorem authorization_sentTo :
    ((client.request endpoint clientId secret).sentTo endpoint).authorization =
      Request.urlAuthorization endpoint ++ [Request.basic clientId secret] :=
  rfl

/-- Every request for a token bears the authorization of the client, behind the one for the user in
the URL of the endpoint.  So they bear the authorization of the client alone exactly if this URL
has no user, or if no request can be made for it. -/
theorem authorization_of_requests (network : Network ν) (client : Client) (endpoint : Url)
    (clientId secret : String) (state : ν) :
    let sent := requests network client endpoint clientId secret state
    (sent = [] ↔ Request.canRequest (Request.reported endpoint) = false) ∧
      (∀ request ∈ sent, request.authorization =
        Request.urlAuthorization endpoint ++ [Request.basic clientId secret]) ∧
      ((∀ request ∈ sent, request.authorization = [Request.basic clientId secret]) ↔
        sent = [] ∨ Request.userOf? endpoint = none) := by
  have each : ∀ request ∈ requests network client endpoint clientId secret state,
      request.authorization =
        Request.urlAuthorization endpoint ++ [Request.basic clientId secret] := by
    intro request member
    rw [eq_of_mem_requests member, authorization_sentTo]
  refine ⟨requests_eq_nil_iff, each, ?_⟩
  constructor
  · intro alone
    rcases sent : requests network client endpoint clientId secret state with _ | ⟨request, later⟩
    · exact .inl rfl
    · right
      have member : request ∈ requests network client endpoint clientId secret state := by
        rw [sent]
        exact List.mem_cons_self
      have both := (each request member).symm.trans (alone request member)
      have noUser : Request.urlAuthorization endpoint = [] := by simpa using both
      simpa [Request.urlAuthorization, Option.toList_eq_nil_iff] using noUser
  · rintro (silent | noUser) request member
    · rw [silent] at member
      cases member
    · simpa [Request.urlAuthorization, noUser] using each request member

/-! ### An endpoint whose URL has a user -/

/-- Settings whose token endpoint has a user name and a password in its URL. -/
def sources : Sources where
  options := [("oauth.token.endpoint.uri", "http://u:p@[::1]/t")]

/-- The URL of this token endpoint. -/
def userEndpoint : Url where
  scheme := "http"
  authority := some { username := "u", password := some "p", host := .ipv6 [0, 0, 0, 0, 0, 0, 0, 1] }
  path := .segments ["t"]

theorem canRequest_userEndpoint : Request.canRequest (Request.reported userEndpoint) = true := by
  have reported : Request.reported userEndpoint = userEndpoint.withoutUser := rfl
  rw [reported]
  unfold Request.canRequest
  simp only [Request.hostRefused_eq]
  decide +kernel

/-- The first value is the one for the user of the URL, the second one that of the client. -/
theorem request_authorized_twice : ∃ request,
    (Settings.ofSources sources).toOption.bind Settings.tokenEndpoint = some userEndpoint ∧
      request ∈ requests (Network.constant .lost) {} userEndpoint "a" "s" () ∧
      request.authorization = ["Basic dTpw", "Basic YTpz"] := by
  have sent : requests (Network.constant .lost) {} userEndpoint "a" "s" () ≠ [] := by
    rw [ne_eq, requests_eq_nil_iff, canRequest_userEndpoint]
    decide
  obtain ⟨request, member⟩ := List.exists_mem_of_ne_nil _ sent
  refine ⟨request, by decide +kernel, member, ?_⟩
  rw [eq_of_mem_requests member, authorization_sentTo]
  decide +kernel

/-! ### An endpoint whose URL has no user -/

/-- The same endpoint without a user in its URL. -/
def plainEndpoint : Url where
  scheme := "http"
  authority := some { host := .ipv6 [0, 0, 0, 0, 0, 0, 0, 1] }
  path := .segments ["t"]

theorem userOf?_plainEndpoint : Request.userOf? plainEndpoint = none := rfl

theorem canRequest_plainEndpoint : Request.canRequest (Request.reported plainEndpoint) = true := by
  have reported : Request.reported plainEndpoint = plainEndpoint := rfl
  rw [reported]
  unfold Request.canRequest
  simp only [Request.hostRefused_eq]
  decide +kernel

end BearerLogin.TokenEndpoint
