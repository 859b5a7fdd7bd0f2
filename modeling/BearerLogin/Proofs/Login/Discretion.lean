import BearerLogin.Deployment
import BearerLogin.Proofs.Login.Secrecy

/-! Which events tell of a failed login.  A login itself reports none of them, and neither do the
peers that services are deployed with; it is left to those who asked for the login to tell of its
failure. -/

namespace BearerLogin

open Steps

/-- Whether an event tells of a failed login. -/
def Event.tellsFailure (event : Event) : Bool :=
  event.level == .warn && event.message == "Authentication failed"

/-- Events of which none tells of a failed login. -/
def Untold (events : List Event) : Prop :=
  ∀ event ∈ events, event.tellsFailure = false

namespace Untold

variable {first second : List Event} {event : Event}

theorem nil : Untold [] :=
  fun _ member => absurd member List.not_mem_nil

theorem cons (untold : event.tellsFailure = false) (rest : Untold first) :
    Untold (event :: first) :=
  List.forall_mem_cons.mpr ⟨untold, rest⟩

theorem append (one : Untold first) (two : Untold second) : Untold (first ++ second) :=
  fun event member => (List.mem_append.mp member).elim (one event) (two event)

theorem filter (untold : Untold first) : first.filter Event.tellsFailure = [] :=
  List.filter_eq_nil_iff.mpr fun event member => by simp [untold event member]

end Untold

/-! ### Peers -/

/-- Peers that leave it to others to tell of a failed login. -/
structure Peers.Discreet (peers : Peers σ) : Prop where
  validation : ∀ bearer state, Untold (peers.validate bearer state).events
  purchase : ∀ endpoint clientId secret state,
    Untold (peers.acquire endpoint clientId secret state).events

/-- Attempts report nothing but that they are repeated. -/
theorem TokenEndpoint.untold_attempts (send : ν → Except HttpFault Response × ν) (name : String)
    (retries left : Nat) (state : ν) :
    Untold (attempts send name retries left state).events := by
  induction left generalizing state with
  | zero => exact .nil
  | succ left ih =>
    rw [attempts]
    dsimp only
    split
    · exact .nil
    · exact .cons rfl (ih _)

theorem TokenEndpoint.untold_acquire (network : Network ν) (client : Client) (endpoint : Url)
    (clientId secret : String) (state : ν) :
    Untold (acquire network client endpoint clientId secret state).events := by
  refine (untold_attempts _ _ _ _ _).append fun event member => ?_
  obtain ⟨grant, -, rfl⟩ := List.mem_map.mp member
  rfl

theorem RegisteredTokens.untold_validate (tokens : RegisteredTokens) (now : Instant)
    (token : String) : Untold (tokens.validate now token).2 := by
  unfold validate
  split
  · exact .nil
  · split
    · exact .nil
    · exact .cons rfl .nil

namespace Jwt

/-- A step of a validation adds events to the ones before, none of which tells of a failed login. -/
def Discreet (step : ValidatorM ν α) : Prop :=
  ∀ state, ∃ events, (step.run state).2.events = state.events ++ events ∧ Untold events

namespace Discreet

theorem of_silent {step : ValidatorM ν α} (silent : ∀ state, (step.run state).2.events =
    state.events) : Discreet step :=
  fun state => ⟨[], by rw [silent, List.append_nil], .nil⟩

theorem bind {step : ValidatorM ν α} {next : α → ValidatorM ν β} (first : Discreet step)
    (rest : ∀ a, Discreet (next a)) : Discreet (step >>= next) := by
  intro state
  obtain ⟨events, added, untold⟩ := first state
  rw [run_bind]
  rcases run : step.run state with ⟨error | a, after⟩
  · exact ⟨events, by rw [← added, run], untold⟩
  · obtain ⟨more, added', untold'⟩ := rest a after
    refine ⟨events ++ more, ?_, untold.append untold'⟩
    rw [run] at added
    rw [added', added, List.append_assoc]

theorem report {event : Event} (untold : event.tellsFailure = false) :
    Discreet (ValidatorM.report event : ValidatorM ν Unit) :=
  fun _ => ⟨[event], rfl, .cons untold .nil⟩

theorem setCache (change : KeyCache → KeyCache) :
    Discreet (ValidatorM.setCache change : ValidatorM ν Unit) :=
  of_silent fun _ => rfl

theorem get : Discreet (get : ValidatorM ν (ValidatorState ν)) :=
  of_silent fun _ => rfl

theorem pure (a : α) : Discreet (pure a : ValidatorM ν α) :=
  of_silent fun _ => rfl

theorem throw (error : TokenError) : Discreet (throw error : ValidatorM ν α) :=
  of_silent fun _ => rfl

theorem ofExcept (result : Except TokenError α) :
    Discreet (ofExcept result : ValidatorM ν α) :=
  of_silent fun state => by rw [run_ofExcept]

end Discreet

variable (network : Network ν) (settings : JwtSettings) (now : Instant)

theorem discreet_requestKeys (url : Url) : Discreet (requestKeys network url) := by
  refine .of_silent fun state => ?_
  unfold requestKeys
  simp only [run_bind, run_get, run_set]
  rcases keysOf url _ with fault | keys <;> rfl

theorem discreet_fetchKeys : Discreet (fetchKeys network settings now) := by
  unfold fetchKeys
  refine .bind .get fun state => ?_
  split
  · exact .bind (.report rfl) fun _ => .pure _
  · exact .bind (.report rfl) fun _ => .bind (discreet_requestKeys network _) fun _ =>
      .bind (.setCache _) fun _ => .pure _

theorem discreet_keyFor (keyId : Option String) : Discreet (keyFor network settings now keyId) := by
  unfold keyFor
  refine .bind (discreet_fetchKeys network settings now) fun keys => ?_
  split
  · exact .ofExcept _
  · refine .bind .get fun state => ?_
    split
    · exact .bind (.report rfl) fun _ => .throw _
    · refine .bind (.setCache _) fun _ => .bind (.report rfl) fun _ =>
        .bind (.setCache _) fun _ => .bind (discreet_fetchKeys network settings now) fun keys => ?_
      split
      · exact .ofExcept _
      · exact .throw _

theorem discreet_validate (token : String) : Discreet (validate network settings now token) := by
  unfold validate
  refine .bind (.ofExcept _) fun header => ?_
  have rest : Discreet (do
      let key ← keyFor network settings now header.keyId
      let payload ← ValidatorM.ofFault (verifiedPayload settings now header.algorithm key token)
      ofExcept (tokenOf settings payload) : ValidatorM ν Token) :=
    .bind (discreet_keyFor network settings now header.keyId) fun _ =>
      .bind (.ofExcept _) fun _ => .ofExcept _
  split
  · exact .bind (.throw _) fun _ => rest
  · exact rest

end Jwt

/-- The peers that services are deployed with leave it to the exchange to tell of failed logins. -/
theorem Acceptance.discreet (acceptance : Acceptance) (network : Network ν)
    (client : TokenEndpoint.Client) : (acceptance.peers network client).Discreet where
  validation bearer backend := by
    cases acceptance with
    | signed settings =>
      obtain ⟨events, added, untold⟩ := Jwt.discreet_validate network settings backend.now bearer
        { cache := backend.keys, network := backend.network }
      rw [List.nil_append] at added
      rw [← added] at untold
      exact untold
    | registered => exact RegisteredTokens.untold_validate backend.registered backend.now bearer
  purchase endpoint clientId secret backend :=
    TokenEndpoint.untold_acquire network client endpoint clientId secret backend.network

namespace Service

variable (service : Service σ) (username password : String) (peers : σ) (store : Store)

theorem untold_buying (source : TokenSource) : Untold (service.buying source) := by
  rcases source with token | token | ⟨clientId, _ | secret⟩
  · exact .nil
  · exact .nil
  · exact .nil
  · unfold buying
    rcases service.endpoint with _ | endpoint
    · exact .nil
    · exact .cons rfl .nil

theorem untold_concluding (source : TokenSource)
    (verdict : Except AuthError (Except AuthError Token)) :
    Untold (service.concluding username source store verdict) := by
  rcases verdict with error | cause | token
  · exact .nil
  · exact .cons rfl .nil
  · unfold concluding admissionEvents
    dsimp only
    split
    · exact .cons rfl .nil
    · exact .cons rfl (.cons rfl (.cons rfl .nil))

/-- Of the events of a login, only those that the peers report can tell of its failure. -/
theorem filter_course_events :
    (service.course ⟨some username, some password⟩ peers store).events.filter Event.tellsFailure =
      (service.heard username password peers).filter Event.tellsFailure := by
  rw [course_events]
  dsimp only
  rw [List.filter_append, List.filter_append, (service.untold_concluding username store _ _).filter,
    (Untold.cons rfl (service.untold_buying _)).filter, List.nil_append, List.append_nil]

/-- Discreet peers report nothing that tells of a failed login. -/
theorem untold_heard {service : Service σ} (discreet : service.peers.Discreet) :
    Untold (service.heard username password peers) := by
  have sold : ∀ source, Untold (service.sold peers source) := by
    intro source
    rcases source with token | token | ⟨clientId, _ | secret⟩
    · exact .nil
    · exact .nil
    · exact .nil
    · unfold Service.sold
      rcases service.endpoint with _ | endpoint
      · exact .nil
      · exact discreet.purchase endpoint clientId secret peers
  unfold heard
  dsimp only
  rcases (service.obtained peers _).result with error | bearer
  · exact sold _
  · exact (sold _).append (discreet.validation bearer _)

end Service

end BearerLogin
