import BearerLogin.Exchange
import BearerLogin.Proofs.Login.Handling
import BearerLogin.Proofs.Login.Run

/-! What a message comes to in an exchange: nothing where the exchange is over, a report where the
message is not well-formed, and else what comes of the login with the credentials in it. -/

namespace BearerLogin

/-- The login that credentials ask for. -/
def Credentials.submission (credentials : Credentials) : Submission :=
  ⟨some credentials.username, some credentials.password⟩

/-- A world whose peers have noted what they were asked. -/
def World.noted (world : World σ) (calls : List PeerCall) : World (σ × List PeerCall) where
  peers := (world.peers, calls)
  store := world.store
  log := world.log

namespace Exchange

variable (service : Service σ) (id : ErrorId) (exchange : Exchange) (message : List UInt8)
  (world : World σ)

theorem respond_run :
    (exchange.respond service id message).run world =
      if exchange.isComplete then ((.error .alreadyComplete, exchange), world)
      else
        match Credentials.ofMessage message with
        | .error fault =>
          ((.error (.invalidResponse fault.message), exchange),
            world.noting [.malformed fault.message])
        | .ok credentials =>
          let course := service.course credentials.submission world.peers world.store
          match course.result with
          | .error error =>
            ((.error (.authentication (.ofError id error)), exchange),
              { peers := course.peers
                store := world.store
                log := world.log ++ (course.events ++
                  [.failed id error.kind (some credentials.username) error.message]) })
          | .ok principal =>
            ((.ok (), ⟨some credentials.username, some principal⟩),
              { peers := course.peers
                store := world.store.put credentials.username principal
                log := world.log ++ (course.events ++
                  [.exchanged credentials.username principal.display]) }) := by
  unfold respond
  by_cases complete : exchange.isComplete
  · simp only [complete, if_true]
    rfl
  · rcases Credentials.ofMessage message with fault | credentials
    · simp only [complete]
      rfl
    · have handled := service.handle_run id (callbacksFor credentials) world
      have course : service.handled (callbacksFor credentials) world.peers world.store =
          service.course credentials.submission world.peers world.store := rfl
      rw [course] at handled
      rcases result : (service.course credentials.submission world.peers world.store).result
        with error | principal
      · simp only [complete, Bool.false_eq_true, if_false, StateT.run_bind, handled, result]
        rfl
      · simp only [complete, Bool.false_eq_true, if_false, StateT.run_bind, handled, result,
          ← List.append_assoc]
        rfl

/-- An open exchange takes credentials as the login with them goes. -/
theorem respond_of_credentials (opened : exchange.isComplete = false) {message : List UInt8}
    {credentials : Credentials} (read : Credentials.ofMessage message = .ok credentials) :
    ((exchange.respond service id message).run world).1.1 =
      match (service.attempt credentials.submission world).1.result with
      | .error cause => .error (.authentication (.ofError id cause))
      | .ok _ => .ok () := by
  rw [respond_run, Service.attempt_eq]
  simp only [opened, Bool.false_eq_true, if_false, read]
  rcases (service.course credentials.submission world.peers world.store).result
    with cause | principal
  · rfl
  · rfl

/-- An open exchange fails and stays as it is, with the store, or it logs the client in under the
name in the message and stores the principal there. -/
theorem respond_of_open (opened : exchange.isComplete = false) :
    (∃ error, ((exchange.respond service id message).run world).1 = (.error error, exchange) ∧
        error ≠ .alreadyComplete ∧
        ((exchange.respond service id message).run world).2.store = world.store) ∨
      ∃ credentials principal, Credentials.ofMessage message = .ok credentials ∧
        ((exchange.respond service id message).run world).1 =
          (.ok (), ⟨some credentials.username, some principal⟩) ∧
        ((exchange.respond service id message).run world).2.store =
          world.store.put credentials.username principal := by
  rw [respond_run]
  rcases Credentials.ofMessage message with fault | credentials
  · refine .inl ⟨.invalidResponse fault.message, ?_⟩
    simp [opened]
  · rcases result : (service.course credentials.submission world.peers world.store).result
      with error | principal
    · refine .inl ⟨.authentication (.ofError id error), ?_⟩
      simp [opened, result]
    · refine .inr ⟨credentials, principal, rfl, ?_⟩
      simp [opened, result]

/-- What the peers are asked when a message is taken. -/
def asks : List PeerCall :=
  if exchange.isComplete then []
  else
    match Credentials.ofMessage message with
    | .error _ => []
    | .ok credentials => (service.course credentials.submission world.peers world.store).calls

theorem respond_noting :
    (exchange.respond service.noting id message).run world.unnoted =
      (((exchange.respond service id message).run world).1,
        ((exchange.respond service id message).run world).2.noted
          (exchange.asks service message world)) := by
  simp only [respond_run, asks]
  by_cases complete : exchange.isComplete
  · simp [complete, World.noted, World.unnoted]
  · rcases Credentials.ofMessage message with fault | credentials
    · simp [complete, World.noted, World.unnoted, World.noting]
    · simp only [complete, World.unnoted, Service.course_noting, Course.noted]
      rcases (service.course credentials.submission world.peers world.store).result
        with error | principal
      · simp [World.noted]
      · simp [World.noted]

end Exchange

end BearerLogin
