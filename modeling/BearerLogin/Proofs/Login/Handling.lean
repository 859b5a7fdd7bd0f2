import BearerLogin.Callback
import BearerLogin.Proofs.Login.Course

/-! The course of a login through callbacks.  `Callback.asked` says what callbacks ask for; a
handler does what the course of that login says, and reports a failure on top of it. -/

namespace BearerLogin

open Steps

namespace Callback

/-- The login that callbacks ask for, or what they lack. -/
def asked (callbacks : List Callback) : Except SetupFault Submission :=
  match firstUnsupported? callbacks with
  | some kind => .error (.unsupportedCallback kind)
  | none =>
    match lastPassword none callbacks with
    | none => .error .passwordMissing
    | some submitted =>
      match lastName none callbacks with
      | none => .error .usernameMissing
      | some username => .ok ⟨some username, some submitted⟩

theorem asked_eq_ok {callbacks : List Callback} {submission : Submission} :
    asked callbacks = .ok submission ↔ firstUnsupported? callbacks = none ∧
      ∃ username submitted, lastName none callbacks = some username ∧
        lastPassword none callbacks = some submitted ∧
        submission = ⟨some username, some submitted⟩ := by
  unfold asked
  rcases firstUnsupported? callbacks with _ | kind
  · rcases lastPassword none callbacks with _ | submitted
    · simp
    · rcases lastName none callbacks with _ | username
      · simp
      · simp [eq_comm]
  · simp

end Callback

namespace World

variable (world : World σ) (events : List Event)

@[simp] theorem noting_peers : (world.noting events).peers = world.peers := rfl

@[simp] theorem noting_store : (world.noting events).store = world.store := rfl

@[simp] theorem noting_log : (world.noting events).log = world.log ++ events := rfl

@[simp] theorem noting_nil : world.noting [] = world := by
  simp [noting]

end World

namespace Service

variable (service : Service σ)

/-- The course of the login that callbacks ask for. -/
def handled (callbacks : List Callback) (peers : σ) (store : Store) : Course σ Principal :=
  match Callback.asked callbacks with
  | .error fault => { result := .error (.configuration fault), peers }
  | .ok submission => service.course submission peers store

theorem answer_eq (callbacks : List Callback) :
    service.answer callbacks =
      match Callback.asked callbacks with
      | .error fault => LoginM.lacking fault
      | .ok submission => service.authenticate submission := by
  unfold answer Callback.asked
  rcases Callback.firstUnsupported? callbacks with _ | kind
  · rcases Callback.lastPassword none callbacks with _ | password
    · rfl
    · rcases Callback.lastName none callbacks with _ | username <;> rfl
  · rfl

theorem answer_run (callbacks : List Callback) (world : World σ) :
    (service.answer callbacks).run world =
      let course := service.handled callbacks world.peers world.store
      (course.result,
        { peers := course.peers
          store := world.store.after (Callback.lastName none callbacks) course.result
          log := world.log ++ course.events }) := by
  rw [answer_eq, handled]
  rcases asked : Callback.asked callbacks with fault | submission
  · simp [Store.after]
  · obtain ⟨-, username, password, named, -, rfl⟩ := Callback.asked_eq_ok.mp asked
    rw [named]
    exact service.authenticate_run ⟨some username, some password⟩ world

/-- A handler does what the course of the login says, marks the callback for the password that was
checked, and reports a failure. -/
theorem handle_run (id : ErrorId) (callbacks : List Callback) (world : World σ) :
    (service.handle id callbacks).run world =
      let course := service.handled callbacks world.peers world.store
      match course.result with
      | .ok principal =>
        ((.ok principal, Callback.markLast callbacks),
          { peers := course.peers
            store := world.store.after (Callback.lastName none callbacks) (.ok principal)
            log := world.log ++ course.events })
      | .error error =>
        ((.error (.ofError id error), callbacks),
          { peers := course.peers
            store := world.store
            log := world.log ++ (course.events ++
              [.failed id error.kind (loggedName callbacks) error.message]) }) := by
  have answered := service.answer_run callbacks world
  have run : (service.handle id callbacks).run world =
      match (service.answer callbacks).run world with
      | (.ok principal, after) => ((.ok principal, Callback.markLast callbacks), after)
      | (.error error, after) =>
        ((.error (.ofError id error), callbacks),
          after.noting [.failed id error.kind (loggedName callbacks) error.message]) := by
    simp only [handle, StateT.run, ExceptT.run, bind, StateT.bind]
    rcases service.answer callbacks world with ⟨_ | _, after⟩ <;> rfl
  rcases result : (service.handled callbacks world.peers world.store).result with error | principal
  · simp [run, answered, result, World.noting, Store.after]
  · simp [run, answered, result]

end Service

/-! ### Trusting peers -/

/-- Peers that trust every client: any secret buys the name of its client as an access token, and
any token names its owner. -/
def Peers.trusting : Peers Unit where
  validatorName := "trusting"
  acquirerName := "trusting"
  validate bearer _ :=
    { result := .ok { principalName := bearer, expiresAt := ⟨0, 0⟩ }, next := () }
  acquire _ clientId _ _ := { result := .ok clientId, next := () }

/-- A service with trusting peers and a token endpoint. -/
def Service.trusting : Service Unit where
  peers := .trusting
  endpoint := some
    { scheme := "https", authority := some { host := .name "a" }, path := .segments ["token"] }

end BearerLogin
