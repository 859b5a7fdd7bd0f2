import BearerLogin.Proofs.Exchange.Message
import BearerLogin.Proofs.Login.Paths
import BearerLogin.Proofs.Validator.Origin

/-! The stages at which a login can fail, and what the failure is called at each.  With peers that
call their own failures by the right kind, the kind of a failure tells its stage, and nothing that a
message asks for is a matter of configuration. -/

namespace BearerLogin

/-- A stage of a login: an access token is bought, it is validated, and its name is compared. -/
inductive Stage where
  | purchase
  | validation
  | comparison
  deriving DecidableEq, Repr

namespace Stage

/-- The kind of the failures at a stage. -/
def kind : Stage → AuthError.Kind
  | purchase => .transport
  | validation => .validation
  | comparison => .identityMismatch

theorem kind_inj {first second : Stage} : first.kind = second.kind ↔ first = second := by
  cases first <;> cases second <;> decide

theorem kind_ne_configuration (stage : Stage) : stage.kind ≠ .configuration := by
  cases stage <;> decide

end Stage

/-- Peers call their failures by the kind of the stage that they serve. -/
structure Peers.Labelled (peers : Peers σ) : Prop where
  validation : ∀ bearer state cause,
    (peers.validate bearer state).result = .error cause → cause.kind = Stage.validation.kind
  purchase : ∀ endpoint clientId secret state cause,
    (peers.acquire endpoint clientId secret state).result = .error cause →
      cause.kind = Stage.purchase.kind

/-- A validator and the client of a token endpoint call their failures by the right kind. -/
theorem Acceptance.labelled_signed (settings : JwtSettings) (network : Network ν)
    (client : TokenEndpoint.Client) : ((signed settings).peers network client).Labelled where
  validation _ _ _ rejected := Backend.kind_validateSigned rejected
  purchase _ _ _ _ _ refused := by
    obtain ⟨_, -, rfl⟩ := mapError_eq_error.mp refused
    rfl

namespace Service

section

variable (service : Service σ) (credentials : Credentials) (peers : σ)

/-- Credentials come to an access token, and the peers are left as they are then: the token is in
the password, or the token endpoint sold it. -/
inductive Obtains : String → σ → Prop
  | carried {bearer : String} (carries : service.Carries credentials.password bearer) :
    Obtains bearer peers
  | bought {endpoint : Url} {bearer : String} (buys : service.Buys credentials.password endpoint)
    (sold : (service.peers.acquire endpoint credentials.username credentials.password
      peers).result = .ok bearer) :
    Obtains bearer
      (service.peers.acquire endpoint credentials.username credentials.password peers).next

/-- A login with credentials fails at a stage. -/
inductive FailsAt : Stage → Prop
  | purchase {endpoint : Url} {cause : AuthError}
    (buys : service.Buys credentials.password endpoint)
    (refused : (service.peers.acquire endpoint credentials.username credentials.password
      peers).result = .error cause) :
    FailsAt .purchase
  | validation {bearer : String} {state : σ} {cause : AuthError}
    (obtains : service.Obtains credentials peers bearer state)
    (rejected : (service.peers.validate bearer state).result = .error cause) :
    FailsAt .validation
  | comparison {bearer : String} {token : Token}
    (carries : service.Carries credentials.password bearer)
    (valid : (service.peers.validate bearer peers).result = .ok token)
    (other : credentials.username ≠ token.principalName) :
    FailsAt .comparison

end

variable {service : Service σ} {credentials : Credentials} {world : World σ} {stage : Stage}

/-- A login that fails at a stage fails with its kind. -/
theorem FailsAt.error (labelled : service.peers.Labelled)
    (fails : service.FailsAt credentials world.peers stage) :
    ∃ cause, (service.attempt credentials.submission world).1.result = .error cause ∧
      cause.kind = stage.kind := by
  cases fails with
  | purchase buys refused =>
    have login := Login.unsold credentials.username buys refused
    exact ⟨_, congrArg Attempt.result login.eq_attempt, labelled.purchase _ _ _ _ _ refused⟩
  | validation obtains rejected =>
    have kind := labelled.validation _ _ _ rejected
    cases obtains with
    | carried carries =>
      have login := Login.rejected credentials.username carries rejected
      exact ⟨_, congrArg Attempt.result login.eq_attempt, kind⟩
    | bought buys sold =>
      have login := Login.soldInvalid credentials.username buys sold rejected
      exact ⟨_, congrArg Attempt.result login.eq_attempt, kind⟩
  | comparison carries valid other =>
    have login := Login.mismatched carries valid other
    exact ⟨_, congrArg Attempt.result login.eq_attempt, rfl⟩

/-- A login that fails does so at some stage, since credentials have a name and a password. -/
theorem exists_failsAt {cause : AuthError}
    (failed : (service.attempt credentials.submission world).1.result = .error cause) :
    ∃ stage, service.FailsAt credentials world.peers stage := by
  obtain ⟨username, password⟩ := credentials
  obtain ⟨calls, result, store, login⟩ :=
    service.exists_login (Credentials.submission ⟨username, password⟩) world
  obtain rfl : result = .error cause := by
    rw [login.eq_attempt] at failed
    exact failed
  cases login with
  | rejected _ carries refused => exact ⟨_, .validation (.carried carries) refused⟩
  | mismatched carries valid other => exact ⟨_, .comparison carries valid other⟩
  | unsold _ buys refused => exact ⟨_, .purchase buys refused⟩
  | soldInvalid _ buys sold refused => exact ⟨_, .validation (.bought buys sold) refused⟩

theorem stage_of_error (labelled : service.peers.Labelled) {cause : AuthError}
    (failed : (service.attempt credentials.submission world).1.result = .error cause) :
    ∃ stage, service.FailsAt credentials world.peers stage ∧ cause.kind = stage.kind := by
  obtain ⟨stage, fails⟩ := exists_failsAt failed
  obtain ⟨same, failed', kind⟩ := fails.error labelled
  obtain rfl : same = cause := Except.error.inj (failed'.symm.trans failed)
  exact ⟨stage, fails, kind⟩

theorem failsAt_iff (labelled : service.peers.Labelled) :
    service.FailsAt credentials world.peers stage ↔
      ∃ cause, (service.attempt credentials.submission world).1.result = .error cause ∧
        cause.kind = stage.kind := by
  refine ⟨FailsAt.error labelled, ?_⟩
  rintro ⟨cause, failed, kind⟩
  obtain ⟨actual, fails, kind'⟩ := stage_of_error labelled failed
  obtain rfl := Stage.kind_inj.mp (kind'.symm.trans kind)
  exact fails

/-- The kind of a failed login names the stage that failed: a message that is well-formed fails
with the kind of a stage exactly where the login with it fails at this stage, and never for a
matter of configuration. -/
theorem kind_names_stage {network : Network ν} {client : TokenEndpoint.Client}
    {jwt : JwtSettings} {name : String} {settings : Settings} {service : Service (Backend ν)}
    {event : Event}
    (built : configure name settings ((Acceptance.signed jwt).peers network client) =
      .ok (service, event))
    {exchange : Exchange} (opened : exchange.isComplete = false) {message : List UInt8}
    {credentials : Credentials} (wellFormed : Credentials.ofMessage message = .ok credentials)
    (id : ErrorId) (world : World (Backend ν)) :
    let result := ((exchange.respond service id message).run world).1.1
    (∀ stage, service.FailsAt credentials world.peers stage ↔
        ∃ failure, result = .error (.authentication failure) ∧ failure.kind = stage.kind) ∧
      ∀ error, result = .error error →
        ∃ failure, error = .authentication failure ∧ failure.kind ≠ .configuration := by
  intro result
  have labelled : service.peers.Labelled := by
    rw [configure, ite_error_eq_ok] at built
    cases built.2
    exact Acceptance.labelled_signed jwt network client
  have course := exchange.respond_of_credentials service id world opened wellFormed
  rcases attempt : (service.attempt credentials.submission world).1.result with cause | principal
  · have failed : result = .error (.authentication (.ofError id cause)) := by
      rw [attempt] at course
      exact course
    constructor
    · intro stage
      rw [failsAt_iff labelled, attempt, failed]
      simp [LoginFailure.ofError]
    · intro error same
      obtain ⟨stage, -, kind⟩ := stage_of_error labelled attempt
      rw [failed] at same
      cases same
      refine ⟨.ofError id cause, rfl, ?_⟩
      show cause.kind ≠ .configuration
      rw [kind]
      exact stage.kind_ne_configuration
  · have loggedIn : result = .ok () := by
      rw [attempt] at course
      exact course
    constructor
    · intro stage
      rw [failsAt_iff labelled, attempt, loggedIn]
      simp
    · intro error same
      rw [loggedIn] at same
      cases same

end Service

/-! ### An outage -/

namespace Shared

/-- A service for signed tokens without any connection. -/
def cutOff : Service (Backend Unit) where
  peers := (Acceptance.signed (settings none)).peers Network.unreachable {}

/-- Credentials with a signed token as the password. -/
def bearing : Credentials where
  username := "a"
  password := issued.token

theorem admissible_bearing : bearing.Admissible "" := by
  constructor <;> decide +kernel

/-- Without the keys, no token is valid. -/
theorem failsAt_cutOff :
    cutOff.FailsAt bearing { Backend.fresh () with now := issued.now } .validation := by
  have unheld : (Backend.fresh ()).keys.held = none := rfl
  obtain ⟨⟨cause, rejected⟩, -⟩ := Backend.refused_unserved Network.unreachable (settings none)
    unheld header_issued (admitted_hs256 none) buildable rfl
  have unmarked : Unmarked bearing.password := markedToken?_eq_none.mp (by decide +kernel)
  exact .validation (.carried (.bare _ unmarked rfl)) rejected

theorem outage_is_validation :
    ∃ event, Service.configure Service.mechanism {} cutOff.peers = .ok (cutOff, event) ∧
      ∃ failure, ((({} : Exchange).respond cutOff ⟨0⟩
          (Credentials.toMessage "" bearing.username bearing.password)).run
            { peers := { Backend.fresh () with now := issued.now } }).1.1 =
          .error (.authentication failure) ∧
        failure.kind = .validation := by
  have built : Service.configure Service.mechanism {} cutOff.peers = .ok (cutOff, _) := rfl
  have wellFormed := Credentials.ofMessage_toMessage admissible_bearing
  have opened : ({} : Exchange).isComplete = false := rfl
  obtain ⟨stages, -⟩ := Service.kind_names_stage built opened wellFormed ⟨0⟩
    { peers := { Backend.fresh () with now := issued.now } }
  exact ⟨_, built, (stages .validation).mp failsAt_cutOff⟩

end Shared

end BearerLogin
