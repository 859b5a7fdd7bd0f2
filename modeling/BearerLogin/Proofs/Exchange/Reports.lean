import BearerLogin.Proofs.Exchange.Turns
import BearerLogin.Proofs.Login.Discretion

/-! What an exchange leaves in the log.  A message that fails is reported by one warning, with all
that the client is not told; any other message by none.  Peers may report what they like besides,
but the ones that services are deployed with report no failed logins. -/

namespace BearerLogin

/-- What the peers report while an exchange takes a message. -/
def Exchange.heard (exchange : Exchange) (service : Service σ) (message : List UInt8)
    (world : World σ) : List Event :=
  if exchange.isComplete then []
  else
    match Credentials.ofMessage message with
    | .error _ => []
    | .ok credentials => service.heard credentials.username credentials.password world.peers

theorem Exchange.untold_heard {service : Service σ} (discreet : service.peers.Discreet)
    {exchange : Exchange} {message : List UInt8} {world : World σ} :
    Untold (exchange.heard service message world) := by
  unfold heard
  split
  · exact .nil
  · split
    · exact .nil
    · exact Service.untold_heard _ _ _ discreet

/-- The reports that the result of a message calls for. -/
inductive Turn.CallsFor (turn : Turn σ) : List Event → Prop
  | loggedIn (result : turn.result = .ok ()) : turn.CallsFor []
  | turnedAway (result : turn.result = .error .alreadyComplete) : turn.CallsFor []
  | malformed {detail : String} {event : Event}
    (result : turn.result = .error (.invalidResponse detail))
    (level : event.level = .warn) (message : event.message = "Authentication failed")
    (fields : event.fields = [("kind", .str "invalid_response"), ("detail", .str detail)]) :
    turn.CallsFor [event]
  | rejected {failure : LoginFailure} {credentials : Credentials} {event : Event}
    (result : turn.result = .error (.authentication failure))
    (read : Credentials.ofMessage turn.message = .ok credentials)
    (level : event.level = .warn) (message : event.message = "Authentication failed")
    (fields : event.fields =
      [("error_id", .str failure.id.render), ("kind", .str failure.kind.name),
        ("username", Event.optionalText (some credentials.username)),
        ("detail", .str failure.detail)]) :
    turn.CallsFor [event]

/-- The log grows by events of which those that tell of failed logins are, besides the ones that the
peers reported, the reports that the result calls for. -/
def Turn.Reported (turn : Turn σ) (heard : List Event) : Prop :=
  ∃ events reports, turn.after.2.log = turn.before.2.log ++ events ∧
    events.filter Event.tellsFailure = heard.filter Event.tellsFailure ++ reports ∧
    turn.CallsFor reports

namespace Service

variable (service : Service σ) (id : ErrorId) (message : List UInt8) (state : Exchange × World σ)

/-- Every message is reported as its result calls for. -/
theorem turn_reported :
    (service.turn id message state).Reported (state.1.heard service message state.2) := by
  have before : (service.turn id message state).before = state := rfl
  unfold Turn.Reported Exchange.heard
  rw [turn_after, before, Exchange.respond_run]
  rcases complete : state.1.isComplete with _ | _
  · rcases read : Credentials.ofMessage message with fault | credentials
    · have malformed : (service.turn id message state).result =
          .error (.invalidResponse fault.message) := by
        rw [turn_result, Exchange.respond_run]
        simp [complete, read]
      exact ⟨[.malformed fault.message], [.malformed fault.message], rfl, rfl,
        .malformed malformed rfl rfl rfl⟩
    · have result := turn_result service id message state
      have told := service.filter_course_events credentials.username credentials.password
        state.2.peers state.2.store
      rw [Exchange.respond_run] at result
      simp only [complete, read, Credentials.submission] at result ⊢
      generalize service.course ⟨some credentials.username, some credentials.password⟩
        state.2.peers state.2.store = course at result told ⊢
      rcases ending : course.result with cause | principal
      · rw [ending] at result
        refine ⟨course.events ++ [.failed id cause.kind (some credentials.username) cause.message],
          [.failed id cause.kind (some credentials.username) cause.message], rfl, ?_,
          .rejected result read rfl rfl rfl⟩
        rw [List.filter_append, told]
        rfl
      · rw [ending] at result
        refine ⟨course.events ++ [.exchanged credentials.username principal.display], [], rfl, ?_,
          .loggedIn result⟩
        rw [List.filter_append, told]
        rfl
  · have away := (service.turn_of_complete id message state complete).1
    exact ⟨[], [], by simp, rfl, .turnedAway away⟩

end Service

/-- How the log tells of the messages of an exchange that failed. -/
structure Service.ReportsFailures (service : Service σ) (turns : List (Turn σ)) : Prop where
  /-- Each is reported as its result calls for, besides what the peers report. -/
  each : ∀ turn ∈ turns,
    turn.Reported (turn.before.1.heard service turn.message turn.before.2)
  /-- With discreet peers, the reports that the results call for are the only ones. -/
  only : service.peers.Discreet → ∀ turn ∈ turns, turn.Reported []

namespace Service

/-- Every message that fails is reported once, and no other is.  The peers that services are
deployed with add nothing to these reports. -/
theorem failures_reported_once {ν : Type} (service : Service σ)
    (messages : List (ErrorId × List UInt8)) (world : World σ) :
    service.ReportsFailures (service.turns messages ({}, world)) ∧
      ∀ (acceptance : Acceptance) (network : Network ν) (client : TokenEndpoint.Client),
        (acceptance.peers network client).Discreet := by
  have each : ∀ turn ∈ service.turns messages ({}, world),
      turn.Reported (turn.before.1.heard service turn.message turn.before.2) := by
    intro turn member
    obtain ⟨earlier, later, split⟩ := List.append_of_mem member
    have reported := service.turn_reported turn.id turn.message turn.before
    rwa [← (turns_split split).1] at reported
  refine ⟨⟨each, fun discreet turn member => ?_⟩, Acceptance.discreet⟩
  obtain ⟨events, reports, log, told, calledFor⟩ := each turn member
  rw [(Exchange.untold_heard discreet).filter] at told
  exact ⟨events, reports, log, told, calledFor⟩

end Service

end BearerLogin
