import BearerLogin.Proofs.Exchange.Course

/-! An exchange over any messages of a client.  Until one of them logs the client in, each is taken
as by a new exchange and leaves no trace in the exchange or the store; the one that does settles who
the client is, and all after it are turned away. -/

namespace BearerLogin

/-- A message that an exchange took, with what came of it. -/
structure Turn (σ : Type) where
  id : ErrorId
  message : List UInt8
  result : Except ExchangeError Unit
  /-- What the peers were asked, and what they answered. -/
  calls : List PeerCall
  /-- The exchange and the world when the message came. -/
  before : Exchange × World σ
  after : Exchange × World σ

/-- A message logged the client in. -/
def Turn.LoggedIn (turn : Turn σ) : Prop :=
  turn.result = .ok ()

namespace Service

variable (service : Service σ)

/-- Has an exchange take a message, and writes down what comes of it. -/
def turn (id : ErrorId) (message : List UInt8) (state : Exchange × World σ) : Turn σ :=
  let ((result, exchange), world) := (state.1.respond service id message).run state.2
  let (_, noted) := (state.1.respond service.noting id message).run state.2.unnoted
  { id, message, result, calls := noted.peers.2, before := state, after := (exchange, world) }

/-- Has an exchange take messages, one after the other.  Each comes with the identifier under which
its failure would be reported. -/
def turns : List (ErrorId × List UInt8) → Exchange × World σ → List (Turn σ)
  | [], _ => []
  | (id, message) :: rest, state =>
    service.turn id message state :: turns rest (service.turn id message state).after

end Service

/-- An exchange tells in each of three ways whether it is over. -/
structure Exchange.Tells (exchange : Exchange) (ended : Prop) : Prop where
  complete : exchange.isComplete = true ↔ ended
  authorizationId : exchange.authorizationId.isSome = true ↔ ended
  principal : exchange.principal.isSome = true ↔ ended

namespace Exchange.Tells

variable {exchange : Exchange} {ended other : Prop}

theorem fresh : Tells {} False := by
  constructor <;> simp [isComplete]

theorem loggedIn (name : String) (principal : Principal) :
    Tells ⟨some name, some principal⟩ True := by
  constructor <;> simp [isComplete]

theorem congr (tells : exchange.Tells ended) (same : ended ↔ other) : exchange.Tells other :=
  ⟨tells.complete.trans same, tells.authorizationId.trans same, tells.principal.trans same⟩

end Exchange.Tells

namespace Service

variable (service : Service σ) (id : ErrorId) (message : List UInt8) (state : Exchange × World σ)

theorem turn_result :
    (service.turn id message state).result =
      ((state.1.respond service id message).run state.2).1.1 := rfl

theorem turn_after :
    (service.turn id message state).after =
      (((state.1.respond service id message).run state.2).1.2,
        ((state.1.respond service id message).run state.2).2) := rfl

theorem turn_calls :
    (service.turn id message state).calls = state.1.asks service message state.2 := by
  show ((state.1.respond service.noting id message).run state.2.unnoted).2.peers.2 = _
  rw [Exchange.respond_noting]
  rfl

/-- An exchange that is over turns a message away and leaves everything as it was. -/
theorem turn_of_complete (complete : state.1.isComplete = true) :
    (service.turn id message state).result = .error .alreadyComplete ∧
      (service.turn id message state).calls = [] ∧
      (service.turn id message state).after = state := by
  rw [turn_result, turn_after, turn_calls, Exchange.respond_run, Exchange.asks]
  simp [complete]

/-- An open exchange fails and stays as it is, with the store, or it logs the client in under the
name in the message and stores the principal there. -/
theorem turn_of_open (opened : state.1.isComplete = false) :
    (∃ error, (service.turn id message state).result = .error error ∧ error ≠ .alreadyComplete ∧
        (service.turn id message state).after.1 = state.1 ∧
        (service.turn id message state).after.2.store = state.2.store) ∨
      (service.turn id message state).LoggedIn ∧
        ∃ credentials principal, Credentials.ofMessage message = .ok credentials ∧
          (service.turn id message state).after.1 =
            ⟨some credentials.username, some principal⟩ ∧
          (service.turn id message state).after.2.store.get? credentials.username =
            some principal := by
  rw [Turn.LoggedIn, turn_result, turn_after]
  obtain ⟨error, failed, other, same⟩ | ⟨credentials, principal, read, ended, stored⟩ :=
    Exchange.respond_of_open service id state.1 message state.2 opened
  · exact .inl ⟨error, by rw [failed], other, by rw [failed], same⟩
  · refine .inr ⟨by rw [ended], credentials, principal, read, by rw [ended], ?_⟩
    rw [stored, Store.get?_put_self]

/-- A message that does not log the client in leaves the exchange and the store as they were. -/
theorem turn_of_failed (failed : ¬(service.turn id message state).LoggedIn) :
    (service.turn id message state).after.1 = state.1 ∧
      (service.turn id message state).after.2.store = state.2.store := by
  rcases ended : state.1.isComplete with _ | _
  · obtain ⟨error, -, -, same⟩ | ⟨loggedIn, -⟩ := service.turn_of_open id message state ended
    · exact same
    · exact absurd loggedIn failed
  · rw [(service.turn_of_complete id message state ended).2.2]
    exact ⟨rfl, rfl⟩

theorem turn_of_loggedIn (loggedIn : (service.turn id message state).LoggedIn) :
    ∃ credentials principal, Credentials.ofMessage message = .ok credentials ∧
      (service.turn id message state).after.1 = ⟨some credentials.username, some principal⟩ ∧
      (service.turn id message state).after.2.store.get? credentials.username = some principal := by
  rw [Turn.LoggedIn] at loggedIn
  rcases ended : state.1.isComplete with _ | _
  · obtain ⟨error, failed, -⟩ | ⟨-, settled⟩ := service.turn_of_open id message state ended
    · rw [loggedIn] at failed
      cases failed
    · exact settled
  · have closed := (service.turn_of_complete id message state ended).1
    rw [loggedIn] at closed
    cases closed

/-- The three ways of telling that an exchange is over stay in step. -/
theorem turn_tells {ended : Prop} (tells : state.1.Tells ended) :
    (service.turn id message state).after.1.Tells
      (ended ∨ (service.turn id message state).LoggedIn) := by
  rcases complete : state.1.isComplete with _ | _
  · have opened : ¬ended := by simp [← tells.complete, complete]
    obtain ⟨error, result, -, same, -⟩ | ⟨loggedIn, credentials, principal, -, settled, -⟩ :=
      service.turn_of_open id message state complete
    · rw [same]
      refine tells.congr ?_
      simp [Turn.LoggedIn, result]
    · rw [settled]
      exact (Exchange.Tells.loggedIn _ _).congr (by simp [loggedIn])
  · have closed : ended := tells.complete.mp complete
    rw [(service.turn_of_complete id message state complete).2.2]
    exact tells.congr (by simp [closed])

variable {service} {messages : List (ErrorId × List UInt8)} {state}
  {earlier later : List (Turn σ)} {turn : Turn σ}

theorem turns_messages :
    (service.turns messages state).map (fun turn => (turn.id, turn.message)) = messages := by
  induction messages generalizing state with
  | nil => rfl
  | cons first rest ih =>
    rw [turns, List.map_cons, ih]
    rfl

/-- Each turn of a run is the turn of its own message, and the run goes on behind it. -/
theorem turns_split (split : service.turns messages state = earlier ++ turn :: later) :
    turn = service.turn turn.id turn.message turn.before ∧
      ∃ rest, later = service.turns rest turn.after := by
  induction earlier generalizing messages state with
  | nil =>
    rcases messages with _ | ⟨⟨id, message⟩, rest⟩
    · cases split
    · obtain ⟨rfl, rfl⟩ := List.cons.inj split
      exact ⟨rfl, rest, rfl⟩
  | cons first earlier ih =>
    rcases messages with _ | ⟨⟨id, message⟩, rest⟩
    · cases split
    · exact ih (List.cons.inj split).2

/-- Before each message an exchange tells that it is over if it told so at the start or a message
logged the client in since. -/
theorem turns_tells {ended : Prop} (tells : state.1.Tells ended)
    (split : service.turns messages state = earlier ++ turn :: later) :
    turn.before.1.Tells (ended ∨ ∃ other ∈ earlier, other.LoggedIn) := by
  induction earlier generalizing messages state ended with
  | nil =>
    rcases messages with _ | ⟨⟨id, message⟩, rest⟩
    · cases split
    · obtain ⟨rfl, -⟩ := List.cons.inj split
      exact tells.congr (by simp)
  | cons first earlier ih =>
    -- The rest of the run starts from an exchange that is over if the first message ended it.
    rcases messages with _ | ⟨⟨id, message⟩, rest⟩
    · cases split
    · rw [turns, List.cons_append] at split
      obtain ⟨rfl, behind⟩ := List.cons.inj split
      refine (ih (service.turn_tells id message state tells) behind).congr ?_
      simp [or_assoc]

/-- As long as no message logs the client in, the exchange and the store are as at the start. -/
theorem turns_unsettled (split : service.turns messages state = earlier ++ turn :: later)
    (unsettled : ∀ other ∈ earlier, ¬other.LoggedIn) :
    turn.before.1 = state.1 ∧ turn.before.2.store = state.2.store := by
  induction earlier generalizing messages state with
  | nil =>
    rcases messages with _ | ⟨⟨id, message⟩, rest⟩
    · cases split
    · obtain ⟨rfl, -⟩ := List.cons.inj split
      exact ⟨rfl, rfl⟩
  | cons first earlier ih =>
    rcases messages with _ | ⟨⟨id, message⟩, rest⟩
    · cases split
    · rw [turns, List.cons_append] at split
      obtain ⟨rfl, behind⟩ := List.cons.inj split
      obtain ⟨failed, unsettled⟩ := List.forall_mem_cons.mp unsettled
      obtain ⟨exchange, store⟩ := ih behind unsettled
      obtain ⟨exchange', store'⟩ := service.turn_of_failed id message state failed
      exact ⟨exchange.trans exchange', store.trans store'⟩

/-- An exchange that is over turns away all messages and leaves everything as it was. -/
theorem turns_of_complete (complete : state.1.isComplete = true) :
    ∀ turn ∈ service.turns messages state,
      turn.result = .error .alreadyComplete ∧ turn.calls = [] ∧ turn.after = turn.before := by
  induction messages generalizing state with
  | nil => simp [turns]
  | cons first rest ih =>
    obtain ⟨id, message⟩ := first
    have closed := service.turn_of_complete id message state complete
    have unmoved : (service.turn id message state).after.1.isComplete = true := by
      rw [closed.2.2, complete]
    exact List.forall_mem_cons.mpr ⟨closed, ih unmoved⟩

end Service

/-- How an exchange that began new fares over messages, where the store was the one given. -/
structure Service.Settles (service : Service σ) (store : Store) (turns : List (Turn σ)) :
    Prop where
  /-- Before and after each message, the exchange tells in all three ways that it is over if a
  message has logged the client in, and else in none. -/
  tells : ∀ earlier turn later, turns = earlier ++ turn :: later →
    turn.before.1.Tells (∃ other ∈ earlier, other.LoggedIn) ∧
      turn.after.1.Tells (∃ other ∈ earlier ++ [turn], other.LoggedIn)
  /-- At most one message logs the client in. -/
  once : ∀ earlier turn later, turns = earlier ++ turn :: later → turn.LoggedIn →
    ∀ other ∈ earlier ++ later, ¬other.LoggedIn
  /-- The client is authorized for the name in that message, with the principal that stands under
  this name then. -/
  login : ∀ turn ∈ turns, turn.LoggedIn →
    ∃ credentials principal, Credentials.ofMessage turn.message = .ok credentials ∧
      turn.after.1.authorizationId = some credentials.username ∧
      turn.after.1.principal = some principal ∧
      turn.after.2.store.get? credentials.username = some principal
  /-- Every message after it is turned away: no peer is asked, nothing is reported, and the exchange
  and the world are as they were. -/
  closed : ∀ earlier turn later, turns = earlier ++ turn :: later → turn.LoggedIn →
    ∀ other ∈ later,
      other.result = .error .alreadyComplete ∧ other.calls = [] ∧ other.after = other.before
  /-- A message that does not log the client in leaves the exchange and the store as they were. -/
  failed : ∀ turn ∈ turns, ¬turn.LoggedIn →
    turn.after.1 = turn.before.1 ∧ turn.after.2.store = turn.before.2.store
  /-- Until a message logs the client in, each meets the store of the start and is taken as by a new
  exchange in the same world. -/
  fresh : ∀ earlier turn later, turns = earlier ++ turn :: later →
    (∀ other ∈ earlier, ¬other.LoggedIn) →
      turn.before.2.store = store ∧ turn.result ≠ .error .alreadyComplete ∧
        turn = service.turn turn.id turn.message ({}, turn.before.2)

namespace Service

/-- Whatever a client sends and whatever the peers answer, an exchange settles with the first
message that logs the client in. -/
theorem exchange_settles (service : Service σ) (messages : List (ErrorId × List UInt8))
    (world : World σ) :
    (service.turns messages ({}, world)).map (fun turn => (turn.id, turn.message)) = messages ∧
      service.Settles world.store (service.turns messages ({}, world)) := by
  have before : ∀ earlier turn later,
      service.turns messages ({}, world) = earlier ++ turn :: later →
        turn.before.1.Tells (∃ other ∈ earlier, other.LoggedIn) := by
    intro earlier turn later split
    exact (turns_tells Exchange.Tells.fresh split).congr (by simp)
  have after : ∀ earlier turn later,
      service.turns messages ({}, world) = earlier ++ turn :: later →
        turn.after.1.Tells (∃ other ∈ earlier ++ [turn], other.LoggedIn) := by
    intro earlier turn later split
    have step := service.turn_tells turn.id turn.message turn.before (before _ _ _ split)
    rw [← (turns_split split).1] at step
    exact step.congr (by simp [or_and_right, exists_or])
  have closed : ∀ earlier turn later,
      service.turns messages ({}, world) = earlier ++ turn :: later → turn.LoggedIn →
        ∀ other ∈ later, other.result = .error .alreadyComplete ∧ other.calls = [] ∧
          other.after = other.before := by
    intro earlier turn later split loggedIn
    obtain ⟨-, rest, rfl⟩ := turns_split split
    exact turns_of_complete ((after _ _ _ split).complete.mpr ⟨turn, by simp, loggedIn⟩)
  have login : ∀ turn ∈ service.turns messages ({}, world), turn.LoggedIn →
      ∃ credentials principal, Credentials.ofMessage turn.message = .ok credentials ∧
        turn.after.1.authorizationId = some credentials.username ∧
        turn.after.1.principal = some principal ∧
        turn.after.2.store.get? credentials.username = some principal := by
    intro turn member loggedIn
    obtain ⟨earlier, later, split⟩ := List.append_of_mem member
    obtain ⟨same, -⟩ := turns_split split
    have taken := service.turn_of_loggedIn turn.id turn.message turn.before
    rw [← same] at taken
    obtain ⟨credentials, principal, read, settled, stored⟩ := taken loggedIn
    exact ⟨credentials, principal, read, by rw [settled], by rw [settled], stored⟩
  have failed : ∀ turn ∈ service.turns messages ({}, world), ¬turn.LoggedIn →
      turn.after.1 = turn.before.1 ∧ turn.after.2.store = turn.before.2.store := by
    intro turn member failed
    obtain ⟨earlier, later, split⟩ := List.append_of_mem member
    obtain ⟨same, -⟩ := turns_split split
    have taken := service.turn_of_failed turn.id turn.message turn.before
    rw [← same] at taken
    exact taken failed
  refine ⟨turns_messages, fun _ _ _ split => ⟨before _ _ _ split, after _ _ _ split⟩, ?_, login,
    closed, failed, ?_⟩
  · intro earlier turn later split loggedIn other member again
    rw [Turn.LoggedIn] at loggedIn again
    rcases List.mem_append.mp member with member | member
    · obtain ⟨first, between, rfl⟩ := List.append_of_mem member
      have late := closed first other (between ++ turn :: later) (by simp [split]) again turn
        (by simp)
      rw [loggedIn] at late
      cases late.1
    · have late := closed earlier turn later split loggedIn other member
      rw [again] at late
      cases late.1
  · intro earlier turn later split unsettled
    obtain ⟨exchange, store⟩ := turns_unsettled split unsettled
    obtain ⟨same, -⟩ := turns_split split
    have opened : turn.before = ({}, turn.before.2) := Prod.ext exchange rfl
    rw [opened] at same
    refine ⟨store, ?_, same⟩
    have answered := service.turn_of_open turn.id turn.message ({}, turn.before.2) rfl
    rw [← same] at answered
    obtain ⟨error, result, other, -⟩ | ⟨loggedIn, -⟩ := answered
    · simpa [result] using other
    · rw [Turn.LoggedIn] at loggedIn
      simp [loggedIn]

end Service

end BearerLogin
