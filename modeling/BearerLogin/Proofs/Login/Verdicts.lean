import BearerLogin.Proofs.Login.Callbacks
import BearerLogin.Deployment

/-! The marks that handlers leave on callbacks, over any number of calls on one list.  A login marks
the callback that it went by and nothing takes a mark away, so that a mark tells of some login, or
of the state at the start, but not of the last call (`marks_kept`). -/

namespace BearerLogin

namespace Callback

/-- The callback at a place of a list is for a password and marked as authenticated. -/
def MarkedAt (callbacks : List Callback) (place : Nat) : Prop :=
  ∃ asked : PasswordCallback, callbacks[place]? = some (.password asked) ∧
    asked.authenticated = true

/-- At a place of a list stands its last callback for a password. -/
structure AskedAt (callbacks : List Callback) (place : Nat) : Prop where
  here : ∃ asked, callbacks[place]? = some (.password asked)
  last : ∀ later asked, place < later → callbacks[later]? ≠ some (.password asked)

variable {callbacks before after : List Callback} {asked : PasswordCallback}

theorem AskedAt.unique {place other : Nat} (one : AskedAt callbacks place)
    (two : AskedAt callbacks other) : place = other := by
  rcases Nat.lt_trichotomy place other with below | same | above
  · obtain ⟨asked, here⟩ := two.here
    exact absurd here (one.last other asked below)
  · exact same
  · obtain ⟨asked, here⟩ := one.here
    exact absurd here (two.last place asked above)

theorem askedAt_length (absent : ∀ other, .password other ∉ after) (asked : PasswordCallback) :
    AskedAt (before ++ .password asked :: after) before.length := by
  refine ⟨⟨asked, by simp⟩, fun later other beyond here => ?_⟩
  rw [List.getElem?_append_right (Nat.le_of_lt beyond)] at here
  obtain ⟨place, behind⟩ : ∃ place, later - before.length = place + 1 :=
    ⟨later - before.length - 1, by omega⟩
  rw [behind, List.getElem?_cons_succ] at here
  exact absent other (List.mem_of_getElem? here)

theorem askedAt_iff (absent : ∀ other, .password other ∉ after) (asked : PasswordCallback)
    {place : Nat} :
    AskedAt (before ++ .password asked :: after) place ↔ place = before.length := by
  refine ⟨fun here => here.unique (askedAt_length absent asked), ?_⟩
  rintro rfl
  exact askedAt_length absent asked

/-- Marking one callback adds its mark to the others. -/
theorem markedAt_marked (place : Nat) :
    MarkedAt (before ++ .password { asked with authenticated := true } :: after) place ↔
      MarkedAt (before ++ .password asked :: after) place ∨ place = before.length := by
  unfold MarkedAt
  rcases Nat.lt_trichotomy place before.length with below | rfl | above
  · simp [List.getElem?_append_left below, Nat.ne_of_lt below]
  · simp
  · obtain ⟨behind, later⟩ : ∃ behind, place - before.length = behind + 1 :=
      ⟨place - before.length - 1, by omega⟩
    simp [List.getElem?_append_right (Nat.le_of_lt above), later, Nat.ne_of_gt above]

end Callback

/-- The client was logged in. -/
def Handling.Succeeded (handling : Handling σ) : Prop :=
  ∃ principal, handling.result = .ok principal

/-- A callback is marked although it is not the one by which the client was logged in just now. -/
def Handling.StaleAt (handling : Handling σ) (place : Nat) : Prop :=
  Callback.MarkedAt handling.after.1 place ∧
    ¬(handling.Succeeded ∧ Callback.AskedAt handling.before.1 place)

namespace Service

open Callback

variable (service : Service σ) (id : ErrorId) (state : List Callback × World σ)

theorem handling_before : (service.handling id state).before = state := rfl

/-- A handling fails and leaves the callbacks as they were, or it logs the client in and marks the
last callback for a password. -/
theorem handling_cases :
    (¬(service.handling id state).Succeeded ∧ (service.handling id state).after.1 = state.1) ∨
      (service.handling id state).Succeeded ∧ ∃ before asked after,
        LastOf .password state.1 before asked after ∧
        (service.handling id state).after.1 =
          before ++ .password { asked with authenticated := true } :: after := by
  obtain ⟨callbacks, world⟩ := state
  obtain ⟨calls, result, callbacks', store, handles⟩ := service.exists_handles id callbacks world
  obtain ⟨-, result', after', -⟩ := Prod.mk.inj handles.outcome |>.imp_right fun rest =>
    (Prod.mk.inj rest).imp_right Prod.mk.inj
  rw [Handling.Succeeded, result', after']
  cases handles with
  | unsupported kind after first => exact .inl ⟨by simp, rfl⟩
  | passwordless supported absent => exact .inl ⟨by simp, rfl⟩
  | nameless supported asks unnamed => exact .inl ⟨by simp, rfl⟩
  | refused supported asks named failed => exact .inl ⟨by simp, rfl⟩
  | accepted supported asks named loggedIn => exact .inr ⟨⟨_, rfl⟩, _, _, _, asks, rfl⟩

theorem markedAt_handling (place : Nat) :
    MarkedAt (service.handling id state).after.1 place ↔
      MarkedAt state.1 place ∨
        (service.handling id state).Succeeded ∧ AskedAt state.1 place := by
  obtain ⟨failed, same⟩ | ⟨succeeded, before, asked, after, ⟨split, absent⟩, marked⟩ :=
    service.handling_cases id state
  · simp [same, failed]
  · rw [marked, split, markedAt_marked, askedAt_iff absent]
    simp [succeeded]

theorem askedAt_handling (place : Nat) :
    AskedAt (service.handling id state).after.1 place ↔ AskedAt state.1 place := by
  obtain ⟨-, same⟩ | ⟨-, before, asked, after, ⟨split, absent⟩, marked⟩ :=
    service.handling_cases id state
  · rw [same]
  · rw [marked, split, askedAt_iff absent, askedAt_iff absent]

theorem exists_askedAt (succeeded : (service.handling id state).Succeeded) :
    ∃ place, AskedAt state.1 place := by
  obtain ⟨failed, -⟩ | ⟨-, before, asked, after, ⟨split, absent⟩, -⟩ :=
    service.handling_cases id state
  · exact absurd succeeded failed
  · exact ⟨before.length, split ▸ askedAt_length absent asked⟩

/-- Handles one list of callbacks again and again.  Each call comes with the identifier under which
its failure would be reported and with what happens to the world before it. -/
def handlings : List (ErrorId × (World σ → World σ)) → List Callback × World σ →
    List (Handling σ)
  | [], _ => []
  | (id, meanwhile) :: rest, (callbacks, world) =>
    let handling := service.handling id (callbacks, meanwhile world)
    handling :: handlings rest handling.after

variable {service} {occasions : List (ErrorId × (World σ → World σ))} {state}
  {earlier later : List (Handling σ)} {handling : Handling σ}

/-- Each call of a run is a handling of the callbacks as the calls before left them. -/
theorem handlings_split (split : service.handlings occasions state = earlier ++ handling :: later) :
    handling = service.handling handling.id handling.before := by
  induction earlier generalizing occasions state with
  | nil =>
    rcases occasions with _ | ⟨⟨id, meanwhile⟩, rest⟩
    · cases split
    · obtain ⟨rfl, -⟩ := List.cons.inj split
      rfl
  | cons first earlier ih =>
    rcases occasions with _ | ⟨⟨id, meanwhile⟩, rest⟩
    · cases split
    · exact ih (List.cons.inj split).2

/-- Before each call, the last callback for a password is the one of the start, and it is marked
besides those of the start if a call has logged the client in since. -/
theorem before_handlings (split : service.handlings occasions state = earlier ++ handling :: later)
    (place : Nat) :
    (AskedAt handling.before.1 place ↔ AskedAt state.1 place) ∧
      (MarkedAt handling.before.1 place ↔
        MarkedAt state.1 place ∨
          (∃ other ∈ earlier, other.Succeeded) ∧ AskedAt state.1 place) := by
  induction earlier generalizing occasions state with
  | nil =>
    rcases occasions with _ | ⟨⟨id, meanwhile⟩, rest⟩
    · cases split
    · obtain ⟨rfl, -⟩ := List.cons.inj split
      exact ⟨Iff.rfl, by simp [handling_before]⟩
  | cons first earlier ih =>
    -- The rest of the run starts from the callbacks as the first call left them.
    rcases occasions with _ | ⟨⟨id, meanwhile⟩, rest⟩
    · cases split
    · rw [handlings, List.cons_append] at split
      obtain ⟨rfl, behind⟩ := List.cons.inj split
      obtain ⟨asked, marked⟩ := ih behind
      rw [askedAt_handling] at asked marked
      rw [markedAt_handling] at marked
      refine ⟨asked, marked.trans ?_⟩
      simp only [List.exists_mem_cons_iff]
      tauto

end Service

/-- How the marks on one list of callbacks fare over calls. -/
structure Callback.KeepsMarks (callbacks : List Callback) (handlings : List (Handling σ)) :
    Prop where
  /-- After each call a callback is marked exactly if it was at the start, or if it is the last one
  for a password and a call so far has logged the client in. -/
  marked : ∀ earlier handling later, handlings = earlier ++ handling :: later → ∀ place,
    MarkedAt handling.after.1 place ↔
      MarkedAt callbacks place ∨
        (∃ other ∈ earlier ++ [handling], other.Succeeded) ∧ AskedAt callbacks place
  /-- After a call some mark is stale exactly if the call failed and one before it logged the client
  in, or if a callback was marked from the start and the call did not log the client in by it. -/
  stale : ∀ earlier handling later, handlings = earlier ++ handling :: later →
    ((∃ place, handling.StaleAt place) ↔
      (¬handling.Succeeded ∧ ∃ other ∈ earlier, other.Succeeded) ∨
        ∃ place, MarkedAt callbacks place ∧ ¬(handling.Succeeded ∧ AskedAt callbacks place))

namespace Service

open Callback

/-- Whatever a list of callbacks is like and whatever the peers answer, no call takes a mark away:
one that a login leaves stays through all failures after it. -/
theorem marks_kept (service : Service σ) (occasions : List (ErrorId × (World σ → World σ)))
    (callbacks : List Callback) (world : World σ) :
    KeepsMarks callbacks (service.handlings occasions (callbacks, world)) := by
  have marked : ∀ earlier handling later,
      service.handlings occasions (callbacks, world) = earlier ++ handling :: later → ∀ place,
        MarkedAt handling.after.1 place ↔
          MarkedAt callbacks place ∨
            (∃ other ∈ earlier ++ [handling], other.Succeeded) ∧ AskedAt callbacks place := by
    intro earlier handling later split place
    obtain ⟨asked, before⟩ := before_handlings split place
    have step := service.markedAt_handling handling.id handling.before place
    rw [← handlings_split split, asked, before] at step
    rw [step]
    simp only [List.mem_append, List.mem_singleton, or_and_right, exists_or, exists_eq_left]
    exact or_assoc
  refine ⟨marked, fun earlier handling later split => ?_⟩
  have asked := fun place => (before_handlings split place).1
  simp only [Handling.StaleAt, asked, marked earlier handling later split]
  constructor
  · rintro ⟨place, start | ⟨⟨other, member, succeeded⟩, here⟩, otherwise⟩
    · exact .inr ⟨place, start, otherwise⟩
    · have failed : ¬handling.Succeeded := fun again => otherwise ⟨again, here⟩
      rcases List.mem_append.mp member with member | member
      · exact .inl ⟨failed, other, member, succeeded⟩
      · rw [List.mem_singleton.mp member] at succeeded
        exact absurd succeeded failed
  · rintro (⟨failed, other, member, succeeded⟩ | ⟨place, start, otherwise⟩)
    · -- The place is that of the callback by which the other call logged the client in.
      obtain ⟨first, between, rfl⟩ := List.append_of_mem member
      have split_other : service.handlings occasions (callbacks, world) =
          first ++ other :: (between ++ handling :: later) := by
        rw [split, List.append_assoc, List.cons_append]
      have login := succeeded
      rw [handlings_split split_other] at login
      obtain ⟨place, here⟩ := exists_askedAt service _ _ login
      rw [(before_handlings split_other place).1] at here
      exact ⟨place, .inr ⟨⟨other, by simp, succeeded⟩, here⟩, fun again => failed again.1⟩
    · exact ⟨place, .inl start, otherwise⟩

/-! ### A token that is revoked -/

/-- A service that accepts registered tokens and has no token endpoint. -/
def forRegistered : Service (Backend Unit) where
  peers := Acceptance.registered.peers Network.unreachable {}

/-- A world with one registered token. -/
def oneRegistered : World (Backend Unit) where
  peers :=
    { network := (), now := ⟨0, 0⟩
      registered := ⟨[("t", { subject := "a", expiresAt := ⟨1, 0⟩ })]⟩ }

/-- A world in which a token is registered no longer. -/
def revoking (token : String) (world : World (Backend ν)) : World (Backend ν) :=
  { world with
    peers := { world.peers with registered := (world.peers.registered.revoke token).2 } }

/-- A new callback is marked by a login, and stays so when the same callbacks are refused because
the token was revoked. -/
theorem revoked_still_marked :
    ∃ first second,
      forRegistered.handlings [(⟨0⟩, id), (⟨0⟩, revoking "t")]
          ([.name { defaultName := some "a" }, .password { password := "t" }], oneRegistered) =
        [first, second] ∧
      first.Succeeded ∧ ¬second.Succeeded ∧ MarkedAt second.after.1 1 := by
  refine ⟨_, _, rfl, ?_, ?_, ?_⟩
  · exact ⟨.user (RegisteredTokens.Registration.toToken ⟨"a", ⟨1, 0⟩, []⟩), rfl⟩
  · rintro ⟨principal, succeeded⟩
    cases succeeded
  · exact ⟨{ password := "t", authenticated := true }, rfl, rfl⟩

end Service

end BearerLogin
