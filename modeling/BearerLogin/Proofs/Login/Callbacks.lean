import BearerLogin.Proofs.Login.Handling
import BearerLogin.Proofs.Login.Run

/-! What becomes of a list of callbacks.  `Service.Handles` tells the ways apart by what stands in
the list, with one rule for each: the first callback that is not supported, the last one for a
password and the last one for a name decide, in this order, wherever they stand and however many
there are.  Every list goes by exactly one rule. -/

namespace BearerLogin

namespace Callback

/-- A list with its last callback of a form: those behind it are of other forms. -/
structure LastOf (form : α → Callback) (callbacks before : List Callback) (asked : α)
    (after : List Callback) : Prop where
  split : callbacks = before ++ form asked :: after
  last : ∀ other, form other ∉ after

/-- All callbacks of a list are supported. -/
def Supported (callbacks : List Callback) : Prop :=
  ∀ kind, .unsupported kind ∉ callbacks

/-- The name that a list gives, if any: the default of the last callback for a name. -/
def Names (callbacks : List Callback) (username : Option String) : Prop :=
  (∀ other, .name other ∉ callbacks) ∧ username = none ∨
    ∃ before asked after, LastOf .name callbacks before asked after ∧ asked.defaultName = username

variable {callbacks before after : List Callback}

theorem exists_lastOf {form : α → Callback} (given : ∃ asked, form asked ∈ callbacks) :
    ∃ before asked after, LastOf form callbacks before asked after := by
  induction callbacks with
  | nil =>
    obtain ⟨asked, member⟩ := given
    cases member
  | cons first rest ih =>
    by_cases later : ∃ asked, form asked ∈ rest
    · obtain ⟨before, asked, after, split, last⟩ := ih later
      exact ⟨first :: before, asked, after, by rw [split, List.cons_append], last⟩
    · obtain ⟨asked, member⟩ := given
      rcases List.mem_cons.mp member with rfl | member
      · exact ⟨[], asked, rest, rfl, not_exists.mp later⟩
      · exact absurd ⟨asked, member⟩ later

/-! ### The callbacks that decide -/

theorem firstUnsupported?_append (supported : Supported before) :
    firstUnsupported? (before ++ after) = firstUnsupported? after := by
  induction before with
  | nil => rfl
  | cons first rest ih =>
    have supported_rest : Supported rest := fun kind member =>
      supported kind (List.mem_cons_of_mem first member)
    cases first with
    | name _ => exact ih supported_rest
    | password _ => exact ih supported_rest
    | unsupported kind => exact absurd List.mem_cons_self (supported kind)

theorem firstUnsupported?_of_supported (supported : Supported callbacks) :
    firstUnsupported? callbacks = none := by
  have appended : firstUnsupported? (callbacks ++ []) = none := firstUnsupported?_append supported
  rwa [List.append_nil] at appended

theorem supported_or_unsupported (callbacks : List Callback) :
    Supported callbacks ∨
      ∃ before kind after, Supported before ∧ callbacks = before ++ .unsupported kind :: after := by
  induction callbacks with
  | nil => exact .inl fun _ => List.not_mem_nil
  | cons first rest ih =>
    by_cases refused : ∃ kind, first = .unsupported kind
    · obtain ⟨kind, rfl⟩ := refused
      exact .inr ⟨[], kind, rest, fun _ => List.not_mem_nil, rfl⟩
    · have other : ∀ kind, .unsupported kind ≠ first := fun kind same => refused ⟨kind, same.symm⟩
      rcases ih with supported | ⟨before, kind, after, supported, rfl⟩
      · exact .inl fun kind =>
          List.not_mem_cons_of_ne_of_not_mem (other kind) (supported kind)
      · exact .inr ⟨first :: before, kind, after, fun kind =>
          List.not_mem_cons_of_ne_of_not_mem (other kind) (supported kind), rfl⟩

theorem lastName_append (start : Option String) :
    lastName start (before ++ after) = lastName (lastName start before) after := by
  induction before generalizing start with
  | nil => rfl
  | cons first rest ih => cases first <;> exact ih _

theorem lastName_of_none (none : ∀ other, .name other ∉ callbacks) (start : Option String) :
    lastName start callbacks = start := by
  induction callbacks with
  | nil => rfl
  | cons first rest ih =>
    have none_rest : ∀ other, .name other ∉ rest := fun other member =>
      none other (List.mem_cons_of_mem first member)
    cases first with
    | name asked => exact absurd List.mem_cons_self (none asked)
    | password _ => exact ih none_rest
    | unsupported _ => exact ih none_rest

theorem lastPassword_append (start : Option String) :
    lastPassword start (before ++ after) = lastPassword (lastPassword start before) after := by
  induction before generalizing start with
  | nil => rfl
  | cons first rest ih => cases first <;> exact ih _

theorem lastPassword_of_none (none : ∀ other, .password other ∉ callbacks)
    (start : Option String) : lastPassword start callbacks = start := by
  induction callbacks with
  | nil => rfl
  | cons first rest ih =>
    have none_rest : ∀ other, .password other ∉ rest := fun other member =>
      none other (List.mem_cons_of_mem first member)
    cases first with
    | password asked => exact absurd List.mem_cons_self (none asked)
    | name _ => exact ih none_rest
    | unsupported _ => exact ih none_rest

theorem lastName_of_names {username : Option String} (named : Names callbacks username) :
    lastName none callbacks = username := by
  obtain ⟨absent, rfl⟩ | ⟨before, asked, after, ⟨rfl, last⟩, rfl⟩ := named
  · exact lastName_of_none absent none
  · rw [lastName_append]
    exact lastName_of_none last asked.defaultName

theorem exists_names (callbacks : List Callback) : ∃ username, Names callbacks username := by
  by_cases given : ∃ asked, .name asked ∈ callbacks
  · obtain ⟨before, asked, after, last⟩ := exists_lastOf given
    exact ⟨asked.defaultName, .inr ⟨before, asked, after, last, rfl⟩⟩
  · exact ⟨none, .inl ⟨not_exists.mp given, rfl⟩⟩

theorem LastOf.lastPassword {asked : PasswordCallback}
    (asks : LastOf .password callbacks before asked after) (start : Option String) :
    Callback.lastPassword start callbacks = some asked.password := by
  obtain ⟨rfl, last⟩ := asks
  rw [lastPassword_append]
  exact lastPassword_of_none last (some asked.password)

theorem any_isPassword_eq_false (none : ∀ other, .password other ∉ callbacks) :
    callbacks.any isPassword = false := by
  rw [List.any_eq_false]
  intro callback member
  cases callback with
  | password asked => exact absurd member (none asked)
  | name _ => simp [isPassword]
  | unsupported _ => simp [isPassword]

/-- Marking a list changes its last callback for a password and no other. -/
theorem LastOf.markLast {asked : PasswordCallback}
    (asks : LastOf .password callbacks before asked after) :
    Callback.markLast callbacks =
      before ++ .password { asked with authenticated := true } :: after := by
  obtain ⟨rfl, last⟩ := asks
  induction before with
  | nil => simp [Callback.markLast, any_isPassword_eq_false last]
  | cons first rest ih =>
    have behind : (rest ++ .password asked :: after).any isPassword = true := by
      simp [isPassword]
    cases first with
    | name _ => simp only [List.cons_append, Callback.markLast, ih]
    | unsupported _ => simp only [List.cons_append, Callback.markLast, ih]
    | password _ => simp only [List.cons_append, Callback.markLast, behind, if_true, ih]

end Callback

/-- What became of a list of callbacks. -/
structure Handling (σ : Type) where
  id : ErrorId
  result : Except LoginFailure Principal
  /-- What the peers were asked, and what they answered. -/
  calls : List PeerCall
  /-- The callbacks and the world before and after. -/
  before : List Callback × World σ
  after : List Callback × World σ

/-- What shows of a handling: what the peers were asked, the result, the callbacks and the store. -/
def Handling.outcome (handling : Handling σ) :
    List PeerCall × Except LoginFailure Principal × List Callback × Store :=
  (handling.calls, handling.result, handling.after.1, handling.after.2.store)

namespace Service

variable (service : Service σ)

/-- Handles callbacks, and writes down what becomes of them. -/
def handling (id : ErrorId) (state : List Callback × World σ) : Handling σ :=
  let ((result, callbacks), world) := (service.handle id state.1).run state.2
  let (_, noted) := (service.noting.handle id state.1).run state.2.unnoted
  { id, result, calls := noted.peers.2, before := state, after := (callbacks, world) }

open Callback

/-- What becomes of a list of callbacks: what the peers are asked and answer, the result, the
callbacks and the store behind it. -/
inductive Handles (service : Service σ) (id : ErrorId) (world : World σ) :
    List Callback → List PeerCall → Except LoginFailure Principal → List Callback → Store → Prop
  | unsupported {before : List Callback} (kind : String) (after : List Callback)
    (first : Supported before) :
    Handles service id world (before ++ .unsupported kind :: after) []
      (.error ⟨id, .configuration, "Configuration error: " ++ ("unsupported callback: " ++ kind)⟩)
      (before ++ .unsupported kind :: after) world.store
  | passwordless {callbacks : List Callback} (supported : Supported callbacks)
    (absent : ∀ other, .password other ∉ callbacks) :
    Handles service id world callbacks []
      (.error ⟨id, .configuration, "Configuration error: no PlainAuthenticateCallback provided"⟩)
      callbacks world.store
  | nameless {callbacks : List Callback} {asked : PasswordCallback}
    (supported : Supported callbacks) (asks : .password asked ∈ callbacks)
    (unnamed : Names callbacks none) :
    Handles service id world callbacks []
      (.error ⟨id, .configuration, "Configuration error: username not provided"⟩)
      callbacks world.store
  | refused {callbacks before after : List Callback} {asked : PasswordCallback}
    {username : String} {cause : AuthError}
    (supported : Supported callbacks) (asks : LastOf .password callbacks before asked after)
    (named : Names callbacks (some username))
    (failed : (service.attempt ⟨some username, some asked.password⟩ world).1.result =
      .error cause) :
    Handles service id world callbacks
      (service.attempt ⟨some username, some asked.password⟩ world).1.calls
      (.error ⟨id, cause.kind, cause.message⟩) callbacks world.store
  | accepted {callbacks before after : List Callback} {asked : PasswordCallback}
    {username : String} {principal : Principal}
    (supported : Supported callbacks) (asks : LastOf .password callbacks before asked after)
    (named : Names callbacks (some username))
    (loggedIn : (service.attempt ⟨some username, some asked.password⟩ world).1.result =
      .ok principal) :
    Handles service id world callbacks
      (service.attempt ⟨some username, some asked.password⟩ world).1.calls
      (.ok principal) (before ++ .password { asked with authenticated := true } :: after)
      (world.store.put username principal)

theorem handled_noting (callbacks : List Callback) (peers : σ) (earlier : List PeerCall)
    (store : Store) :
    service.noting.handled callbacks (peers, earlier) store =
      (service.handled callbacks peers store).noted earlier := by
  unfold handled
  rcases Callback.asked callbacks with fault | submission
  · simp [Course.noted]
  · exact service.course_noting peers earlier submission store

theorem handling_calls (id : ErrorId) (state : List Callback × World σ) :
    (service.handling id state).calls =
      (service.handled state.1 state.2.peers state.2.store).calls := by
  show ((service.noting.handle id state.1).run state.2.unnoted).2.peers.2 = _
  simp only [handle_run, World.unnoted, handled_noting, Course.noted, List.nil_append]
  rcases (service.handled state.1 state.2.peers state.2.store).result with cause | principal <;> rfl

/-- Callbacks that lack something are turned away without asking anybody. -/
theorem outcome_of_lacking (id : ErrorId) {callbacks : List Callback} {fault : SetupFault}
    (lacks : asked callbacks = .error fault) (world : World σ) :
    (service.handling id (callbacks, world)).outcome =
      ([], .error ⟨id, .configuration, "Configuration error: " ++ fault.message⟩, callbacks,
        world.store) := by
  have calls := service.handling_calls id (callbacks, world)
  have run := service.handle_run id callbacks world
  simp only [handled, lacks] at calls run
  rw [Handling.outcome, calls]
  simp only [handling, run]
  rfl

/-- Callbacks that ask for a login come to what the login comes to. -/
theorem outcome_of_asked (id : ErrorId) {callbacks : List Callback} {username password : String}
    (asks : asked callbacks = .ok ⟨some username, some password⟩) (world : World σ) :
    (service.handling id (callbacks, world)).outcome =
      let attempt := (service.attempt ⟨some username, some password⟩ world).1
      match attempt.result with
      | .error cause =>
        (attempt.calls, .error ⟨id, cause.kind, cause.message⟩, callbacks, world.store)
      | .ok principal =>
        (attempt.calls, .ok principal, Callback.markLast callbacks,
          world.store.put username principal) := by
  have calls := service.handling_calls id (callbacks, world)
  have run := service.handle_run id callbacks world
  obtain ⟨-, _, _, named, -, same⟩ := asked_eq_ok.mp asks
  cases same
  simp only [handled, asks, named] at calls run
  rw [Handling.outcome, calls, attempt_eq]
  simp only [handling, run]
  rcases (service.course ⟨some username, some password⟩ world.peers world.store).result
    with cause | principal
  · rfl
  · rfl

variable {service} {id : ErrorId} {callbacks : List Callback} {world : World σ}
  {calls : List PeerCall} {result : Except LoginFailure Principal} {callbacks' : List Callback}
  {store : Store}

theorem asked_of_last {before after : List Callback} {password : PasswordCallback}
    {username : String} (supported : Supported callbacks)
    (asks : LastOf .password callbacks before password after)
    (named : Names callbacks (some username)) :
    asked callbacks = .ok ⟨some username, some password.password⟩ :=
  asked_eq_ok.mpr ⟨firstUnsupported?_of_supported supported, username, password.password,
    lastName_of_names named, asks.lastPassword none, rfl⟩

/-- What a rule says of a list is what becomes of it. -/
theorem Handles.outcome
    (handles : service.Handles id world callbacks calls result callbacks' store) :
    (service.handling id (callbacks, world)).outcome = (calls, result, callbacks', store) := by
  cases handles with
  | @unsupported before kind after first =>
    have decides : firstUnsupported? (before ++ .unsupported kind :: after) = some kind :=
      firstUnsupported?_append first
    have lacks : asked (before ++ .unsupported kind :: after) =
        .error (.unsupportedCallback kind) := by
      rw [asked, decides]
    exact service.outcome_of_lacking id lacks world
  | passwordless supported absent =>
    have lacks : asked callbacks = .error .passwordMissing := by
      rw [asked, firstUnsupported?_of_supported supported, lastPassword_of_none absent]
    rw [service.outcome_of_lacking id lacks world]
    rfl
  | nameless supported asks unnamed =>
    obtain ⟨before, password, after, last⟩ := exists_lastOf ⟨_, asks⟩
    have lacks : asked callbacks = .error .usernameMissing := by
      rw [asked, firstUnsupported?_of_supported supported, last.lastPassword none,
        lastName_of_names unnamed]
    rw [service.outcome_of_lacking id lacks world]
    rfl
  | refused supported asks named failed =>
    rw [service.outcome_of_asked id (asked_of_last supported asks named) world]
    simp only [failed]
  | accepted supported asks named loggedIn =>
    rw [service.outcome_of_asked id (asked_of_last supported asks named) world]
    simp only [loggedIn, asks.markLast]

variable (service id callbacks world)

/-- Some rule says what becomes of a list. -/
theorem exists_handles :
    ∃ calls result callbacks' store,
      service.Handles id world callbacks calls result callbacks' store := by
  obtain supported | ⟨before, kind, after, first, rfl⟩ := supported_or_unsupported callbacks
  · by_cases given : ∃ asked, .password asked ∈ callbacks
    · obtain ⟨_ | username, named⟩ := exists_names callbacks
      · obtain ⟨asked, member⟩ := given
        exact ⟨_, _, _, _, .nameless supported member named⟩
      · obtain ⟨before, asked, after, asks⟩ := exists_lastOf given
        rcases login : (service.attempt ⟨some username, some asked.password⟩ world).1.result
          with cause | principal
        · exact ⟨_, _, _, _, .refused supported asks named login⟩
        · exact ⟨_, _, _, _, .accepted supported asks named login⟩
    · exact ⟨_, _, _, _, .passwordless supported (not_exists.mp given)⟩
  · exact ⟨_, _, _, _, .unsupported kind after first⟩

/-- What becomes of a list of callbacks is what one of the rules says, and no rule says anything
else of it. -/
theorem handles_iff (service : Service σ) (id : ErrorId) (callbacks : List Callback)
    (world : World σ) (calls : List PeerCall) (result : Except LoginFailure Principal)
    (callbacks' : List Callback) (store : Store) :
    service.Handles id world callbacks calls result callbacks' store ↔
      (service.handling id (callbacks, world)).outcome = (calls, result, callbacks', store) := by
  refine ⟨Handles.outcome, fun outcome => ?_⟩
  obtain ⟨calls', result', callbacks'', store', handles⟩ :=
    service.exists_handles id callbacks world
  have same := handles.outcome.symm.trans outcome
  cases same
  exact handles

end Service

end BearerLogin
