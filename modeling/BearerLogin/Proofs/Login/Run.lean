import BearerLogin.Proofs.Login.Course

/-! Runs of logins.  Whatever is submitted and whatever the peers answer, the store mirrors the
history: under each name stands the principal of the last login that succeeded under it. -/

namespace BearerLogin

namespace Store

/-- The names under which principals are stored. -/
def names (store : Store) : List String :=
  store.entries.map (·.1)

theorem mem_names {store : Store} {key : String} :
    key ∈ store.names ↔ ∃ principal, store.get? key = some principal := by
  simp only [names, get?, List.mem_map, Option.map_eq_some_iff]
  constructor
  · rintro ⟨entry, member, rfl⟩
    have isSome : (store.entries.find? (·.1 == entry.1)).isSome :=
      List.find?_isSome.mpr ⟨entry, member, by simp⟩
    obtain ⟨found, hfound⟩ := Option.isSome_iff_exists.mp isSome
    exact ⟨found.2, found, hfound, rfl⟩
  · rintro ⟨_, found, hfound, rfl⟩
    exact ⟨found, List.mem_of_find?_eq_some hfound, by simpa using List.find?_some hfound⟩

/-- The names that satisfy a list without repetitions count the store. -/
theorem size_eq_length {store : Store} {keys : List String} (distinct : keys.Nodup)
    (same : ∀ key, key ∈ keys ↔ ∃ principal, store.get? key = some principal) :
    store.size = keys.length := by
  have perm : store.names.Perm keys :=
    (List.perm_ext_iff_of_nodup store.distinct distinct).mpr fun key =>
      mem_names.trans (same key).symm
  simpa [size, names] using perm.length_eq

theorem get?_after (store : Store) (username : Option String) (result : Except AuthError Principal)
    (key : String) :
    (store.after username result).get? key =
      match result with
      | .ok principal => if username = some key then some principal else store.get? key
      | .error _ => store.get? key := by
  rcases result with error | principal
  · rfl
  · rcases username with _ | name
    · simp [after]
    · by_cases same : name = key
      · simp [after, same]
      · simp [after, same, get?_put_of_ne store principal (Ne.symm same)]

end Store

/-- One login of a run, as it went. -/
structure Attempt where
  submission : Submission
  result : Except AuthError Principal
  /-- What the peers were asked, and what they answered. -/
  calls : List PeerCall
  before : Store
  after : Store

namespace Attempt

/-- The attempt logged a client in under a name. -/
def Succeeded (attempt : Attempt) (key : String) (principal : Principal) : Prop :=
  attempt.submission.username = some key ∧ attempt.result = .ok principal

/-- The name under which the attempt logged a client in. -/
def boundName? (attempt : Attempt) : Option String :=
  match attempt.result with
  | .ok _ => attempt.submission.username
  | .error _ => none

theorem boundName?_eq_some {attempt : Attempt} {key : String} :
    attempt.boundName? = some key ↔ ∃ principal, attempt.Succeeded key principal := by
  unfold boundName? Succeeded
  rcases attempt.result with error | principal <;> simp

/-- The access tokens that were validated, with the answers. -/
def validations (attempt : Attempt) : List (String × Except AuthError Token) :=
  attempt.calls.filterMap fun
    | .validate bearer answer => some (bearer, answer)
    | .acquire .. => none

end Attempt

/-- An attempt is the last one of a run that succeeded under a name. -/
def LastSuccess (attempts : List Attempt) (key : String) (attempt : Attempt)
    (principal : Principal) : Prop :=
  ∃ earlier later, attempts = earlier ++ attempt :: later ∧ attempt.Succeeded key principal ∧
    ∀ other ∈ later, ∀ principal, ¬other.Succeeded key principal

/-- A world whose peers have not noted anything yet. -/
def World.unnoted (world : World σ) : World (σ × List PeerCall) where
  peers := (world.peers, [])
  store := world.store
  log := world.log

namespace Service

variable (service : Service σ)

/-- Logs a client in and writes down how it went. -/
def attempt (submission : Submission) (world : World σ) : Attempt × World σ :=
  let (result, next) := (service.authenticate submission).run world
  let (_, noted) := (service.noting.authenticate submission).run world.unnoted
  ({ submission, result, calls := noted.peers.2, before := world.store, after := next.store }, next)

/-- Logs clients in, one after the other. -/
def run : List Submission → World σ → List Attempt × World σ
  | [], world => ([], world)
  | submission :: rest, world =>
    let (attempt, next) := service.attempt submission world
    let (attempts, last) := run rest next
    (attempt :: attempts, last)

/-- The notes are taken of the very login: the noting peers give it the same result and leave the
same world. -/
theorem authenticate_noting (submission : Submission) (world : World σ) :
    let plain := (service.authenticate submission).run world
    let noted := (service.noting.authenticate submission).run world.unnoted
    noted.1 = plain.1 ∧ noted.2.peers.1 = plain.2.peers ∧ noted.2.store = plain.2.store ∧
      noted.2.log = plain.2.log := by
  simp [authenticate_run, World.unnoted, course_noting, Course.noted]

theorem attempt_eq (submission : Submission) (world : World σ) :
    service.attempt submission world =
      let course := service.course submission world.peers world.store
      let store := world.store.after submission.username course.result
      ({ submission, result := course.result, calls := course.calls
         before := world.store, after := store },
        { peers := course.peers, store, log := world.log ++ course.events }) := by
  simp [attempt, authenticate_run, World.unnoted, course_noting, Course.noted]

end Service

namespace Attempt

/-- An attempt that fails leaves the store as it was. -/
theorem after_eq_of_failed (service : Service σ) (submission : Submission) (world : World σ)
    {error : AuthError} (h : (service.attempt submission world).1.result = .error error) :
    (service.attempt submission world).1.after = (service.attempt submission world).1.before := by
  simp only [Service.attempt_eq] at h ⊢
  simp [h, Store.after]

/-- An attempt that succeeds validated one access token, which the principal carries and is named
after.  Its name is the submitted one unless the token was bought for a client secret. -/
theorem of_succeeded (service : Service σ) (submission : Submission) (world : World σ)
    {key : String} {principal : Principal}
    (h : (service.attempt submission world).1.Succeeded key principal) :
    principal.name = principal.token.principalName ∧
      ∃ bearer, (service.attempt submission world).1.validations = [(bearer, .ok principal.token)] ∧
        (principal.name = key ∨
          ∃ endpoint secret, service.endpoint = some endpoint ∧
            (service.attempt submission world).1.submission.password = some secret ∧
            (service.attempt submission world).1.calls =
              [.acquire endpoint key secret (.ok bearer),
                .validate bearer (.ok principal.token)]) := by
  obtain ⟨named, result⟩ := h
  simp only [Service.attempt_eq, validations] at named result ⊢
  obtain ⟨token, bearer, rfl, submitted | bought⟩ := service.course_ok named result
  · exact ⟨rfl, bearer, by simp [submitted.1, Principal.user], .inl submitted.2⟩
  · obtain ⟨endpoint, secret, hendpoint, hsecret, calls⟩ := bought
    exact ⟨rfl, bearer, by simp [calls, Principal.user],
      .inr ⟨endpoint, secret, hendpoint, hsecret, calls⟩⟩

end Attempt

theorem lastSuccess_cons {first : Attempt} {rest : List Attempt} {key : String} {attempt : Attempt}
    {principal : Principal} :
    LastSuccess (first :: rest) key attempt principal ↔
      LastSuccess rest key attempt principal ∨
        (attempt = first ∧ first.Succeeded key principal ∧
          ∀ other ∈ rest, ∀ principal, ¬other.Succeeded key principal) := by
  constructor
  · rintro ⟨_ | ⟨head, earlier⟩, later, split, succeeded, noneLater⟩
    · obtain ⟨rfl, rfl⟩ := List.cons.inj split
      exact .inr ⟨rfl, succeeded, noneLater⟩
    · obtain ⟨rfl, rest⟩ := List.cons.inj split
      exact .inl ⟨earlier, later, rest, succeeded, noneLater⟩
  · rintro (⟨earlier, later, rfl, succeeded, noneLater⟩ | ⟨rfl, succeeded, noneLater⟩)
    · exact ⟨first :: earlier, later, rfl, succeeded, noneLater⟩
    · exact ⟨[], rest, rfl, succeeded, noneLater⟩

/-- A run in which some attempt succeeds under a name has a last such attempt. -/
theorem exists_lastSuccess {attempts : List Attempt} {key : String}
    (h : ∃ attempt ∈ attempts, ∃ principal, attempt.Succeeded key principal) :
    ∃ attempt principal, LastSuccess attempts key attempt principal := by
  induction attempts with
  | nil => simp at h
  | cons first rest ih =>
    by_cases later : ∃ attempt ∈ rest, ∃ principal, attempt.Succeeded key principal
    · obtain ⟨attempt, principal, last⟩ := ih later
      exact ⟨attempt, principal, lastSuccess_cons.mpr (.inl last)⟩
    · obtain ⟨attempt, member, principal, succeeded⟩ := h
      rcases List.mem_cons.mp member with rfl | member
      · have last := lastSuccess_cons.mpr (.inr ⟨rfl, succeeded, by simpa using later⟩)
        exact ⟨attempt, principal, last⟩
      · exact absurd ⟨attempt, member, principal, succeeded⟩ later

namespace Service

variable (service : Service σ)

/-- One login changes the entry of its name if it succeeds, and nothing else. -/
theorem get?_attempt (submission : Submission) (world : World σ) (key : String)
    (principal : Principal) :
    (service.attempt submission world).2.store.get? key = some principal ↔
      (service.attempt submission world).1.Succeeded key principal ∨
        ((∀ other, ¬(service.attempt submission world).1.Succeeded key other) ∧
          world.store.get? key = some principal) := by
  simp only [attempt_eq, Attempt.Succeeded, Store.get?_after]
  rcases (service.course submission world.peers world.store).result with error | bound
  · simp
  · by_cases same : submission.username = some key <;> simp [same]

/-- The entries after a run are those of the last successes, and those from before of names under
which no login succeeded. -/
theorem get?_run (submissions : List Submission) (world : World σ) (key : String)
    (principal : Principal) :
    (service.run submissions world).2.store.get? key = some principal ↔
      (∃ attempt, LastSuccess (service.run submissions world).1 key attempt principal) ∨
        ((∀ attempt ∈ (service.run submissions world).1, ∀ other,
            ¬attempt.Succeeded key other) ∧
          world.store.get? key = some principal) := by
  induction submissions generalizing world with
  | nil => simp [run, LastSuccess]
  | cons submission rest ih =>
    simp only [run, ih, get?_attempt, lastSuccess_cons, List.forall_mem_cons]
    constructor
    · rintro (⟨attempt, last⟩ | ⟨noneLater, succeeded | ⟨failed, kept⟩⟩)
      · exact .inl ⟨attempt, .inl last⟩
      · exact .inl ⟨_, .inr ⟨rfl, succeeded, noneLater⟩⟩
      · exact .inr ⟨⟨failed, noneLater⟩, kept⟩
    · rintro (⟨attempt, last | ⟨-, succeeded, noneLater⟩⟩ | ⟨⟨failed, noneLater⟩, kept⟩)
      · exact .inl ⟨attempt, last⟩
      · exact .inr ⟨noneLater, .inl succeeded⟩
      · exact .inr ⟨noneLater, .inr ⟨failed, kept⟩⟩

theorem mem_run {submissions : List Submission} {world : World σ} {attempt : Attempt}
    (member : attempt ∈ (service.run submissions world).1) :
    ∃ submission before, attempt = (service.attempt submission before).1 := by
  induction submissions generalizing world with
  | nil => simp [run] at member
  | cons submission rest ih =>
    rcases List.mem_cons.mp member with rfl | member
    · exact ⟨submission, world, rfl⟩
    · exact ih member

theorem run_submissions (submissions : List Submission) (world : World σ) :
    (service.run submissions world).1.map (·.submission) = submissions := by
  induction submissions generalizing world with
  | nil => rfl
  | cons submission rest ih => simp [run, attempt_eq, ih]

end Service

/-- What a store that began empty shows of the logins of a service. -/
structure Store.Mirrors (store : Store) (service : Service σ) (attempts : List Attempt) : Prop where
  /-- Under a name stands the principal of the last login that succeeded under it. -/
  entry : ∀ key principal, store.get? key = some principal ↔
    ∃ attempt, LastSuccess attempts key attempt principal
  /-- Nothing stands under a name under which no login succeeded. -/
  absent : ∀ key, store.get? key = none ↔
    ∀ attempt ∈ attempts, ∀ principal, ¬attempt.Succeeded key principal
  /-- The size is the number of different names under which logins succeeded. -/
  size : store.size = (attempts.filterMap Attempt.boundName?).dedup.length
  /-- A login that fails leaves the store as it was. -/
  failed : ∀ attempt ∈ attempts, ∀ error, attempt.result = .error error →
    attempt.after = attempt.before
  /-- A stored principal carries the token that the validator answered in that very login, the only
  one that it was asked about, and is named after it. -/
  validated : ∀ key attempt principal, LastSuccess attempts key attempt principal →
    principal.name = principal.token.principalName ∧
      ∃ bearer, attempt.validations = [(bearer, .ok principal.token)]
  /-- A principal with another name than its key was bought for a client secret. -/
  renamed : ∀ key attempt principal, LastSuccess attempts key attempt principal →
    principal.name ≠ key →
      ∃ endpoint secret bearer, service.endpoint = some endpoint ∧
        attempt.submission.password = some secret ∧
        attempt.calls =
          [.acquire endpoint key secret (.ok bearer), .validate bearer (.ok principal.token)]
  /-- Without a token endpoint every principal has the name of its key. -/
  unrenamed : service.endpoint = none → ∀ key principal, store.get? key = some principal →
    principal.name = key

namespace Service

variable (service : Service σ)

/-- The last success under a name had one access token validated. -/
theorem of_lastSuccess {submissions : List Submission} {world : World σ} {key : String}
    {attempt : Attempt} {principal : Principal}
    (last : LastSuccess (service.run submissions world).1 key attempt principal) :
    principal.name = principal.token.principalName ∧
      ∃ bearer, attempt.validations = [(bearer, .ok principal.token)] ∧
        (principal.name = key ∨
          ∃ endpoint secret, service.endpoint = some endpoint ∧
            attempt.submission.password = some secret ∧
            attempt.calls =
              [.acquire endpoint key secret (.ok bearer),
                .validate bearer (.ok principal.token)]) := by
  obtain ⟨earlier, later, split, succeeded, -⟩ := last
  have member : attempt ∈ (service.run submissions world).1 := by simp [split]
  obtain ⟨submission, before, rfl⟩ := service.mem_run member
  exact Attempt.of_succeeded service submission before succeeded

/-- After a run from an empty store, the entry of a name is that of the last success under it. -/
theorem get?_run_empty (submissions : List Submission) (peers : σ) (log : List Event)
    (key : String) (principal : Principal) :
    (service.run submissions { peers, log }).2.store.get? key = some principal ↔
      ∃ attempt, LastSuccess (service.run submissions { peers, log }).1 key attempt principal := by
  rw [get?_run]
  simp

theorem exists_get?_run_empty (submissions : List Submission) (peers : σ) (log : List Event)
    (key : String) :
    (∃ principal, (service.run submissions { peers, log }).2.store.get? key = some principal) ↔
      ∃ attempt ∈ (service.run submissions { peers, log }).1,
        ∃ principal, attempt.Succeeded key principal := by
  simp only [get?_run_empty]
  constructor
  · rintro ⟨principal, attempt, earlier, later, split, succeeded, -⟩
    exact ⟨attempt, by simp [split], principal, succeeded⟩
  · intro h
    obtain ⟨attempt, principal, last⟩ := exists_lastSuccess h
    exact ⟨principal, attempt, last⟩

end Service

/-- Whatever is submitted and whatever the peers answer, the store mirrors the run. -/
theorem store_mirrors_run (service : Service σ) (submissions : List Submission) (peers : σ)
    (log : List Event) :
    (service.run submissions { peers, log }).1.map (·.submission) = submissions ∧
      (service.run submissions { peers, log }).2.store.Mirrors service
        (service.run submissions { peers, log }).1 := by
  have entry := service.get?_run_empty submissions peers log
  have success := service.exists_get?_run_empty submissions peers log
  have renamed : ∀ key attempt principal,
      LastSuccess (service.run submissions { peers, log }).1 key attempt principal →
      principal.name ≠ key →
        ∃ endpoint secret bearer, service.endpoint = some endpoint ∧
          attempt.submission.password = some secret ∧
          attempt.calls = [.acquire endpoint key secret (.ok bearer),
            .validate bearer (.ok principal.token)] := by
    intro key attempt principal last other
    obtain ⟨-, bearer, -, same | ⟨endpoint, secret, hendpoint, hsecret, calls⟩⟩ :=
      service.of_lastSuccess last
    · exact absurd same other
    · exact ⟨endpoint, secret, bearer, hendpoint, hsecret, calls⟩
  refine ⟨service.run_submissions submissions _, ⟨entry, ?_, ?_, ?_, ?_, renamed, ?_⟩⟩
  · intro key
    rw [Option.eq_none_iff_forall_ne_some, ← not_iff_not]
    simpa using success key
  · refine Store.size_eq_length (List.nodup_dedup _) fun key => ?_
    simp only [List.mem_dedup, List.mem_filterMap, Attempt.boundName?_eq_some]
    exact (success key).symm
  · intro attempt member error failed
    obtain ⟨submission, before, rfl⟩ := service.mem_run member
    exact Attempt.after_eq_of_failed service submission before failed
  · intro key attempt principal last
    obtain ⟨named, bearer, validations, -⟩ := service.of_lastSuccess last
    exact ⟨named, bearer, validations⟩
  · intro none key principal stored
    by_contra other
    obtain ⟨attempt, last⟩ := (entry key principal).mp stored
    obtain ⟨endpoint, -, -, hendpoint, -⟩ := renamed key attempt principal last other
    simp [none] at hendpoint

end BearerLogin
