import BearerLogin.Proofs.Login.Run
import BearerLogin.Proofs.Text

/-! The paths of a login.  `Service.Login` tells them apart by the password and by the answers of the
peers, with one rule for each: what the peers are asked, in which order and with which arguments,
what comes of the login, and which store it leaves.  Every login goes by exactly one rule. -/

namespace BearerLogin

open Steps

/-- No access token is marked in a password. -/
def Unmarked (password : String) : Prop :=
  ∀ token, password ≠ tokenMarker ++ token

/-- The marker is taken off once, whatever stands behind it. -/
theorem markedToken?_eq_some {password token : String} :
    markedToken? password = some token ↔ password = tokenMarker ++ token := by
  rw [markedToken?, Option.map_eq_some_iff]
  constructor
  · rintro ⟨rest, dropped, rfl⟩
    rw [dropFront?_eq_some] at dropped
    rw [← String.toList_inj, String.toList_append, String.toList_ofList, dropped]
  · rintro rfl
    refine ⟨token.toList, ?_, String.ofList_toList⟩
    rw [dropFront?_eq_some, String.toList_append]

theorem markedToken?_eq_none {password : String} :
    markedToken? password = none ↔ Unmarked password := by
  rw [Option.eq_none_iff_forall_ne_some]
  exact forall_congr' fun token => not_congr markedToken?_eq_some

namespace Service

/-- A password is or holds an access token: a token may be marked whether there is a token endpoint
or not, and without one every other password is a token as it stands. -/
inductive Carries (service : Service σ) : String → String → Prop
  | marked (token : String) : service.Carries (tokenMarker ++ token) token
  | bare (password : String) (unmarked : Unmarked password) (none : service.endpoint = none) :
    service.Carries password password

/-- A password is a client secret for a token endpoint. -/
structure Buys (service : Service σ) (password : String) (endpoint : Url) : Prop where
  unmarked : Unmarked password
  endpoint : service.endpoint = some endpoint

/-- A login: the submission, what the peers are asked and answer, what comes of it, and the store
behind it.  A token that the client carries has to be issued for the client's name, one that is
bought has not. -/
inductive Login (service : Service σ) (world : World σ) :
    Submission → List PeerCall → Except AuthError Principal → Store → Prop
  | nameless (password : Option String) :
    Login service world ⟨none, password⟩ [] (.error (.configuration .usernameMissing)) world.store
  | passwordless (username : String) (fault : SetupFault)
    (lacks : fault = if service.hasEndpoint then .secretMissing else .endpointMissing) :
    Login service world ⟨some username, none⟩ [] (.error (.configuration fault)) world.store
  | rejected (username : String) {password bearer : String} {cause : AuthError}
    (carries : service.Carries password bearer)
    (refused : (service.peers.validate bearer world.peers).result = .error cause) :
    Login service world ⟨some username, some password⟩ [.validate bearer (.error cause)]
      (.error cause) world.store
  | mismatched {username password bearer : String} {token : Token}
    (carries : service.Carries password bearer)
    (valid : (service.peers.validate bearer world.peers).result = .ok token)
    (other : username ≠ token.principalName) :
    Login service world ⟨some username, some password⟩ [.validate bearer (.ok token)]
      (.error (.identityMismatch username token.principalName)) world.store
  | matched {password bearer : String} {token : Token}
    (carries : service.Carries password bearer)
    (valid : (service.peers.validate bearer world.peers).result = .ok token) :
    Login service world ⟨some token.principalName, some password⟩ [.validate bearer (.ok token)]
      (.ok (.user token)) (world.store.put token.principalName (.user token))
  | unsold (username : String) {password : String} {endpoint : Url} {cause : AuthError}
    (buys : service.Buys password endpoint)
    (refused : (service.peers.acquire endpoint username password world.peers).result =
      .error cause) :
    Login service world ⟨some username, some password⟩
      [.acquire endpoint username password (.error cause)] (.error cause) world.store
  | soldInvalid (username : String) {password bearer : String} {endpoint : Url} {cause : AuthError}
    (buys : service.Buys password endpoint)
    (sold : (service.peers.acquire endpoint username password world.peers).result = .ok bearer)
    (refused : (service.peers.validate bearer
      (service.peers.acquire endpoint username password world.peers).next).result = .error cause) :
    Login service world ⟨some username, some password⟩
      [.acquire endpoint username password (.ok bearer), .validate bearer (.error cause)]
      (.error cause) world.store
  | sold (username : String) {password bearer : String} {endpoint : Url} {token : Token}
    (buys : service.Buys password endpoint)
    (sold : (service.peers.acquire endpoint username password world.peers).result = .ok bearer)
    (valid : (service.peers.validate bearer
      (service.peers.acquire endpoint username password world.peers).next).result = .ok token) :
    Login service world ⟨some username, some password⟩
      [.acquire endpoint username password (.ok bearer), .validate bearer (.ok token)]
      (.ok (.user token)) (world.store.put username (.user token))

variable (service : Service σ)

theorem carries_or_buys (password : String) :
    (∃ bearer, service.Carries password bearer) ∨ ∃ endpoint, service.Buys password endpoint := by
  rcases marked : markedToken? password with _ | token
  · have unmarked := markedToken?_eq_none.mp marked
    rcases endpoint : service.endpoint with _ | endpoint'
    · exact .inl ⟨password, .bare password unmarked endpoint⟩
    · exact .inr ⟨endpoint', unmarked, endpoint⟩
  · obtain rfl := markedToken?_eq_some.mp marked
    exact .inl ⟨token, .marked token⟩

theorem attempt_nameless (password : Option String) (world : World σ) :
    (service.attempt ⟨none, password⟩ world).1 =
      { submission := ⟨none, password⟩, result := .error (.configuration .usernameMissing)
        calls := [], before := world.store, after := world.store } := by
  rw [attempt_eq]
  rfl

theorem attempt_named (username : String) (password : Option String) (world : World σ) :
    let source := service.sourceOf username password
    let validated := service.validated username source world.peers
    let result := validated.result.bind (admission username source)
    (service.attempt ⟨some username, password⟩ world).1 =
      { submission := ⟨some username, password⟩, result, calls := validated.calls
        before := world.store, after := world.store.after (some username) result } := by
  rw [attempt_eq]
  unfold course
  dsimp only
  rcases (service.validated username _ world.peers).result with error | token <;> rfl

variable {service} {username password bearer : String} {endpoint : Url} {world : World σ}

theorem sourceOf_of_carries (carries : service.Carries password bearer) (username : String) :
    service.sourceOf username (some password) = .marked bearer ∨
      service.sourceOf username (some password) = .bare bearer := by
  unfold sourceOf classify
  cases carries with
  | marked token => simp [markedToken?_eq_some.mpr rfl]
  | bare password unmarked none =>
    simp [markedToken?_eq_none.mpr unmarked, hasEndpoint, none]

theorem sourceOf_of_buys (buys : service.Buys password endpoint) (username : String) :
    service.sourceOf username (some password) = .clientCredentials username (some password) := by
  unfold sourceOf classify
  simp [markedToken?_eq_none.mpr buys.unmarked, hasEndpoint, buys.endpoint]

theorem admission_of_requiresMatch {source : TokenSource} (required : source.requiresMatch = true)
    (username : String) :
    admission username source = fun token =>
      if username ≠ token.principalName then
        .error (.identityMismatch username token.principalName)
      else .ok (.user token) := by
  funext token
  simp only [admission, required, Bool.true_and, decide_eq_true_eq]

/-- The token that a client carries is validated, and its name is compared. -/
theorem attempt_of_carries (carries : service.Carries password bearer) (username : String)
    (world : World σ) :
    let answer := service.peers.validate bearer world.peers
    let result := answer.result.bind fun token =>
      if username ≠ token.principalName then
        .error (.identityMismatch username token.principalName)
      else .ok (.user token)
    (service.attempt ⟨some username, some password⟩ world).1 =
      { submission := ⟨some username, some password⟩, result
        calls := [.validate bearer answer.result]
        before := world.store, after := world.store.after (some username) result } := by
  rw [attempt_named]
  rcases sourceOf_of_carries carries username with source | source
  · rw [source, admission_of_requiresMatch rfl]
    rfl
  · rw [source, admission_of_requiresMatch rfl]
    rfl

/-- A client secret is exchanged, and a token that is bought for it is validated. -/
theorem attempt_of_buys (buys : service.Buys password endpoint) (username : String)
    (world : World σ) :
    let sale := service.peers.acquire endpoint username password world.peers
    let result := sale.result.bind fun bearer =>
      ((service.peers.validate bearer sale.next).result.map Principal.user)
    (service.attempt ⟨some username, some password⟩ world).1 =
      { submission := ⟨some username, some password⟩, result
        calls := .acquire endpoint username password sale.result ::
          match sale.result with
          | .ok bearer => [.validate bearer (service.peers.validate bearer sale.next).result]
          | .error _ => []
        before := world.store, after := world.store.after (some username) result } := by
  rw [attempt_named, sourceOf_of_buys buys]
  simp only [validated, obtained, buys.endpoint]
  rcases (service.peers.acquire endpoint username password world.peers).result with cause | bearer
  · rfl
  · rfl

/-- What a login is said to do by a rule is what it does. -/
theorem Login.eq_attempt {submission : Submission} {calls : List PeerCall}
    {result : Except AuthError Principal} {store : Store}
    (login : service.Login world submission calls result store) :
    (service.attempt submission world).1 =
      { submission, result, calls, before := world.store, after := store } := by
  cases login with
  | nameless password => rw [attempt_nameless]
  | passwordless username fault lacks =>
    subst lacks
    rw [attempt_named]
    rcases endpoint : service.endpoint with _ | endpoint <;>
      simp [sourceOf, classify, validated, obtained, endpoint, hasEndpoint, Except.bind,
        Store.after]
  | rejected username carries refused =>
    rw [attempt_of_carries carries, refused]
    rfl
  | mismatched carries valid other =>
    rw [attempt_of_carries carries, valid]
    simp only [Except.bind, if_pos other, Store.after]
  | matched carries valid =>
    rw [attempt_of_carries carries, valid]
    simp only [Except.bind, ne_eq, not_true_eq_false, if_false, Store.after]
  | unsold username buys refused =>
    rw [attempt_of_buys buys, refused]
    rfl
  | soldInvalid username buys sold refused =>
    rw [attempt_of_buys buys, sold]
    simp only [Except.bind, refused, Except.map, Store.after]
  | sold username buys sold valid =>
    rw [attempt_of_buys buys, sold]
    simp only [Except.bind, valid, Except.map, Store.after]

variable (service)

/-- Some rule says what a login does. -/
theorem exists_login (submission : Submission) (world : World σ) :
    ∃ calls result store, service.Login world submission calls result store := by
  obtain ⟨_ | username, password⟩ := submission
  · exact ⟨_, _, _, .nameless password⟩
  · rcases password with _ | password
    · exact ⟨_, _, _, .passwordless username _ rfl⟩
    · obtain ⟨bearer, carries⟩ | ⟨endpoint, buys⟩ := service.carries_or_buys password
      · rcases answer : (service.peers.validate bearer world.peers).result with cause | token
        · exact ⟨_, _, _, .rejected username carries answer⟩
        · by_cases same : username = token.principalName
          · subst same
            exact ⟨_, _, _, .matched carries answer⟩
          · exact ⟨_, _, _, .mismatched carries answer same⟩
      · rcases sale : (service.peers.acquire endpoint username password world.peers).result
          with cause | bearer
        · exact ⟨_, _, _, .unsold username buys sale⟩
        · rcases answer : (service.peers.validate bearer
            (service.peers.acquire endpoint username password world.peers).next).result
            with cause | token
          · exact ⟨_, _, _, .soldInvalid username buys sale answer⟩
          · exact ⟨_, _, _, .sold username buys sale answer⟩

theorem login_of_attempt (submission : Submission) (world : World σ) :
    service.Login world submission (service.attempt submission world).1.calls
      (service.attempt submission world).1.result
      (service.attempt submission world).1.after := by
  obtain ⟨calls, result, store, login⟩ := service.exists_login submission world
  rw [login.eq_attempt]
  exact login

/-- Nothing is stored until the validator has answered. -/
theorem store_until_validated (submission : Submission) (username : String) (world : World σ) :
    ((service.resolve submission >>= service.validate username).run world).2.store =
      world.store := by
  obtain ⟨_ | submitted, password⟩ := submission
  · rfl
  · simp only [run_bind, resolve_run]
    rcases (service.obtained world.peers _).result with cause | bearer
    · rfl
    · simp only [Except.map, validate_run]

/-- What a login asks its peers, what comes of it and what it stores is what one of the rules says,
and no other rule says anything else.  It stores nothing before the validator has answered. -/
theorem login_iff_attempt (service : Service σ) (submission : Submission) (world : World σ) :
    (∀ calls result store, service.Login world submission calls result store ↔
        (service.attempt submission world).1 =
          { submission, result, calls, before := world.store, after := store }) ∧
      ∀ username, ((service.resolve submission >>= service.validate username).run world).2.store =
        world.store := by
  refine ⟨fun calls result store => ⟨Login.eq_attempt, fun attempt => ?_⟩, fun username =>
    service.store_until_validated submission username world⟩
  have login := service.login_of_attempt submission world
  rwa [attempt] at login

end Service

end BearerLogin
