import BearerLogin.Login
import BearerLogin.Proofs.Steps

/-! The course of a login.  A login asks its peers at most twice, once for an access token and once
whether the token is valid, and what becomes of the world depends on the two answers alone.
`course` says this in one function, `authenticate_run` that a login does what `course` says, and
`authenticate_noting` that the questions of `course` are the ones that the peers hear. -/

namespace BearerLogin

open Steps

namespace LoginM

variable (world : World σ)

@[simp] theorem run_lacking (fault : SetupFault) :
    (lacking fault : LoginM σ α).run world = (.error (.configuration fault), world) := rfl

@[simp] theorem run_report (event : Event) :
    (report event).run world = (.ok (), world.noting [event]) := rfl

theorem run_ask (question : σ → Answer σ α) :
    (ask question).run world =
      ((question world.peers).result,
        { world with
          peers := (question world.peers).next
          log := world.log ++ (question world.peers).events }) := rfl

end LoginM

/-- A question to a peer, and its answer. -/
inductive PeerCall where
  | validate (bearer : String) (answer : Except AuthError Token)
  | acquire (endpoint : Url) (clientId secret : String) (answer : Except AuthError String)

/-- The peers together with a note of everything that they were asked. -/
def Peers.noting (peers : Peers σ) : Peers (σ × List PeerCall) where
  validatorName := peers.validatorName
  acquirerName := peers.acquirerName
  validate bearer state :=
    let answer := peers.validate bearer state.1
    { result := answer.result
      events := answer.events
      next := (answer.next, state.2 ++ [.validate bearer answer.result]) }
  acquire endpoint clientId secret state :=
    let answer := peers.acquire endpoint clientId secret state.1
    { result := answer.result
      events := answer.events
      next := (answer.next, state.2 ++ [.acquire endpoint clientId secret answer.result]) }

/-- What a step of a login comes to: its result, what it asked, what it reported, and the state of
the peers behind it. -/
structure Course (σ α : Type) where
  result : Except AuthError α
  calls : List PeerCall := []
  events : List Event := []
  peers : σ

/-- The store after a login under a name. -/
def Store.after (store : Store) (username : Option String) :
    Except AuthError Principal → Store
  | .ok principal =>
    match username with
    | some key => store.put key principal
    | none => store
  | .error _ => store

namespace Service

/-- The service whose peers note what they are asked. -/
def noting (service : Service σ) : Service (σ × List PeerCall) :=
  ⟨service.peers.noting, service.endpoint⟩

variable (service : Service σ)

/-- How the access token of a source is come by. -/
def obtained (peers : σ) : TokenSource → Course σ String
  | .marked token => { result := .ok token, peers }
  | .bare token => { result := .ok token, peers }
  | .clientCredentials clientId secret =>
    match service.endpoint, secret with
    | none, _ => { result := .error (.configuration .endpointMissing), peers }
    | some _, none => { result := .error (.configuration .secretMissing), peers }
    | some endpoint, some secret =>
      let answer := service.peers.acquire endpoint clientId secret peers
      { result := answer.result
        calls := [.acquire endpoint clientId secret answer.result]
        events := .exchanging clientId endpoint.render service.peers.acquirerName :: answer.events
        peers := answer.next }

/-- The report of a rejected access token. -/
def rejections (username : String) (source : SourceKind) : Except AuthError Token → List Event
  | .ok _ => []
  | .error cause => [.tokenRejected username source service.peers.validatorName cause]

/-- How a source comes to a validated token. -/
def validated (username : String) (source : TokenSource) (peers : σ) : Course σ Token :=
  let obtained := service.obtained peers source
  match obtained.result with
  | .error error => { obtained with result := .error error }
  | .ok bearer =>
    let answer := service.peers.validate bearer obtained.peers
    { result := answer.result
      calls := obtained.calls ++ [.validate bearer answer.result]
      events := obtained.events ++ answer.events ++
        service.rejections username source.kind answer.result
      peers := answer.next }

end Service

/-- The principal for a validated token, unless the token has to be issued for another name. -/
def admission (username : String) (source : TokenSource) (token : Token) :
    Except AuthError Principal :=
  if source.requiresMatch && username ≠ token.principalName then
    .error (.identityMismatch username token.principalName)
  else .ok (.user token)

/-- The reports of binding a principal to a name, or of refusing to. -/
def admissionEvents (username : String) (source : TokenSource) (store : Store) (token : Token) :
    List Event :=
  if source.requiresMatch && username ≠ token.principalName then
    [.mismatched username token.principalName]
  else
    [.stored username (store.get? username).isSome,
      .bound username (Principal.user token).display token.expiresAt,
      .loggedIn username source.kind (Principal.user token).display]

namespace Service

variable (service : Service σ)

/-- The source of the access token for a password under a name. -/
def sourceOf (username : String) (password : Option String) : TokenSource :=
  classify username password service.hasEndpoint

/-- The course of a login. -/
def course (submission : Submission) (peers : σ) (store : Store) : Course σ Principal :=
  match submission.username with
  | none => { result := .error (.configuration .usernameMissing), peers }
  | some username =>
    let source := service.sourceOf username submission.password
    let validated := service.validated username source peers
    let events := .classified username source.kind :: validated.events
    match validated.result with
    | .error error => { validated with result := .error error, events }
    | .ok token =>
      { validated with
        result := admission username source token
        events := events ++ admissionEvents username source store token }

variable (world : World σ)

theorem exchange_run (clientId : String) (secret : Option String) :
    (service.exchange clientId secret).run world =
      let obtained := service.obtained world.peers (.clientCredentials clientId secret)
      (obtained.result,
        { world with peers := obtained.peers, log := world.log ++ obtained.events }) := by
  unfold exchange obtained
  rcases service.endpoint with _ | endpoint
  · simp
  · rcases secret with _ | secret
    · simp
    · simp [run_bind, LoginM.run_ask, World.noting]

theorem bearerToken_run (source : TokenSource) :
    (service.bearerToken source).run world =
      let obtained := service.obtained world.peers source
      (obtained.result,
        { world with peers := obtained.peers, log := world.log ++ obtained.events }) := by
  cases source with
  | marked token => simp [bearerToken, obtained]
  | bare token => simp [bearerToken, obtained]
  | clientCredentials clientId secret => exact exchange_run service world clientId secret

theorem resolve_run (username : String) (password : Option String) :
    (service.resolve ⟨some username, password⟩).run world =
      let source := service.sourceOf username password
      let obtained := service.obtained world.peers source
      (obtained.result.map fun bearer => ⟨bearer, source.requiresMatch, source.kind⟩,
        { world with
          peers := obtained.peers
          log := world.log ++ .classified username source.kind :: obtained.events }) := by
  simp only [resolve, run_bind, LoginM.run_report, bearerToken_run, World.noting, sourceOf]
  rcases (service.obtained world.peers _).result with error | bearer <;> simp [Except.map]

theorem validate_run (username : String) (resolved : ResolvedToken) :
    (service.validate username resolved).run world =
      let answer := service.peers.validate resolved.bearerToken world.peers
      (answer.result,
        { world with
          peers := answer.next
          log := world.log ++ answer.events ++
            service.rejections username resolved.source answer.result }) := by
  unfold validate
  simp only [run_tryCatch, LoginM.run_ask]
  rcases (service.peers.validate resolved.bearerToken world.peers).result with error | token
  · simp [run_bind, rejections, World.noting]
  · simp [rejections]

end Service

theorem storePrincipal_run (world : World σ) (key : String) (principal : Principal) :
    (storePrincipal key principal).run world =
      (.ok (),
        { world with
          store := world.store.put key principal
          log := world.log ++ [.stored key (world.store.get? key).isSome] }) := rfl

theorem bindPrincipal_run (world : World σ) (username : String) (source : TokenSource)
    (token : Token) :
    (bindPrincipal username source.requiresMatch token >>= fun principal => do
        LoginM.report (.loggedIn username source.kind principal.display)
        return principal : LoginM σ Principal).run world =
      (admission username source token,
        { world with
          store := world.store.after (some username) (admission username source token)
          log := world.log ++ admissionEvents username source world.store token }) := by
  unfold bindPrincipal admission admissionEvents
  split
  · simp only [run_bind, LoginM.run_report, run_throw, World.noting, Store.after]
  · simp only [run_bind, LoginM.run_report, run_pure, storePrincipal_run,
      World.noting, Store.after, List.append_assoc, List.cons_append, List.nil_append]

namespace Service

/-- A login does what its course says. -/
theorem authenticate_run (service : Service σ) (submission : Submission) (world : World σ) :
    (service.authenticate submission).run world =
      let course := service.course submission world.peers world.store
      (course.result,
        { peers := course.peers
          store := world.store.after submission.username course.result
          log := world.log ++ course.events }) := by
  obtain ⟨_ | username, password⟩ := submission
  · simp [authenticate, course, Store.after]
  · unfold authenticate course validated
    simp only [run_bind, resolve_run]
    rcases (service.obtained world.peers _).result with error | bearer
    · simp [Except.map, Store.after]
    · simp only [Except.map, validate_run]
      rcases (service.peers.validate bearer _).result with error | token
      · simp [Store.after, List.append_assoc]
      · simp only [← run_bind, bindPrincipal_run, List.append_assoc, List.cons_append]

end Service

namespace Service

variable (service : Service σ)

/-- A source with an access token is a token that has to match, or a client secret that the token
endpoint took. -/
theorem obtained_ok {peers : σ} {source : TokenSource} {bearer : String}
    (h : (service.obtained peers source).result = .ok bearer) :
    (service.obtained peers source).calls = [] ∧ source.requiresMatch ∨
      ∃ endpoint clientId secret, service.endpoint = some endpoint ∧
        source = .clientCredentials clientId (some secret) ∧
        (service.obtained peers source).calls =
          [.acquire endpoint clientId secret (.ok bearer)] := by
  cases source with
  | marked token => exact .inl ⟨rfl, rfl⟩
  | bare token => exact .inl ⟨rfl, rfl⟩
  | clientCredentials clientId secret =>
    unfold obtained at h ⊢
    rcases hendpoint : service.endpoint with _ | endpoint
    · simp [hendpoint] at h
    · rcases secret with _ | secret
      · simp [hendpoint] at h
      · simp only [hendpoint] at h ⊢
        exact .inr ⟨endpoint, clientId, secret, rfl, rfl, by rw [h]⟩

theorem sourceOf_clientCredentials {username clientId : String} {password secret : Option String}
    (h : service.sourceOf username password = .clientCredentials clientId secret) :
    clientId = username ∧ secret = password := by
  unfold sourceOf classify at h
  split at h
  · simp_all
  · split at h
    · simp at h
    · split at h <;> simp_all

theorem validated_ok {username : String} {source : TokenSource} {peers : σ} {token : Token}
    (h : (service.validated username source peers).result = .ok token) :
    ∃ bearer, (service.obtained peers source).result = .ok bearer ∧
      (service.validated username source peers).calls =
        (service.obtained peers source).calls ++ [.validate bearer (.ok token)] := by
  unfold validated at h ⊢
  rcases hbearer : (service.obtained peers source).result with error | bearer
  · simp [hbearer] at h
  · simp only [hbearer] at h ⊢
    exact ⟨bearer, rfl, by rw [h]⟩

theorem admission_ok {username : String} {source : TokenSource} {token : Token}
    {principal : Principal} (h : admission username source token = .ok principal) :
    principal = .user token ∧ (source.requiresMatch → token.principalName = username) := by
  unfold admission at h
  split at h
  · simp at h
  · next matched =>
    simp only [Except.ok.injEq] at h
    exact ⟨h.symm, fun required => by simp_all⟩

/-- A login that succeeds had one access token validated and made its principal of it.  The token
was submitted and names the client, or the token endpoint sold it for the client's secret. -/
theorem course_ok {submission : Submission} {key : String} {peers : σ} {store : Store}
    {principal : Principal} (named : submission.username = some key)
    (h : (service.course submission peers store).result = .ok principal) :
    ∃ token bearer, principal = .user token ∧
      ((service.course submission peers store).calls = [.validate bearer (.ok token)] ∧
          token.principalName = key ∨
        ∃ endpoint secret, service.endpoint = some endpoint ∧
          submission.password = some secret ∧
          (service.course submission peers store).calls =
            [.acquire endpoint key secret (.ok bearer), .validate bearer (.ok token)]) := by
  obtain ⟨_, password⟩ := submission
  subst named
  unfold course at h ⊢
  simp only at h ⊢
  rcases htoken : (service.validated key (service.sourceOf key password) peers).result
    with error | token
  · simp [htoken] at h
  · simp only [htoken] at h ⊢
    obtain ⟨rfl, matched⟩ := admission_ok h
    obtain ⟨bearer, hbearer, calls⟩ := service.validated_ok htoken
    refine ⟨token, bearer, rfl, ?_⟩
    rw [calls]
    rcases service.obtained_ok hbearer with ⟨none, required⟩ |
      ⟨endpoint, clientId, secret, hendpoint, source, bought⟩
    · exact .inl ⟨by simp [none], matched required⟩
    · obtain ⟨rfl, hsecret⟩ := service.sourceOf_clientCredentials source
      exact .inr ⟨endpoint, secret, hendpoint, hsecret.symm, by simp [bought]⟩

end Service

/-- A course whose peers had noted `earlier` and note what it asks. -/
def Course.noted (course : Course σ α) (earlier : List PeerCall) :
    Course (σ × List PeerCall) α :=
  { course with peers := (course.peers, earlier ++ course.calls) }

namespace Service

variable (service : Service σ) (peers : σ) (earlier : List PeerCall)

theorem obtained_noting (source : TokenSource) :
    service.noting.obtained (peers, earlier) source =
      (service.obtained peers source).noted earlier := by
  cases source with
  | marked token => simp [obtained, Course.noted]
  | bare token => simp [obtained, Course.noted]
  | clientCredentials clientId secret =>
    unfold obtained
    simp only [noting]
    rcases service.endpoint with _ | endpoint
    · simp [Course.noted]
    · rcases secret with _ | secret <;> simp [Course.noted, Peers.noting]

theorem validated_noting (username : String) (source : TokenSource) :
    service.noting.validated username source (peers, earlier) =
      (service.validated username source peers).noted earlier := by
  unfold validated
  simp only [obtained_noting, Course.noted]
  rcases (service.obtained peers source).result with error | bearer
  · rfl
  · simp [noting, Peers.noting, rejections, List.append_assoc]

theorem course_noting (submission : Submission) (store : Store) :
    service.noting.course submission (peers, earlier) store =
      (service.course submission peers store).noted earlier := by
  obtain ⟨_ | username, password⟩ := submission
  · simp [course, Course.noted]
  · unfold course
    simp only [show service.noting.sourceOf username password = service.sourceOf username password
      from rfl, validated_noting, Course.noted]
    rcases (service.validated username _ peers).result with error | token <;> rfl

end Service

end BearerLogin
