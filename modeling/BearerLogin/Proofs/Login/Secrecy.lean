import BearerLogin.Proofs.Login.Handling

/-! What a login gives away of a password.  The password reaches nobody but the peers: what comes of
a login, what is stored, what is reported and what diagnostics show depend on the kind of the
password and on the answers of the peers.  Everything that a login makes of a source it makes of the
source without its secret too, and so for callbacks without their passwords. -/

namespace BearerLogin

/-! ### Sources without their secrets -/

namespace TokenSource

/-- A source whose token or secret is taken out. -/
def blind : TokenSource → TokenSource
  | .marked _ => .marked ""
  | .bare _ => .bare ""
  | .clientCredentials clientId secret => .clientCredentials clientId (secret.map fun _ => "")

variable (source : TokenSource)

@[simp] theorem kind_blind : source.blind.kind = source.kind := by
  cases source <;> rfl

@[simp] theorem requiresMatch_blind : source.blind.requiresMatch = source.requiresMatch := by
  cases source <;> rfl

theorem debugText_blind : source.blind.debugText = source.debugText := by
  rcases source with token | token | ⟨clientId, _ | secret⟩ <;> rfl

end TokenSource

theorem admission_blind (username : String) (source : TokenSource) (token : Token) :
    admission username source.blind token = admission username source token := by
  simp only [admission, TokenSource.requiresMatch_blind]

theorem admissionEvents_blind (username : String) (source : TokenSource) (store : Store)
    (token : Token) :
    admissionEvents username source.blind store token =
      admissionEvents username source store token := by
  simp only [admissionEvents, TokenSource.requiresMatch_blind, TokenSource.kind_blind]

namespace Service

variable (service : Service σ) {username first second : String} (peers : σ) (store : Store)

theorem sourceOf_cases (username password : String) :
    (∃ token, service.sourceOf username (some password) = .marked token) ∨
      (∃ token, service.sourceOf username (some password) = .bare token) ∨
      ∃ secret, service.sourceOf username (some password) =
        .clientCredentials username (some secret) := by
  unfold sourceOf classify
  dsimp only
  rcases markedToken? password with _ | token
  · rcases service.hasEndpoint with _ | _
    · exact .inr (.inl ⟨password, rfl⟩)
    · exact .inr (.inr ⟨password, rfl⟩)
  · exact .inl ⟨token, rfl⟩

/-- Two passwords of one kind stand for sources that differ in the secret alone. -/
theorem blind_sourceOf
    (kind : (service.sourceOf username (some first)).kind =
      (service.sourceOf username (some second)).kind) :
    (service.sourceOf username (some first)).blind =
      (service.sourceOf username (some second)).blind := by
  rcases service.sourceOf_cases username first with ⟨_, one⟩ | ⟨_, one⟩ | ⟨_, one⟩ <;>
  rcases service.sourceOf_cases username second with ⟨_, other⟩ | ⟨_, other⟩ | ⟨_, other⟩ <;>
  rw [one, other] at kind ⊢
  -- Three pairs are of one kind; the others contradict it.
  all_goals first
    | rfl
    | cases kind

/-! ### The answers of the peers -/

/-- What the acquirer and the validator answer to a password: that no access token could be bought,
or what the validator says of the token.  The token is left out. -/
def verdict (username password : String) (peers : σ) : Except AuthError (Except AuthError Token) :=
  let obtained := service.obtained peers (service.sourceOf username (some password))
  obtained.result.map fun bearer => (service.peers.validate bearer obtained.peers).result

/-- The peers give the same answers to two passwords of one kind.  What they report, and what they
keep of the passwords, may differ. -/
structure AnswersAlike (username first second : String) (peers : σ) : Prop where
  kind : (service.sourceOf username (some first)).kind =
    (service.sourceOf username (some second)).kind
  verdict : service.verdict username first peers = service.verdict username second peers

/-- What is reported before the access token of a source is bought. -/
def buying : TokenSource → List Event
  | .clientCredentials clientId (some _) =>
    match service.endpoint with
    | some endpoint => [.exchanging clientId endpoint.render service.peers.acquirerName]
    | none => []
  | _ => []

/-- What the acquirer reports when it sells the access token of a source. -/
def sold (peers : σ) : TokenSource → List Event
  | .clientCredentials clientId (some secret) =>
    match service.endpoint with
    | some endpoint => (service.peers.acquire endpoint clientId secret peers).events
    | none => []
  | _ => []

/-- What the peers report when they are asked about a password. -/
def heard (username password : String) (peers : σ) : List Event :=
  let source := service.sourceOf username (some password)
  let obtained := service.obtained peers source
  match obtained.result with
  | .error _ => service.sold peers source
  | .ok bearer => service.sold peers source ++ (service.peers.validate bearer obtained.peers).events

/-- What is reported behind a verdict. -/
def concluding (username : String) (source : TokenSource) (store : Store) :
    Except AuthError (Except AuthError Token) → List Event
  | .error _ => []
  | .ok (.error cause) => [.tokenRejected username source.kind service.peers.validatorName cause]
  | .ok (.ok token) => admissionEvents username source store token

theorem buying_blind (source : TokenSource) :
    service.buying source.blind = service.buying source := by
  rcases source with token | token | ⟨clientId, _ | secret⟩ <;> rfl

theorem concluding_blind (username : String) (source : TokenSource)
    (verdict : Except AuthError (Except AuthError Token)) :
    service.concluding username source.blind store verdict =
      service.concluding username source store verdict := by
  rcases verdict with error | cause | token
  · rfl
  · simp only [concluding, TokenSource.kind_blind]
  · exact admissionEvents_blind username source store token

theorem obtained_events (source : TokenSource) :
    (service.obtained peers source).events =
      service.buying source ++ service.sold peers source := by
  rcases source with token | token | ⟨clientId, _ | secret⟩
  · rfl
  · rfl
  · rcases endpoint : service.endpoint with _ | endpoint <;> simp [obtained, buying, sold, endpoint]
  · rcases endpoint : service.endpoint with _ | endpoint <;> simp [obtained, buying, sold, endpoint]

/-! ### Two logins -/

theorem course_result (username password : String) :
    (service.course ⟨some username, some password⟩ peers store).result =
      match service.verdict username password peers with
      | .error error => .error error
      | .ok (.error cause) => .error cause
      | .ok (.ok token) =>
        admission username (service.sourceOf username (some password)) token := by
  unfold course verdict validated
  dsimp only
  rcases (service.obtained peers _).result with error | bearer
  · rfl
  · simp only [Except.map]
    rcases (service.peers.validate bearer _).result with cause | token <;> rfl

theorem course_events (username password : String) :
    (service.course ⟨some username, some password⟩ peers store).events =
      let source := service.sourceOf username (some password)
      .classified username source.kind :: service.buying source ++
        service.heard username password peers ++
        service.concluding username source store (service.verdict username password peers) := by
  unfold course verdict validated heard
  dsimp only
  rcases (service.obtained peers _).result with error | bearer
  · simp [obtained_events, concluding, Except.map]
  · simp only [Except.map, obtained_events]
    rcases (service.peers.validate bearer _).result with cause | token
    · simp [concluding, rejections]
    · simp [concluding, rejections]

variable {service} {peers}

/-- Where the peers give the same answers, two logins come to the same, and their reports differ in
those of the peers alone. -/
theorem course_alike (alike : service.AnswersAlike username first second peers) :
    (service.course ⟨some username, some first⟩ peers store).result =
        (service.course ⟨some username, some second⟩ peers store).result ∧
      ∃ before after,
        (service.course ⟨some username, some first⟩ peers store).events =
            before ++ service.heard username first peers ++ after ∧
          (service.course ⟨some username, some second⟩ peers store).events =
            before ++ service.heard username second peers ++ after := by
  -- What a login makes of its source goes through the source without the secret.
  have blind := service.blind_sourceOf alike.kind
  have admitted : ∀ token, admission username (service.sourceOf username (some first)) token =
      admission username (service.sourceOf username (some second)) token := by
    intro token
    rw [← admission_blind, blind, admission_blind]
  have bought : service.buying (service.sourceOf username (some first)) =
      service.buying (service.sourceOf username (some second)) := by
    rw [← buying_blind, blind, buying_blind]
  have concluded : ∀ verdict,
      service.concluding username (service.sourceOf username (some first)) store verdict =
        service.concluding username (service.sourceOf username (some second)) store verdict := by
    intro verdict
    rw [← concluding_blind, blind, concluding_blind]
  constructor
  · simp only [course_result, alike.verdict, admitted]
  · refine ⟨_, _, service.course_events peers store username first, ?_⟩
    rw [course_events]
    simp only [alike.kind, alike.verdict, bought, concluded]

variable (service)

/-- Whether an access token was obtained is part of the verdict. -/
theorem obtained_of_verdict (username password : String) (value : α) :
    ((service.obtained peers (service.sourceOf username (some password))).result.map
        fun _ => value) = (service.verdict username password peers).map fun _ => value := by
  unfold verdict
  dsimp only
  rcases (service.obtained peers _).result with error | bearer <;> rfl

variable {service}

/-- What diagnostics show of a resolved password. -/
theorem resolve_alike (world : World σ)
    (alike : service.AnswersAlike username first second world.peers) :
    (((service.resolve ⟨some username, some first⟩).run world).1.map ResolvedToken.debugText) =
      ((service.resolve ⟨some username, some second⟩).run world).1.map ResolvedToken.debugText := by
  have blind := service.blind_sourceOf alike.kind
  have required : (service.sourceOf username (some first)).requiresMatch =
      (service.sourceOf username (some second)).requiresMatch := by
    rw [← TokenSource.requiresMatch_blind, blind, TokenSource.requiresMatch_blind]
  -- The token is not shown, so that any other may stand in its place.
  have shown : ∀ password,
      (((service.resolve ⟨some username, some password⟩).run world).1.map
          ResolvedToken.debugText) =
        (service.verdict username password world.peers).map fun _ =>
          ResolvedToken.debugText ⟨"", (service.sourceOf username (some password)).requiresMatch,
            (service.sourceOf username (some password)).kind⟩ := by
    intro password
    rw [← obtained_of_verdict, resolve_run]
    dsimp only
    rcases (service.obtained world.peers _).result with error | bearer <;> rfl
  rw [shown, shown, alike.verdict, required, alike.kind]

end Service

/-! ### Callbacks without their passwords -/

namespace Callback

/-- A callback whose password is taken out. -/
def blind : Callback → Callback
  | .password c => .password { c with password := "" }
  | c => c

theorem debugText_blind (callback : Callback) : callback.blind.debugText = callback.debugText := by
  cases callback <;> rfl

theorem firstUnsupported?_blind (callbacks : List Callback) :
    firstUnsupported? (callbacks.map blind) = firstUnsupported? callbacks := by
  induction callbacks with
  | nil => rfl
  | cons first rest ih => cases first <;> simp [blind, firstUnsupported?, ih]

theorem lastName_blind (before : Option String) (callbacks : List Callback) :
    lastName before (callbacks.map blind) = lastName before callbacks := by
  induction callbacks generalizing before with
  | nil => rfl
  | cons first rest ih => cases first <;> simp [blind, lastName, ih]

theorem isPassword_blind (callback : Callback) :
    callback.blind.isPassword = callback.isPassword := by
  cases callback <;> rfl

theorem markLast_blind (callbacks : List Callback) :
    markLast (callbacks.map blind) = (markLast callbacks).map blind := by
  induction callbacks with
  | nil => rfl
  | cons first rest ih =>
    have marked : (rest.map blind).any isPassword = rest.any isPassword := by
      rw [List.any_map]
      exact congrArg rest.any (funext isPassword_blind)
    cases first with
    | name callback => simp [blind, markLast, ih]
    | unsupported kind => simp [blind, markLast, ih]
    | password callback =>
      simp only [List.map_cons, blind, markLast, marked]
      split
      · simp [blind, ih]
      · simp [blind]

/-- Callbacks that differ in passwords alone. -/
structure Alike (callbacks callbacks' : List Callback) : Prop where
  blind : callbacks.map blind = callbacks'.map blind

namespace Alike

variable {callbacks callbacks' : List Callback} (alike : Alike callbacks callbacks')

include alike

theorem firstUnsupported?_eq : firstUnsupported? callbacks = firstUnsupported? callbacks' := by
  rw [← firstUnsupported?_blind, alike.blind, firstUnsupported?_blind]

theorem lastName_eq (before : Option String) :
    lastName before callbacks = lastName before callbacks' := by
  rw [← lastName_blind, alike.blind, lastName_blind]

theorem markLast : Alike (markLast callbacks) (markLast callbacks') := by
  refine ⟨?_⟩
  rw [← markLast_blind, alike.blind, markLast_blind]

theorem debugText_eq : callbacks.map debugText = callbacks'.map debugText := by
  have shown : ∀ list : List Callback,
      list.map debugText = (list.map Callback.blind).map debugText := by
    intro list
    rw [List.map_map]
    exact congrArg (list.map ·) (funext fun callback => (debugText_blind callback).symm)
  rw [shown, alike.blind, ← shown]

theorem loggedName_eq : Service.loggedName callbacks = Service.loggedName callbacks' := by
  unfold Service.loggedName
  rw [alike.firstUnsupported?_eq, alike.lastName_eq]

end Alike

theorem asked_of_lastPassword {callbacks : List Callback} {password : String}
    (last : lastPassword none callbacks = some password) :
    asked callbacks =
      match firstUnsupported? callbacks, lastName none callbacks with
      | some kind, _ => .error (.unsupportedCallback kind)
      | none, none => .error .usernameMissing
      | none, some username => .ok ⟨some username, some password⟩ := by
  unfold asked
  rw [last]
  rcases firstUnsupported? callbacks with _ | kind
  · rcases lastName none callbacks with _ | username <;> rfl
  · rfl

end Callback

/-- A failure under another identifier. -/
def LoginFailure.reissued (id : ErrorId) (failure : LoginFailure) : LoginFailure :=
  { failure with id }

/-- An event in which a failure has another identifier. -/
def Event.reissued (id : ErrorId) : Event → Event
  | .failed _ kind username detail => .failed id kind username detail
  | event => event

namespace Service

variable (service : Service σ)

/-- What the peers report when they are asked about the login of callbacks. -/
def heardFor (callbacks : List Callback) (peers : σ) : List Event :=
  match Callback.asked callbacks with
  | .ok ⟨some username, some password⟩ => service.heard username password peers
  | _ => []

variable {service} {username first second : String} {callbacks callbacks' : List Callback}

theorem handled_alike {peers : σ} (store : Store)
    (alike : service.AnswersAlike username first second peers)
    (same : Callback.Alike callbacks callbacks')
    (submitted : Callback.lastPassword none callbacks = some first)
    (submitted' : Callback.lastPassword none callbacks' = some second)
    (named : ∀ name, Callback.lastName none callbacks = some name → name = username) :
    (service.handled callbacks peers store).result =
        (service.handled callbacks' peers store).result ∧
      ∃ before after,
        (service.handled callbacks peers store).events =
            before ++ service.heardFor callbacks peers ++ after ∧
          (service.handled callbacks' peers store).events =
            before ++ service.heardFor callbacks' peers ++ after := by
  have asked := Callback.asked_of_lastPassword submitted
  have asked' := Callback.asked_of_lastPassword submitted'
  rw [← same.firstUnsupported?_eq, ← same.lastName_eq] at asked'
  unfold handled heardFor
  rw [asked, asked']
  rcases Callback.firstUnsupported? callbacks with _ | kind
  · rcases name : Callback.lastName none callbacks with _ | username'
    · exact ⟨rfl, [], [], rfl, rfl⟩
    · obtain rfl := named username' name
      exact course_alike store alike
  · exact ⟨rfl, [], [], rfl, rfl⟩

end Service

/-- The password of a login is concealed from everybody but the peers: no difference can be seen
between two passwords. -/
structure Service.Conceals (service : Service σ) (world : World σ)
    (username first second : String) : Prop where
  /-- Logins come to the same, and their reports differ in those of the peers alone. -/
  authenticated :
    let one := (service.authenticate ⟨some username, some first⟩).run world
    let other := (service.authenticate ⟨some username, some second⟩).run world
    other.1 = one.1 ∧ other.2.store = one.2.store ∧
      ∃ before after,
        one.2.log = before ++ service.heard username first world.peers ++ after ∧
          other.2.log = before ++ service.heard username second world.peers ++ after
  /-- Logins through callbacks that differ in passwords alone do, too, but that a failure has the
  identifier given. -/
  handled : ∀ (id id' : ErrorId) (callbacks callbacks' : List Callback),
    Callback.Alike callbacks callbacks' → Callback.lastPassword none callbacks = some first →
    Callback.lastPassword none callbacks' = some second →
    (∀ name, Callback.lastName none callbacks = some name → name = username) →
    let one := (service.handle id callbacks).run world
    let other := (service.handle id' callbacks').run world
    other.1.1 = one.1.1.mapError (·.reissued id') ∧ other.2.store = one.2.store ∧
      (∃ before after report,
        one.2.log =
            before ++ service.heardFor callbacks world.peers ++ (after ++ report) ∧
          other.2.log = before ++ service.heardFor callbacks' world.peers ++
            (after ++ report.map (Event.reissued id'))) ∧
      callbacks'.map Callback.debugText = callbacks.map Callback.debugText ∧
      other.1.2.map Callback.debugText = one.1.2.map Callback.debugText
  submission : Submission.debugText ⟨some username, some second⟩ =
    Submission.debugText ⟨some username, some first⟩
  source : (service.sourceOf username (some second)).debugText =
    (service.sourceOf username (some first)).debugText
  resolved :
    ((service.resolve ⟨some username, some second⟩).run world).1.map ResolvedToken.debugText =
      ((service.resolve ⟨some username, some first⟩).run world).1.map ResolvedToken.debugText

namespace Service

/-- Two passwords of one kind to which the peers give the same answers cannot be told apart. -/
theorem password_concealed (service : Service σ) (world : World σ)
    (username first second : String)
    (alike : service.AnswersAlike username first second world.peers) :
    service.Conceals world username first second := by
  constructor
  · obtain ⟨result, before, after, events, events'⟩ := course_alike world.store alike
    simp only [authenticate_run]
    refine ⟨result.symm, by rw [result], world.log ++ before, after, ?_, ?_⟩
    · rw [events]
      simp only [List.append_assoc]
    · rw [events']
      simp only [List.append_assoc]
  · intro id id' callbacks callbacks' same submitted submitted' named
    obtain ⟨result, before, after, events, events'⟩ :=
      handled_alike world.store alike same submitted submitted' named
    simp only [handle_run, ← result, events, events', ← same.loggedName_eq, ← same.lastName_eq]
    rcases (service.handled callbacks world.peers world.store).result with error | principal
    · refine ⟨rfl, rfl, ⟨world.log ++ before, after,
        [.failed id error.kind (loggedName callbacks) error.message], ?_, ?_⟩,
        same.debugText_eq.symm, same.debugText_eq.symm⟩
      · simp
      · simp [Event.reissued]
    · refine ⟨rfl, rfl, ⟨world.log ++ before, after, [], ?_, ?_⟩, same.debugText_eq.symm,
        same.markLast.debugText_eq.symm⟩
      · simp
      · simp
  · rfl
  · rw [← TokenSource.debugText_blind, ← service.blind_sourceOf alike.kind,
      TokenSource.debugText_blind]
  · exact (resolve_alike world alike).symm

theorem secrets_concealed :
    "open" ≠ "sesame" ∧ trusting.AnswersAlike "a" "open" "sesame" () ∧
      trusting.Conceals { peers := () } "a" "open" "sesame" := by
  have alike : trusting.AnswersAlike "a" "open" "sesame" () := ⟨by decide, rfl⟩
  exact ⟨by decide, alike, trusting.password_concealed { peers := () } "a" "open" "sesame" alike⟩

end Service

end BearerLogin
