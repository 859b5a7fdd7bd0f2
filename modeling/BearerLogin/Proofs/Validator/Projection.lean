import BearerLogin.Proofs.Text
import BearerLogin.Proofs.Validator.Judgement

/-! What an accepted token says is what its payload says: the user, the expiry, the time of issue
and the scopes are the ones in the members of the payload, and so are the claims that were checked.
-/

namespace BearerLogin

open Jwt

namespace Json

theorem int64?_eq_some {value : Json} {n : Int} :
    value.int64? = some n ↔
      value = .int n ∧ -0x8000000000000000 ≤ n ∧ n < 0x8000000000000000 := by
  cases value with
  | int m =>
    simp only [int64?, Option.ite_none_right_eq_some, Option.some.injEq, Json.int.injEq]
    constructor
    · rintro ⟨range, rfl⟩
      exact ⟨rfl, range⟩
    · rintro ⟨rfl, range⟩
      exact ⟨range, rfl⟩
  | _ => simp [int64?]

theorem str?_eq_some {value : Json} {text : String} :
    value.str? = some text ↔ value = .str text := by
  cases value <;> simp [str?]

end Json

namespace Instant

/-- An instant lies whole seconds after 1970-01-01, and the calendar has it. -/
def IsAt (instant : Instant) (seconds : Int) : Prop :=
  minSeconds ≤ seconds ∧ seconds ≤ maxSeconds ∧ instant = ⟨seconds, 0⟩

theorem ofSeconds?_eq_some {seconds : Int} {instant : Instant} :
    ofSeconds? seconds = some instant ↔ instant.IsAt seconds := by
  unfold ofSeconds? IsAt
  rw [Option.ite_none_right_eq_some, Option.some.injEq, and_assoc, eq_comm (a := instant)]

theorem minSeconds_nonpos : minSeconds ≤ 0 := by
  decide

/-- The calendar begins and ends within 64 bits. -/
theorem IsAt.int64 {seconds : Int} {instant : Instant} (at_ : instant.IsAt seconds) :
    -0x8000000000000000 ≤ seconds ∧ seconds < 0x8000000000000000 := by
  obtain ⟨first, last, -⟩ := at_
  have begins : -0x8000000000000000 ≤ minSeconds := by decide
  have ends : maxSeconds < 0x8000000000000000 := by decide
  exact ⟨begins.trans first, last.trans_lt ends⟩

end Instant

namespace Jwt

theorem Claim.ofTime_int {n : Int} {seconds : Nat} :
    Claim.ofTime (.int n) = .given seconds ↔ n = seconds := by
  show (if 0 ≤ n then Claim.given n.toNat else .unreadable) = .given seconds ↔ n = seconds
  split
  · rw [Claim.given.injEq]
    omega
  · simp only [reduceCtorEq, false_iff]
    omega

variable {settings : JwtSettings} {payload : Json} {name : String} {accepted : Token}

theorem instantIn?_eq_some {instant : Instant} :
    instantIn? payload name = some instant ↔
      ∃ seconds, payload.get? name = some (.int seconds) ∧ instant.IsAt seconds := by
  unfold instantIn?
  simp only [Option.bind_eq_some_iff, Json.int64?_eq_some, Instant.ofSeconds?_eq_some]
  constructor
  · rintro ⟨seconds, ⟨_, member, rfl, -⟩, at_⟩
    exact ⟨seconds, member, at_⟩
  · rintro ⟨seconds, member, at_⟩
    exact ⟨seconds, ⟨_, member, rfl, at_.int64⟩, at_⟩

theorem userIn?_eq_some {claim : String} :
    userIn? payload claim = some name ↔ payload.get? claim = some (.str name) ∧ name ≠ "" := by
  unfold userIn?
  simp only [Option.filter_eq_some_iff, Option.bind_eq_some_iff, Json.str?_eq_some,
    decide_eq_true_eq, exists_eq_right]

theorem tokenOf_eq_ok :
    tokenOf settings payload = .ok accepted ↔
      ∃ principalName expiresAt, userIn? payload settings.usernameClaim = some principalName ∧
        instantIn? payload "exp" = some expiresAt ∧
        accepted = {
          principalName, expiresAt, payload
          issuedAt := instantIn? payload "iat"
          scopes := scopesIn payload } := by
  unfold tokenOf
  constructor
  · intro h
    rcases user : userIn? payload settings.usernameClaim with _ | principalName
    · simp only [user] at h
      cases h
    · rcases expiry : instantIn? payload "exp" with _ | expiresAt
      · simp only [user, expiry] at h
        cases h
      · simp only [user, expiry] at h
        cases h
        exact ⟨principalName, expiresAt, rfl, rfl, rfl⟩
  · rintro ⟨principalName, expiresAt, user, expiry, rfl⟩
    simp only [user, expiry]
    rfl

/-- A payload that names a user lacks nothing but, possibly, an expiry that is an instant. -/
theorem tokenOf_of_no_expiry (user : userIn? payload settings.usernameClaim = some name)
    (none : instantIn? payload "exp" = none) :
    tokenOf settings payload = .error (.missingClaim "exp") := by
  unfold tokenOf
  simp only [user, none]
  rfl

/-- The scopes of a payload are the words of its scope, if this is a text. -/
theorem scopesIn_of_text {text : String} (scope : payload.get? "scope" = some (.str text)) :
    Text.HasWords text.toList ((scopesIn payload).map String.toList) := by
  have words : (scopesIn payload).map String.toList = Text.wordChars text.toList := by
    unfold scopesIn
    rw [scope]
    simp [Json.str?, Text.words, Function.comp_def]
  exact Text.wordChars_eq_iff.mp words.symm

theorem scopesIn_of_no_text (scope : ∀ text, payload.get? "scope" ≠ some (.str text)) :
    scopesIn payload = [] := by
  unfold scopesIn
  split
  · next text found =>
    obtain ⟨value, member, str⟩ := Option.bind_eq_some_iff.mp found
    rw [Json.str?_eq_some.mp str] at member
    exact absurd member (scope text)
  · rfl

end Jwt

/-- A token says what its payload says, where a claim of the payload names the user. -/
structure Token.Reflects (token : Token) (usernameClaim : String) : Prop where
  object : ∃ members, token.payload = .obj members
  user : token.payload.get? usernameClaim = some (.str token.principalName)
  nonempty : token.principalName ≠ ""
  expiry : ∃ seconds, token.payload.get? "exp" = some (.int seconds) ∧
    token.expiresAt.IsAt seconds
  issue : ∀ instant, token.issuedAt = some instant ↔
    ∃ seconds, token.payload.get? "iat" = some (.int seconds) ∧ instant.IsAt seconds
  scopes : ∀ text, token.payload.get? "scope" = some (.str text) →
    Text.HasWords text.toList (token.scopes.map String.toList)
  solid : ∀ scope ∈ token.scopes, scope ≠ "" ∧ Text.Solid scope.toList
  unscoped : (∀ text, token.payload.get? "scope" ≠ some (.str text)) → token.scopes = []

theorem Jwt.reflects_of_tokenOf {settings : JwtSettings} {payload : Json} {accepted : Token}
    (h : tokenOf settings payload = .ok accepted) :
    accepted.payload = payload ∧ accepted.Reflects settings.usernameClaim := by
  have object := object_of_tokenOf h
  obtain ⟨principalName, expiresAt, user, expiry, rfl⟩ := tokenOf_eq_ok.mp h
  obtain ⟨member, nonempty⟩ := userIn?_eq_some.mp user
  refine ⟨rfl, {
    object, nonempty
    user := member
    expiry := instantIn?_eq_some.mp expiry
    issue := fun instant => instantIn?_eq_some
    scopes := fun text => scopesIn_of_text
    solid := ?_
    unscoped := scopesIn_of_no_text }⟩
  intro scope member
  by_cases text : ∃ text, payload.get? "scope" = some (.str text)
  · obtain ⟨text, found⟩ := text
    obtain ⟨nonempty, solid⟩ :=
      (scopesIn_of_text found).each _ (List.mem_map_of_mem (f := String.toList) member)
    exact ⟨fun empty => nonempty (by rw [empty]; rfl), solid⟩
  · rw [show scopesIn payload = [] from scopesIn_of_no_text (not_exists.mp text)] at member
    cases member

namespace Backend

/-- An accepted token says what the payload says that it carries, and the claims that were checked
are the ones of this payload. -/
theorem accepted_reflects_payload (network : Network ν) (settings : JwtSettings)
    (backend : Backend ν) (presented : Presented) (accepted : Token)
    (h : (backend.present network settings presented).result = .ok accepted) :
    accepted.Reflects settings.usernameClaim ∧
      ∃ claims, Reads presented.token accepted.payload claims ∧
        claims = Claims.ofPayload accepted.payload ∧
        claims.check presented.now.seconds settings.issuer settings.audience = .ok () ∧
        ∃ seconds : Nat, claims.expiry = .given seconds ∧ accepted.expiresAt = ⟨seconds, 0⟩ := by
  obtain ⟨header, key, -, judged⟩ := exists_hasKey h
  obtain ⟨payload, claims, verified, named⟩ := judged_eq_ok.mp judged
  obtain ⟨rfl, reflects⟩ := reflects_of_tokenOf named
  have claims_eq := verified.reads.claims_eq reflects.object
  obtain ⟨⟨seconds, given, -⟩, -⟩ := check_eq_ok.mp verified.inOrder
  refine ⟨reflects, claims, verified.reads, claims_eq, verified.inOrder, seconds, given, ?_⟩
  obtain ⟨n, member, -, -, expires⟩ := reflects.expiry
  have checked : Claim.ofTime (.int n) = .given seconds := by
    rw [← given, claims_eq]
    simp [Claims.ofPayload, member]
  rw [expires, Claim.ofTime_int.mp checked]

end Backend

namespace Shared

open Backend

/-- A token with a time of issue and two scopes. -/
def limited : Presented where
  token := "eyJhbGciOiJIUzI1NiJ9." ++
    "eyJleHAiOjk5OTk5OTk5OTksImlhdCI6MSwic3ViIjoiYSIsImlzcyI6ImkiLCJzY29wZSI6IiB4ICB5ICJ9." ++
    "QdLvWESN1iNWnDBxrWPRT3Gbm20jiFXhfJT_SlG61cU"
  now := ⟨1785000000, 0⟩

/-- What a token carries under a name in its payload, as `read` takes it. -/
def carried? (read : Json → Option α) (name token : String) : Option α :=
  ((payloadOf? token).bind (Json.get? name)).bind read

theorem carried?_eq_some {read : Json → Option α} {name token : String} {a : α} :
    carried? read name token = some a ↔
      ∃ payload value, payloadOf? token = some payload ∧ payload.get? name = some value ∧
        read value = some a := by
  simp only [carried?, Option.bind_eq_some_iff]
  constructor
  · rintro ⟨value, ⟨payload, held, member⟩, taken⟩
    exact ⟨payload, value, held, member, taken⟩
  · rintro ⟨payload, value, held, member, taken⟩
    exact ⟨value, ⟨payload, held, member⟩, taken⟩

theorem limited_reflects : ∃ accepted,
    ((fresh ()).present (Network.constant reply) (settings none) limited).result = .ok accepted ∧
      accepted.Reflects "sub" ∧ accepted.scopes = ["x", "y"] := by
  have fits : Fits none limited := by decide +kernel
  obtain ⟨accepted, h⟩ := accepted_of_fits fits
  obtain ⟨reflects, claims, reads, -⟩ := accepted_reflects_payload (Network.constant reply)
    (settings none) (fresh ()) limited accepted h
  refine ⟨accepted, h, reflects, ?_⟩
  have carried : carried? Json.str? "scope" limited.token = some " x  y " := by decide +kernel
  obtain ⟨payload, value, held, member, text⟩ := carried?_eq_some.mp carried
  obtain rfl := Option.some.inj (reads.payloadOf?_eq.symm.trans held)
  obtain rfl := Json.str?_eq_some.mp text
  have words := (reflects.scopes _ member).wordChars_eq
  calc accepted.scopes
      = (accepted.scopes.map String.toList).map String.ofList := by simp
    _ = (Text.wordChars " x  y ".toList).map String.ofList := by rw [words]
    _ = ["x", "y"] := by decide

end Shared

end BearerLogin
