import BearerLogin.Proofs.Validator.Session

/-! What it takes for a token to be accepted: an admitted algorithm, the right one of the keys that
were sent last, of the type that the algorithm takes, and a signature that fits under this key. -/

namespace BearerLogin.Jwt

open Steps

namespace Parts

theorem takeWhile_dotless {last rest : List Char} (dotless : '.' ∉ last) :
    (last ++ rest).takeWhile (· ≠ '.') = last ++ rest.takeWhile (· ≠ '.') := by
  apply List.takeWhile_append_of_pos
  rintro c member
  simp only [ne_eq, decide_not, Bool.not_eq_true', decide_eq_false_iff_not]
  rintro rfl
  exact dotless member

/-- A text is cut at its last dot. -/
theorem cutAtLastDot?_eq_some {chars before after : List Char}
    (h : cutAtLastDot? chars = some (before, after)) :
    chars = before ++ '.' :: after ∧ '.' ∉ after := by
  unfold cutAtLastDot? at h
  by_cases dotted : '.' ∈ chars.reverse
  · obtain ⟨last, front, split, dotless⟩ := List.eq_append_cons_of_mem dotted
    have chars_eq : chars = front.reverse ++ '.' :: last.reverse := by
      simpa using congrArg List.reverse split
    have run : chars.reverse.takeWhile (· ≠ '.') = last := by
      rw [split, takeWhile_dotless dotless]
      simp
    have size : chars.length - last.length - 1 = front.reverse.length := by
      simp [chars_eq]
      omega
    simp only [run, size] at h
    rw [if_pos (by simp [chars_eq]; omega)] at h
    obtain ⟨rfl, rfl⟩ := Prod.mk.inj (Option.some.inj h)
    exact ⟨by rw [chars_eq]; simp, by simpa using dotless⟩
  · have run : chars.reverse.takeWhile (· ≠ '.') = chars.reverse := by
      have whole := @takeWhile_dotless chars.reverse [] dotted
      rw [List.append_nil] at whole
      rw [whole]
      exact List.append_nil _
    simp only [run, List.length_reverse] at h
    rw [if_neg (Nat.lt_irrefl _)] at h
    cases h

theorem ofText?_eq_some {token : String} {parts : Parts} (h : ofText? token = some parts) :
    token.toList = (parts.header ++ '.' :: parts.payload) ++ '.' :: parts.signature ∧
      '.' ∉ parts.signature := by
  unfold ofText? at h
  simp only [Option.bind_eq_bind, Option.bind_eq_some_iff, Prod.exists, Option.pure_def,
    Option.some.injEq] at h
  obtain ⟨message, signature, cut, header, payload, cutMessage, rfl⟩ := h
  obtain ⟨token_eq, dotless⟩ := cutAtLastDot?_eq_some cut
  obtain ⟨rfl, -⟩ := cutAtLastDot?_eq_some cutMessage
  exact ⟨token_eq, dotless⟩

end Parts

/-- The type of published keys for a family of keys, as it is written. -/
def KeyFamily.typeName? : KeyFamily → Option String
  | .secret => some "oct"
  | .rsa => some "RSA"
  | .ellipticCurve => some "EC"
  | .edwards => none

namespace PublishedKey

/-- A published key answers to the key identifier of a token, or to none if it may be used for
signatures. -/
def AnswersTo (published : PublishedKey) : Option String → Prop
  | some keyId => published.keyId = some keyId
  | none => published.use = none ∨ published.use = some "sig"

instance (published : PublishedKey) :
    (keyId : Option String) → Decidable (published.AnswersTo keyId)
  | some keyId => inferInstanceAs (Decidable (published.keyId = some keyId))
  | none => inferInstanceAs (Decidable (published.use = none ∨ published.use = some "sig"))

/-- The key of a published key is of the family that its type says. -/
theorem typeName?_family {published : PublishedKey} {key : Key} (h : published.toKey = .ok key) :
    key.family.typeName? = some published.type := by
  unfold toKey at h
  split at h
  · next type =>
    simp only [bind_eq_ok] at h
    obtain ⟨_, -, _, -, _, -, _, -, h⟩ := h
    cases h
    exact congrArg some type.symm
  · split at h
    · next type =>
      simp only [bind_eq_ok] at h
      obtain ⟨_, -, _, -, _, -, _, -, h⟩ := h
      cases h
      exact congrArg some type.symm
    · split at h
      · next type =>
        simp only [bind_eq_ok] at h
        obtain ⟨_, -, h⟩ := h
        split at h
        · cases h
          exact congrArg some type.symm
        · cases h
      · cases h

end PublishedKey

namespace KeySet

/-- The first key of a set that answers to a key identifier. -/
def Selects (set : KeySet) (keyId : Option String) (published : PublishedKey) : Prop :=
  ∃ before after, set.keys = before ++ published :: after ∧ published.AnswersTo keyId ∧
    ∀ other ∈ before, ¬other.AnswersTo keyId

theorem find?_eq (set : KeySet) (keyId : Option String) :
    set.find? keyId = set.keys.find? fun published => decide (published.AnswersTo keyId) := by
  cases keyId with
  | some keyId =>
    show set.keys.find? (fun published => published.keyId == some keyId) = _
    congr 1
    funext published
    rw [Bool.eq_iff_iff, decide_eq_true_iff]
    simp [PublishedKey.AnswersTo]
  | none =>
    show set.keys.find? PublishedKey.isForSignatures = _
    congr 1
    funext published
    rw [Bool.eq_iff_iff, decide_eq_true_iff]
    simp [PublishedKey.AnswersTo, PublishedKey.isForSignatures]

theorem find?_eq_some_iff {set : KeySet} {keyId : Option String} {published : PublishedKey} :
    set.find? keyId = some published ↔ set.Selects keyId published := by
  rw [find?_eq, List.find?_eq_some_iff_append]
  unfold Selects
  simp only [decide_eq_true_eq, Bool.not_eq_true', decide_eq_false_iff_not]
  constructor
  · rintro ⟨answers, before, after, split, earlier⟩
    exact ⟨before, after, split, answers, earlier⟩
  · rintro ⟨before, after, split, answers, earlier⟩
    exact ⟨answers, before, after, split, earlier⟩

/-- Two sets that select the same key find the same one, or both find none. -/
theorem find?_congr {first second : KeySet} {keyId : Option String}
    (same : ∀ published, first.Selects keyId published ↔ second.Selects keyId published) :
    first.find? keyId = second.find? keyId := by
  apply Option.ext
  intro published
  simp only [find?_eq_some_iff, same]

end KeySet

variable {settings : JwtSettings} {now : Instant} {token : String}

/-- What it takes for a token to have a payload that is in order. -/
structure Verified (settings : JwtSettings) (now : Instant) (token : String) (algorithm : Algorithm)
    (key : Key) (payload : Json) (claims : Claims) : Prop where
  family : key.family = algorithm.family
  signed : ∃ parts bytes, Parts.ofText? token = some parts ∧
    key.verifies algorithm parts.signed parts.signature = .ok true ∧
    decodePart parts.payload = .ok bytes ∧ valueOf bytes = .ok payload ∧
    Claims.ofBytes bytes = .ok claims
  inOrder : claims.check now.seconds settings.issuer settings.audience = .ok ()

/-- A payload is given exactly where all of this holds. -/
theorem verifiedPayload_eq_ok {algorithm : Algorithm} {key : Key} {payload : Json} :
    verifiedPayload settings now algorithm key token = .ok payload ↔
      ∃ claims, Verified settings now token algorithm key payload claims := by
  unfold verifiedPayload
  constructor
  · intro h
    by_cases family : key.family = algorithm.family
    · rcases cut : Parts.ofText? token with _ | parts
      · simp only [family, ne_eq, not_true_eq_false, if_false, cut] at h
        cases h
      · simp only [family, ne_eq, not_true_eq_false, if_false, cut, bind_eq_ok] at h
        obtain ⟨fits, verifies, h⟩ := h
        cases fits with
        | false => cases h
        | true =>
          simp only [Bool.not_true, Bool.false_eq_true, if_false, bind_eq_ok] at h
          obtain ⟨bytes, decoded, value, read, claims, readClaims, _, inOrder, h⟩ := h
          cases h
          exact ⟨claims, family, ⟨parts, bytes, cut, verifies, decoded, read, readClaims⟩, inOrder⟩
    · simp only [family, ne_eq, not_false_eq_true, if_true] at h
      cases h
  · rintro ⟨claims, family, ⟨parts, bytes, cut, verifies, decoded, read, readClaims⟩, inOrder⟩
    simp only [family, ne_eq, not_true_eq_false, if_false, cut, bind_eq_ok]
    refine ⟨true, verifies, ?_⟩
    simp only [Bool.not_true, Bool.false_eq_true, if_false, bind_eq_ok]
    exact ⟨bytes, decoded, payload, read, claims, readClaims, (), inOrder, rfl⟩

theorem answer_eq_ok {header : Header} {published : PublishedKey} {accepted : Token} :
    answer settings now header token published = .ok accepted ↔
      ∃ key payload claims, published.toKey = .ok key ∧
        Verified settings now token header.algorithm key payload claims ∧
        tokenOf settings payload = .ok accepted := by
  unfold answer
  constructor
  · intro h
    obtain ⟨key, toKey, h⟩ := bind_eq_ok.mp h
    obtain ⟨payload, verified, named⟩ := bind_eq_ok.mp h
    obtain ⟨claims, verified⟩ := verifiedPayload_eq_ok.mp (mapError_eq_ok.mp verified)
    exact ⟨key, payload, claims, toKey, verified, named⟩
  · rintro ⟨key, payload, claims, toKey, verified, named⟩
    have given := verifiedPayload_eq_ok.mpr ⟨claims, verified⟩
    exact bind_eq_ok.mpr
      ⟨key, toKey, bind_eq_ok.mpr ⟨payload, mapError_eq_ok.mpr given, named⟩⟩

/-- What a validator goes by when it accepts a token: the header of the token, the keys that were
sent last and the one that the token asks for. -/
structure Vouches (settings : JwtSettings) (traffic : Traffic) (token : String) (header : Header)
    (keys : KeySet) (published : PublishedKey) (key : Key) : Prop where
  header_eq : Header.ofToken token = .ok header
  admitted : ∃ name ∈ settings.algorithms, Algorithm.ofName? name = some header.algorithm
  sentLast : traffic.lastKeys? = some keys
  selected : keys.Selects header.keyId published
  type_eq : header.algorithm.family.typeName? = some published.type
  key_eq : published.toKey = .ok key
  signed : ∃ before signature, token.toList = before ++ '.' :: signature ∧ '.' ∉ signature ∧
    key.verifies header.algorithm (Text.utf8 (String.ofList before)) signature = .ok true

theorem admits_iff {algorithm : Algorithm} :
    admits settings algorithm = true ↔
      ∃ name ∈ settings.algorithms, Algorithm.ofName? name = some algorithm := by
  simp [admits]

/-- Before an accepted token was accepted, all of its signature was checked. -/
theorem Verified.vouches {traffic : Traffic} {header : Header} {keys : KeySet}
    {published : PublishedKey} {key : Key} {payload : Json} {claims : Claims}
    (verified : Verified settings now token header.algorithm key payload claims)
    (header_eq : Header.ofToken token = .ok header) (admitted : admits settings header.algorithm)
    (sentLast : traffic.lastKeys? = some keys) (found : keys.find? header.keyId = some published)
    (key_eq : published.toKey = .ok key) :
    Vouches settings traffic token header keys published key := by
  obtain ⟨parts, -, cut, verifies, -⟩ := verified.signed
  obtain ⟨token_eq, dotless⟩ := Parts.ofText?_eq_some cut
  exact {
    header_eq, sentLast, key_eq
    admitted := admits_iff.mp admitted
    selected := KeySet.find?_eq_some_iff.mp found
    type_eq := by rw [← verified.family, PublishedKey.typeName?_family key_eq]
    signed := ⟨_, _, token_eq, dotless, verifies⟩ }

end BearerLogin.Jwt

namespace BearerLogin

open Jwt

namespace Jwt

variable (settings : JwtSettings) (now : Instant) {reply : Reply} {keys : KeySet}

/-- Keys as they are received if they are always sent. -/
def received (keys : KeySet) : Except TokenError KeySet :=
  if Request.canRequest (Request.reported settings.keysUrl) then .ok keys
  else
    .error (.keysUnavailable
      (HttpFault.unbuildable (Request.reported settings.keysUrl).render).message)

theorem keysOf_reply {url : Url} {status : Nat} {body : List UInt8} {complete : Bool}
    (sent : (Reply.answered status body complete).keys? = some keys) :
    keysOf url (.ok ⟨status, if complete then some body else none⟩) = .ok keys := by
  cases complete with
  | false => simp [Reply.keys?] at sent
  | true =>
    simp only [Reply.keys?, Option.ite_none_left_eq_some] at sent
    simp [keysOf, sent.1, sent.2]

theorem requested_constant (cache : KeyCache) (sent : reply.keys? = some keys) :
    (requested (Network.constant reply) settings now () cache).result =
      received settings keys := by
  unfold requested received Network.exchange
  by_cases buildable : Request.canRequest (Request.reported settings.keysUrl)
  · simp only [buildable, if_true, Network.constant]
    rcases reply with _ | ⟨status, body, complete⟩
    · simp [Reply.keys?] at sent
    · simp only [keysOf_reply sent]
  · simp only [buildable, keysOf]
    rfl

/-- A fresh validator to which the same keys are always sent looks for the key among them, however
often it fetches them. -/
theorem located_constant (keyId : Option String) (sent : reply.keys? = some keys) :
    (located (Network.constant reply) settings now keyId () {}).result =
      (received settings keys).bind (pick keyId) := by
  have first : (fetched (Network.constant reply) settings now () {}).result =
      received settings keys := requested_constant settings now {} sent
  unfold located
  rcases hreceived : received settings keys with error | found
  · simp only [first, hreceived]
    rfl
  · simp only [first, hreceived]
    split
    · have again : (fetched (Network.constant reply) settings now ()
          { lastForced := some now }).result = received settings keys :=
        requested_constant settings now _ sent
      show Except.bind (fetched (Network.constant reply) settings now () _).result _ = _
      rw [again, hreceived]
    · rfl

end Jwt

namespace Backend

variable (settings : JwtSettings)

/-- The verdict of a fresh validator to which the same keys are always sent depends on them only
through the key that they have for the token. -/
theorem verdict_congr {presented : Presented} {first second : Reply} {keys others : KeySet}
    (sent : first.keys? = some keys) (otherSent : second.keys? = some others)
    (same : ∀ header, Header.ofToken presented.token = .ok header →
      ∀ published, keys.Selects header.keyId published ↔ others.Selects header.keyId published) :
    ((fresh ()).present (Network.constant first) settings presented).result =
      ((fresh ()).present (Network.constant second) settings presented).result := by
  simp only [present_eq]
  congr 1
  unfold validated
  rcases hheader : Header.ofToken presented.token with fault | header
  · rfl
  · by_cases admitted : admits settings header.algorithm = true
    · simp only [admitted, if_true, fresh]
      rw [located_constant settings presented.now header.keyId sent,
        located_constant settings presented.now header.keyId otherSent]
      unfold received pick
      split
      · simp only [Except.bind, KeySet.find?_congr (same header hheader)]
      · rfl
    · simp only [admitted, Bool.false_eq_true, if_false]

/-- A token is accepted if it fits the key that it asks for among the ones that are always sent. -/
theorem accepted_of_constant {presented : Presented} {reply : Reply} {keys : KeySet}
    {header : Header} {published : PublishedKey} {accepted : Token}
    (sent : reply.keys? = some keys)
    (buildable : Request.canRequest (Request.reported settings.keysUrl) = true)
    (header_eq : Header.ofToken presented.token = .ok header)
    (admitted : admits settings header.algorithm = true)
    (found : keys.find? header.keyId = some published)
    (answered : answer settings presented.now header presented.token published = .ok accepted) :
    ((fresh ()).present (Network.constant reply) settings presented).result = .ok accepted := by
  rw [(present_eq (Network.constant reply) settings presented (fresh ())).1]
  unfold validated
  simp only [header_eq, admitted, if_true, fresh]
  rw [located_constant settings presented.now header.keyId sent]
  simp only [received, buildable, if_true, pick, found, Except.bind, answered, Except.mapError]

/-- A token is accepted at the end of a session only on account of the key that it asks for among
the ones that were sent last; and no other published key has a part in the verdict. -/
theorem accepted_by_selected_key (network : Network ν) (history : List Presented) (start : ν)
    (last : Presented) :
    (∀ accepted,
      ((session network settings history (fresh start)).2.present network settings last).result =
          .ok accepted →
        ∃ header keys published key,
          Vouches settings (trafficOf network settings (history ++ [last]) start) last.token header
            keys published key) ∧
      ∀ first second keys others, first.keys? = some keys → second.keys? = some others →
        (∀ header, Header.ofToken last.token = .ok header →
          ∀ published, keys.Selects header.keyId published ↔
            others.Selects header.keyId published) →
        ((fresh ()).present (Network.constant first) settings last).result =
          ((fresh ()).present (Network.constant second) settings last).result := by
  constructor
  · intro accepted h
    obtain ⟨keys, header, published, sentLast, header_eq, admitted, found, answered⟩ :=
      accepted_current network settings h
    obtain ⟨key, payload, claims, key_eq, verified, -⟩ := answer_eq_ok.mp answered
    exact ⟨header, keys, published, key,
      verified.vouches header_eq admitted sentLast found key_eq⟩
  · intro first second keys others sent otherSent same
    exact verdict_congr settings sent otherSent same

end Backend

/-! ### Tokens that are signed with a shared secret -/

namespace Shared

open Backend

/-- Where the key with the secret is published. -/
def keysUrl : Url where
  scheme := "http"
  authority := some { host := .name "idp" }
  path := .segments ["k"]

/-- Settings of a validator for tokens that are signed with a shared secret. -/
def settings (audience : Option String) : JwtSettings where
  issuer := "i"
  keysUrl := keysUrl
  audience := audience
  algorithms := ["HS256"]

/-- The published key with the secret. -/
def published : PublishedKey := { type := "oct", secret := some "aw" }

/-- The reply that publishes this key. -/
def reply : Reply :=
  .answered 200 (Text.utf8 "\x7b\"keys\":[\x7b\"kty\":\"oct\",\"k\":\"aw\"\x7d]\x7d") true

theorem buildable : Request.canRequest (Request.reported keysUrl) = true := by
  simp only [Request.canRequest, Request.hostRefused_eq]
  cbv

theorem keys?_reply : reply.keys? = some ⟨[published]⟩ := by
  cbv

/-- A token without a key identifier fits the published key, and its claims are in order. -/
def Fits (audience : Option String) (presented : Presented) : Prop :=
  (Header.ofToken presented.token).toOption = some ⟨.hs256, none⟩ ∧
    (answer (settings audience) presented.now ⟨.hs256, none⟩ presented.token
      published).toOption.isSome = true

instance : Decidable (Fits audience presented) :=
  inferInstanceAs (Decidable (_ ∧ _))

theorem accepted_of_fits {audience : Option String} {presented : Presented}
    (fits : Fits audience presented) :
    ∃ accepted, ((fresh ()).present (Network.constant reply) (settings audience) presented).result =
      .ok accepted := by
  obtain ⟨header, answered⟩ := fits
  rcases header_eq : Header.ofToken presented.token with fault | found
  · simp [header_eq, Except.toOption] at header
  · obtain rfl : found = ⟨.hs256, none⟩ := by simpa [header_eq, Except.toOption] using header
    rcases answer_eq : answer (settings audience) presented.now ⟨.hs256, none⟩ presented.token
      published with error | accepted
    · simp [answer_eq, Except.toOption] at answered
    · exact ⟨accepted, accepted_of_constant (settings audience) keys?_reply buildable
        header_eq (by simp [admits, settings]; decide) rfl answer_eq⟩

/-- A token of the issuer `i` for the user `a`. -/
def issued : Presented where
  token := "eyJhbGciOiJIUzI1NiJ9.eyJleHAiOjk5OTk5OTk5OTksInN1YiI6ImEiLCJpc3MiOiJpIn0." ++
    "vZ9kruWmMyVx_tjFhG-50fmtae0aGzG7c3kAmOEpv3s"
  now := ⟨1785000000, 0⟩

theorem fits_issued : Fits none issued := by
  decide +kernel

/-- A reply that publishes other keys besides. -/
def longReply : Reply :=
  .answered 200 (Text.utf8
    ("\x7b\"keys\":[\x7b\"kty\":\"oct\",\"use\":\"enc\",\"k\":\"aA\"\x7d," ++
      "\x7b\"kty\":\"oct\",\"k\":\"aw\"\x7d,\x7b\"kty\":\"RSA\"\x7d]\x7d")) true

/-- The keys in this reply. -/
def longKeys : KeySet :=
  ⟨[{ type := "oct", use := some "enc", secret := some "aA" }, published, { type := "RSA" }]⟩

theorem keys?_longReply : longReply.keys? = some longKeys := by
  cbv

theorem issued_by_selected_key :
    (∃ header keys published key,
      Vouches (settings none) (trafficOf (Network.constant reply) (settings none) [issued] ())
        issued.token header keys published key) ∧
      ((fresh ()).present (Network.constant reply) (settings none) issued).result =
        ((fresh ()).present (Network.constant longReply) (settings none) issued).result := by
  obtain ⟨vouched, same⟩ :=
    accepted_by_selected_key (settings none) (Network.constant reply) [] () issued
  constructor
  · obtain ⟨accepted, h⟩ := accepted_of_fits fits_issued
    exact vouched accepted h
  · apply same reply longReply _ _ keys?_reply keys?_longReply
    intro header header_eq published
    have header_issued := fits_issued.1
    obtain rfl : header = ⟨.hs256, none⟩ := by
      simpa [header_eq, Except.toOption] using header_issued
    rw [← KeySet.find?_eq_some_iff, ← KeySet.find?_eq_some_iff]
    have found : KeySet.find? ⟨[Shared.published]⟩ none = longKeys.find? none := by decide
    rw [found]

end Shared

end BearerLogin
