import BearerLogin.Deployment
import BearerLogin.Proofs.Http.FrontEnd
import BearerLogin.Proofs.Validator.Session

/-! What a client is told when it is rejected: an identifier and nothing else.  The identifier is
written without anything to escape, so that the text of two rejections differs in it alone. -/

namespace BearerLogin

/-! ### Identifiers -/

/-- The hexadecimal digits in lower case. -/
def hexDigits : List Char :=
  "0123456789abcdef".toList

theorem digitChar_mem_hexDigits {d : Nat} (small : d < 16) : Nat.digitChar d ∈ hexDigits := by
  have all : ∀ d < 16, Nat.digitChar d ∈ hexDigits := by
    decide
  exact all d small

theorem mem_hexDigits_of_mem_toDigits {n : Nat} : ∀ c ∈ Nat.toDigits 16 n, c ∈ hexDigits := by
  induction n using Nat.strongRecOn with
  | ind n ih =>
    intro c member
    rw [Nat.toDigits_eq_if (by decide)] at member
    split at member
    · next small =>
      rw [List.mem_singleton.mp member]
      exact digitChar_mem_hexDigits small
    · rcases List.mem_append.mp member with earlier | last
      · exact ih (n / 16) (by omega) c earlier
      · rw [List.mem_singleton.mp last]
        exact digitChar_mem_hexDigits (Nat.mod_lt n (by decide))

/-- A text has eight hexadecimal digits. -/
structure EightHexDigits (text : String) : Prop where
  length : text.toList.length = 8
  digits : ∀ c ∈ text.toList, c ∈ hexDigits

theorem ErrorId.eightHexDigits_render (id : ErrorId) : EightHexDigits id.render := by
  have fits : (Nat.toDigits 16 id.value.toNat).length ≤ 8 :=
    Nat.toDigits_length 16 id.value.toNat 8 (by decide) id.value.toNat_lt
  constructor
  · rw [render, String.toList_ofList, List.length_append, List.length_replicate]
    omega
  · intro c member
    rw [render, String.toList_ofList] at member
    rcases List.mem_append.mp member with padding | digit
    · rw [List.eq_of_mem_replicate padding]
      decide
    · exact mem_hexDigits_of_mem_toDigits c digit

/-! ### Texts without escapes -/

namespace Json

/-- Whether a character stands in a string as it is. -/
def isPlain (c : Char) : Bool :=
  c ≠ '"' && c ≠ '\\' && 32 ≤ c.toNat

theorem escapeChar_of_isPlain {c : Char} (plain : isPlain c = true) : escapeChar c = [c] := by
  simp only [isPlain, Bool.and_eq_true, decide_eq_true_eq] at plain
  obtain ⟨⟨quote, backslash⟩, visible⟩ := plain
  unfold escapeChar
  split
  · exact absurd rfl quote
  · exact absurd rfl backslash
  -- The other short escapes are of control characters.
  all_goals first
    | exact absurd visible (by decide)
    | rw [if_neg (by omega)]

theorem renderString_of_plain {text : String} (plain : text.toList.all isPlain = true) :
    renderString text = '"' :: (text.toList ++ ['"']) := by
  have same : text.toList.flatMap escapeChar = text.toList.flatMap fun c => [c] :=
    List.flatMap_congr fun c member => escapeChar_of_isPlain (List.all_eq_true.mp plain c member)
  rw [renderString, same, List.flatMap_singleton']

end Json

theorem EightHexDigits.plain {text : String} (hex : EightHexDigits text) :
    text.toList.all Json.isPlain = true := by
  have plain : hexDigits.all Json.isPlain = true := by
    decide
  rw [List.all_eq_true]
  intro c member
  exact List.all_eq_true.mp plain c (hex.digits c member)

namespace Http

/-! ### Rejections -/

/-- The body of a refusal for a failed login is one text but for the identifier. -/
theorem Refusal.render_of_failure (failure : LoginFailure) :
    (authenticationFailed failure.message).response.body.render =
      "\x7b\"error\":\"Authentication failed (ErrId: " ++ failure.id.render ++
        ")\",\"code\":\"AUTHENTICATION_FAILED\"\x7d" := by
  have message : failure.message.toList =
      "Authentication failed (ErrId: ".toList ++ failure.id.render.toList ++ ")".toList := by
    rw [← String.toList_append, ← String.toList_append]
    rfl
  have plain : failure.message.toList.all Json.isPlain = true := by
    rw [message, List.all_append, List.all_append, failure.id.eightHexDigits_render.plain]
    decide +kernel
  have error : Json.renderString "error" = "\"error\"".toList := by
    decide +kernel
  have coded : Json.renderString "code" = "\"code\"".toList := by
    decide +kernel
  have failed : Json.renderString "AUTHENTICATION_FAILED" =
      "\"AUTHENTICATION_FAILED\"".toList := by
    decide +kernel
  rw [← String.toList_inj]
  simp only [response, detail, code, Body.render, Json.render, Json.renderChars,
    Json.renderMembers, Json.renderString_of_plain plain, String.toList_ofList,
    String.toList_append, message, error, coded, failed]
  simp

/-- Two responses are the same but for the identifiers in their bodies. -/
structure Outgoing.SameBut (id id' : ErrorId) (response response' : Outgoing) : Prop where
  status : response.status = response'.status
  contentType : response.body.contentType = response'.body.contentType
  allow : response.allow = response'.allow
  headOnly : response.headOnly = response'.headOnly
  body : ∃ before after, response.body.render = before ++ id.render ++ after ∧
    response'.body.render = before ++ id'.render ++ after

namespace App

/-- A request to log in with a well-formed message is rejected. -/
def Rejects (app : App σ) (id : ErrorId) (request : Incoming) (world : World σ) : Prop :=
  ∃ message credentials, message? request = some message ∧
    Credentials.ofMessage message = .ok credentials ∧
    ¬(app.service.turn id message ({}, world)).LoggedIn

theorem reply_of_error {taken : Except ExchangeError Unit × Exchange} {error : ExchangeError}
    (failed : taken.1 = .error error) : reply taken = ((Refusal.ofExchange error).response, []) := by
  obtain ⟨_, _⟩ := taken
  cases failed
  rfl

/-- Whatever a login fails for, its response is the one for a failure under its identifier. -/
theorem serve_of_rejects {app : App σ} {id : ErrorId} {request : Incoming} {world : World σ}
    (rejects : app.Rejects id request world) (now : Instant) :
    ∃ failure : LoginFailure, failure.id = id ∧
      ((app.serve now id request).run world).1 =
        (Refusal.authenticationFailed failure.message).response := by
  obtain ⟨message, credentials, given, wellFormed, rejected⟩ := rejects
  have opened : ({} : Exchange).isComplete = false := rfl
  have taken := Exchange.respond_of_credentials app.service id {} world opened wellFormed
  rw [Turn.LoggedIn, Service.turn_result, taken] at rejected
  rw [app.serve_of_message now id world given]
  rcases result : (app.service.attempt credentials.submission world).1.result with cause | principal
  · rw [result] at taken
    exact ⟨.ofError id cause, rfl, congrArg Prod.fst (reply_of_error taken)⟩
  · rw [result] at rejected
    exact absurd rfl rejected

/-- Two clients that are rejected are told the same but for the identifiers, whatever services they
log in to, in whatever state these are, and whatever they are rejected for. -/
theorem rejections_alike (app : App σ) (app' : App τ) (now now' : Instant) {id id' : ErrorId}
    {request request' : Incoming} {world : World σ} {world' : World τ}
    (rejects : app.Rejects id request world) (rejects' : app'.Rejects id' request' world') :
    Outgoing.SameBut id id' ((app.serve now id request).run world).1
        ((app'.serve now' id' request').run world').1 ∧
      EightHexDigits id.render ∧ EightHexDigits id'.render := by
  obtain ⟨failure, rfl, response⟩ := serve_of_rejects rejects now
  obtain ⟨failure', rfl, response'⟩ := serve_of_rejects rejects' now'
  rw [response, response']
  refine ⟨⟨rfl, rfl, rfl, rfl, ?_⟩, failure.id.eightHexDigits_render,
    failure'.id.eightHexDigits_render⟩
  exact ⟨_, _, Refusal.render_of_failure failure, Refusal.render_of_failure failure'⟩

/-- A service to which no token was registered. -/
def unregistered : App (Backend Unit) where
  service := { peers := Acceptance.registered.peers Network.unreachable {} }

/-- A request to log in as `a` with a token of `b`. -/
def foreignLogin : Incoming :=
  { secretLogin with body := Text.utf8 "\x7b\"auth_bytes\":\"AGEAJGFjY2Vzc1Rva2VuOmI=\"\x7d" }

theorem rejects_secretLogin :
    unregistered.Rejects ⟨7⟩ secretLogin { peers := Backend.fresh () } := by
  refine ⟨Credentials.toMessage "" "a" "a", ⟨"a", "a"⟩, by decide +kernel,
    eq_ok_of_toOption (by decide +kernel), ?_⟩
  rw [Turn.LoggedIn]
  decide +kernel

theorem rejects_foreignLogin : trusting.Rejects ⟨11⟩ foreignLogin { peers := () } := by
  refine ⟨Credentials.toMessage "" "a" "$accessToken:b", ⟨"a", "$accessToken:b"⟩,
    by decide +kernel, eq_ok_of_toOption (by decide +kernel), ?_⟩
  rw [Turn.LoggedIn]
  decide +kernel

theorem rejections_of_strangers_alike :
    Outgoing.SameBut ⟨7⟩ ⟨11⟩
      ((unregistered.serve ⟨0, 0⟩ ⟨7⟩ secretLogin).run { peers := Backend.fresh () }).1
      ((trusting.serve ⟨0, 0⟩ ⟨11⟩ foreignLogin).run { peers := () }).1 :=
  (rejections_alike unregistered trusting ⟨0, 0⟩ ⟨0, 0⟩ rejects_secretLogin
    rejects_foreignLogin).1

end App

end Http

end BearerLogin
