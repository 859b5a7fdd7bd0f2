import BearerLogin.Proofs.Base64
import BearerLogin.Proofs.Exchange.Message
import BearerLogin.Proofs.TokenEndpoint.Requests

/-! What the authorization of a request says of its client.  Its value stands for a name and a
secret with a colon between them, so it does not tell where a name ends that holds a colon:
`authorization_eq_iff`. -/

namespace BearerLogin

namespace Request

/-- The user name and the password in the value of a basic authorization: what stands before the
first colon, and what stands behind it. -/
def basicUser? (value : String) : Option (String × String) := do
  let encoded ← dropFront? "Basic ".toList value.toList
  let bytes ← (Base64.decode Base64.standard (Text.utf8 (String.ofList encoded))).toOption
  let text ← Text.ofUtf8? bytes
  let (user, password) := Text.cutAt ':' text.toList
  return (String.ofList user, String.ofList password)

/-- The encoding of a text, as text. -/
def encoded (plain : String) : String :=
  Text.ofAscii (Base64.encode Base64.standard (Text.utf8 plain))

theorem basic_eq (user password : String) :
    basic user password = "Basic " ++ encoded (user ++ ":" ++ password) :=
  rfl

theorem utf8_encoded (plain : String) :
    Text.utf8 (encoded plain) = Base64.encode Base64.standard (Text.utf8 plain) :=
  Text.utf8_ofAscii fun _ member => Base64.lt_of_mem_encode member

theorem decode_encoded (plain : String) :
    Base64.decode Base64.standard (Text.utf8 (encoded plain)) = .ok (Text.utf8 plain) :=
  Base64.decode_eq_ok.mpr (utf8_encoded plain)

/-- Reading a basic authorization cuts the name and the secret at the first colon. -/
theorem basicUser?_basic (user password : String) :
    basicUser? (basic user password) =
      some (Prod.map String.ofList String.ofList
        (Text.cutAt ':' (user ++ ":" ++ password).toList)) := by
  have front : dropFront? "Basic ".toList (basic user password).toList =
      some (encoded (user ++ ":" ++ password)).toList := by
    rw [dropFront?_eq_some, basic_eq, String.toList_append]
  simp only [basicUser?, front, Option.bind_eq_bind, Option.bind_some, String.ofList_toList,
    decode_encoded, Except.toOption, Text.ofUtf8?_utf8]
  rfl

theorem basicUser?_of_plain {user : String} (plain : ':' ∉ user.toList) (password : String) :
    basicUser? (basic user password) = some (user, password) := by
  have chars : (user ++ ":" ++ password).toList = user.toList ++ ':' :: password.toList := by simp
  rw [basicUser?_basic, chars, Text.cutAt_append plain]
  simp

/-- The value of a basic authorization stands for the name and the secret with a colon between. -/
theorem basic_eq_iff {user password user' password' : String} :
    basic user password = basic user' password' ↔
      user ++ ":" ++ password = user' ++ ":" ++ password' := by
  constructor
  · intro same
    rw [basic_eq, basic_eq, String.append_right_inj] at same
    have decoded := decode_encoded (user ++ ":" ++ password)
    rw [same, decode_encoded, Except.ok.injEq] at decoded
    exact Text.utf8_injective decoded.symm
  · intro same
    rw [basic_eq, basic_eq, same]

end Request

namespace TokenEndpoint

/-- For an endpoint whose URL has no user, the authorizations of two clients are the same exactly if
their names and secrets are the same text with a colon between them.  So they tell clients apart
whose names have no colon, and what is read from one is then the name and the secret. -/
theorem authorization_eq_iff {endpoint : Url} (noUser : Request.userOf? endpoint = none)
    {network : Network ν} {network' : Network ν'} {client client' : Client}
    {clientId secret clientId' secret' : String} {state : ν} {state' : ν'}
    {first second : Request}
    (sent : first ∈ requests network client endpoint clientId secret state)
    (sent' : second ∈ requests network' client' endpoint clientId' secret' state') :
    (first.authorization = second.authorization ↔
        clientId ++ ":" ++ secret = clientId' ++ ":" ++ secret') ∧
      (':' ∉ clientId.toList → ∃ value, first.authorization = [value] ∧
        Request.basicUser? value = some (clientId, secret)) ∧
      (':' ∉ clientId.toList → ':' ∉ clientId'.toList →
        (clientId, secret) ≠ (clientId', secret') →
          first.authorization ≠ second.authorization) := by
  have alone (clientId secret : String) :
      Request.urlAuthorization endpoint ++ [Request.basic clientId secret] =
        [Request.basic clientId secret] := by
    simp [Request.urlAuthorization, noUser]
  rw [eq_of_mem_requests sent, eq_of_mem_requests sent', authorization_sentTo,
    authorization_sentTo, alone, alone]
  refine ⟨?_, ?_, ?_⟩
  · rw [List.singleton_inj, Request.basic_eq_iff]
  · intro plain
    exact ⟨_, rfl, Request.basicUser?_of_plain plain secret⟩
  · intro plain plain' different same
    have read := Request.basicUser?_of_plain plain secret
    rw [List.singleton_inj.mp same, Request.basicUser?_of_plain plain'] at read
    exact different (Option.some.inj read).symm

theorem exists_request (clientId secret : String) :
    ∃ request, request ∈ requests (Network.constant .lost) {} plainEndpoint clientId secret () := by
  refine List.exists_mem_of_ne_nil _ ?_
  rw [ne_eq, requests_eq_nil_iff, canRequest_plainEndpoint]
  decide

theorem names_authorized_apart :
    ∃ first ∈ requests (Network.constant .lost) {} plainEndpoint "a" "s" (),
      ∃ second ∈ requests (Network.constant .lost) {} plainEndpoint "b" "s" (),
        first.authorization ≠ second.authorization := by
  obtain ⟨first, sent⟩ := exists_request "a" "s"
  obtain ⟨second, sent'⟩ := exists_request "b" "s"
  have apart := (authorization_eq_iff userOf?_plainEndpoint sent sent').2.2
  exact ⟨first, sent, second, sent', apart (by decide) (by decide) (by decide)⟩

/-- A colon may belong to the name or to the secret. -/
theorem colon_authorized_alike :
    Credentials.ofMessage (Credentials.toMessage "" "a:b" "c") = .ok ⟨"a:b", "c"⟩ ∧
      Credentials.ofMessage (Credentials.toMessage "" "a" "b:c") = .ok ⟨"a", "b:c"⟩ ∧
      ∃ first ∈ requests (Network.constant .lost) {} plainEndpoint "a:b" "c" (),
        ∃ second ∈ requests (Network.constant .lost) {} plainEndpoint "a" "b:c" (),
          first.authorization = second.authorization := by
  obtain ⟨first, sent⟩ := exists_request "a:b" "c"
  obtain ⟨second, sent'⟩ := exists_request "a" "b:c"
  have alike : first.authorization = second.authorization := by
    rw [eq_of_mem_requests sent, eq_of_mem_requests sent', authorization_sentTo,
      authorization_sentTo]
    decide +kernel
  have carried : Credentials.Admissible ⟨"a:b", "c"⟩ "" := by constructor <;> decide
  have carried' : Credentials.Admissible ⟨"a", "b:c"⟩ "" := by constructor <;> decide
  have read := Credentials.ofMessage_toMessage carried
  have read' := Credentials.ofMessage_toMessage carried'
  exact ⟨read, read', first, sent, second, sent', alike⟩

end TokenEndpoint

end BearerLogin
