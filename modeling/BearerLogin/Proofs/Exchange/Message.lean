import BearerLogin.Proofs.Exchange.Turns
import BearerLogin.Proofs.Text

/-! The grammar of messages.  `Credentials.Admissible` says what an authorization identity, a name
and a password have to be like to stand in one message; reading undoes the writing of these, and
every other list of bytes is turned away before anybody is asked about it. -/

namespace BearerLogin

namespace Url

theorem parts_eq_splitOn (mark : Char) (chars : List Char) :
    parts (· == mark) chars = List.splitOn mark chars := by
  induction chars with
  | nil => rfl
  | cons c rest ih =>
    rw [parts, ih, List.splitOn_cons_eq_if_modifyHead]
    split
    · rfl
    · rcases split : List.splitOn mark rest with _ | ⟨part, others⟩
      · exact absurd split (List.splitOn_ne_nil mark rest)
      · rfl

theorem not_mem_of_mem_parts {mark : Char} {chars : List Char} :
    ∀ part ∈ parts (· == mark) chars, mark ∉ part := by
  induction chars with
  | nil => simp [parts]
  | cons c rest ih =>
    intro part member
    rw [parts] at member
    split at member
    · rcases List.mem_cons.mp member with rfl | later
      · exact List.not_mem_nil
      · exact ih part later
    · next other =>
      have differs : mark ≠ c := fun same => other (beq_iff_eq.mpr same.symm)
      split at member
      · rw [List.mem_singleton.mp member]
        exact List.not_mem_cons_of_ne_of_not_mem differs List.not_mem_nil
      · next first others split =>
        rw [split] at ih
        obtain ⟨plain, others_plain⟩ := List.forall_mem_cons.mp ih
        rcases List.mem_cons.mp member with rfl | later
        · exact List.not_mem_cons_of_ne_of_not_mem differs plain
        · exact others_plain part later

/-- The parts of a text are the lists without the separator that the text joins. -/
theorem parts_eq_iff {mark : Char} {chars : List Char} {list : List (List Char)}
    (nonempty : list ≠ []) :
    parts (· == mark) chars = list ↔
      chars = [mark].intercalate list ∧ ∀ part ∈ list, mark ∉ part := by
  constructor
  · rintro rfl
    refine ⟨?_, not_mem_of_mem_parts⟩
    rw [parts_eq_splitOn, List.intercalate_splitOn]
  · rintro ⟨rfl, plain⟩
    rw [parts_eq_splitOn, List.splitOn_intercalate mark plain nonempty]

end Url

namespace Credentials

/-- An authorization identity that may be written together with credentials: nothing holds a NUL,
name and password are given, and the identity, if there is one, is the name. -/
structure Admissible (credentials : Credentials) (identity : String) : Prop where
  identity_plain : '\x00' ∉ identity.toList
  username_plain : '\x00' ∉ credentials.username.toList
  password_plain : '\x00' ∉ credentials.password.toList
  username_given : credentials.username ≠ ""
  password_given : credentials.password ≠ ""
  own_identity : identity = "" ∨ identity = credentials.username

theorem parts_eq_three {chars identity username password : List Char} :
    parts chars = [identity, username, password] ↔
      chars = identity ++ '\x00' :: (username ++ '\x00' :: password) ∧
        '\x00' ∉ identity ∧ '\x00' ∉ username ∧ '\x00' ∉ password := by
  rw [parts, Url.parts_eq_iff (List.cons_ne_nil _ _)]
  simp [List.intercalate]

theorem ofMessage_toMessage {credentials : Credentials} {identity : String}
    (admissible : credentials.Admissible identity) :
    ofMessage (toMessage identity credentials.username credentials.password) =
      .ok credentials := by
  obtain ⟨username, password⟩ := credentials
  have cut := parts_eq_three.mpr ⟨rfl, admissible.identity_plain, admissible.username_plain,
    admissible.password_plain⟩
  have given : username.toList.isEmpty = false := by simpa using admissible.username_given
  have secret : password.toList.isEmpty = false := by simpa using admissible.password_given
  have own : (!identity.toList.isEmpty && decide (identity.toList ≠ username.toList)) = false := by
    rcases admissible.own_identity with rfl | rfl <;> simp
  rw [ofMessage, toMessage, Text.ofUtf8?_utf8]
  simp only [String.toList_ofList, cut, given, secret, own, Bool.false_eq_true, if_false,
    String.ofList_toList]

theorem admissible_of_ofMessage {message : List UInt8} {credentials : Credentials}
    (read : ofMessage message = .ok credentials) :
    ∃ identity, credentials.Admissible identity ∧
      message = toMessage identity credentials.username credentials.password := by
  unfold ofMessage at read
  split at read
  · cases read
  · next text decoded =>
    split at read
    · next identity username password cut =>
      obtain ⟨joined, identity_plain, username_plain, password_plain⟩ := parts_eq_three.mp cut
      simp only [ite_error_eq_ok] at read
      obtain ⟨given, secret, own, same⟩ := read
      cases same
      have own_identity : identity = [] ∨ identity = username := by
        simpa [or_iff_not_imp_left] using own
      refine ⟨String.ofList identity, ⟨?_, ?_, ?_, ?_, ?_, ?_⟩, ?_⟩
      · rwa [String.toList_ofList]
      · rwa [String.toList_ofList]
      · rwa [String.toList_ofList]
      · simpa using given
      · simpa using secret
      · rcases own_identity with rfl | rfl
        · exact .inl rfl
        · exact .inr rfl
      · rw [← Text.utf8_of_ofUtf8? decoded, toMessage]
        simp only [String.toList_ofList, ← joined, String.ofList_toList]
    · cases read

/-- What is read from a message is what was written into it. -/
theorem ofMessage_eq_ok {message : List UInt8} {credentials : Credentials} :
    ofMessage message = .ok credentials ↔ ∃ identity, credentials.Admissible identity ∧
      message = toMessage identity credentials.username credentials.password := by
  constructor
  · exact admissible_of_ofMessage
  · rintro ⟨identity, admissible, rfl⟩
    exact ofMessage_toMessage admissible

end Credentials

namespace Service

/-- Exactly the messages of the grammar are read, and as what was written into them.  An open
exchange turns every other one away: it reports the fault, asks no peer and stays as it is, and so
does the store. -/
theorem grammar_decides (service : Service σ) (id : ErrorId) (message : List UInt8)
    (world : World σ) :
    (∀ credentials : Credentials, Credentials.ofMessage message = .ok credentials ↔
        ∃ identity, credentials.Admissible identity ∧
          message = Credentials.toMessage identity credentials.username credentials.password) ∧
      ((∀ (identity : String) (credentials : Credentials), credentials.Admissible identity →
          message ≠
            Credentials.toMessage identity credentials.username credentials.password) →
        ∃ fault, Credentials.ofMessage message = .error fault ∧
          ∀ exchange : Exchange, exchange.isComplete = false →
            let turn := service.turn id message (exchange, world)
            turn.result = .error (.invalidResponse fault.message) ∧ turn.calls = [] ∧
              turn.after = (exchange, world.noting [.malformed fault.message])) := by
  refine ⟨fun credentials => Credentials.ofMessage_eq_ok, fun foreign => ?_⟩
  rcases read : Credentials.ofMessage message with fault | credentials
  · refine ⟨fault, rfl, fun exchange opened => ?_⟩
    intro turn
    rw [turn_result, turn_after, turn_calls, Exchange.respond_run, Exchange.asks]
    simp [opened, read]
  · obtain ⟨identity, admissible, written⟩ := Credentials.ofMessage_eq_ok.mp read
    exact absurd written (foreign identity credentials admissible)

end Service

end BearerLogin
