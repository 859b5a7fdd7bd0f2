import BearerLogin.Proofs.Json.Objects
import BearerLogin.Proofs.TokenEndpoint.Purchase

/-! The answer that brings a token, and what else has to be in it.  The kind of the token and the
time for which it lasts are only reported, but they are read with it: where one of them is not of
its kind, the whole answer is lost and the token with it.  Everything else is passed over. -/

namespace BearerLogin.TokenEndpoint

open Json Reader

namespace Grant

variable {c after place : Cursor} {members : List (String × Cursor)} {draft : Draft}

theorem optional_text_ok {found : Option String} :
    optional text c = .ok found after ↔ readValue 0 c = .ok (found.elim .null .str) after :=
  optional_ok text_ok fun _ => by simp

theorem optional_natural_ok {found : Option Nat} :
    optional natural c = .ok found after ↔
      readValue 0 c = .ok (found.elim .null fun n => .int n) after :=
  optional_ok natural_ok fun _ => by simp

/-- At a place there is a text, or nothing. -/
def MayBeText (place : Cursor) : Prop :=
  Holds place .null ∨ ∃ text, Holds place (.str text)

/-- At a place there is an integer without a sign that fits into 64 bits, or nothing. -/
def MayBeNatural (place : Cursor) : Prop :=
  Holds place .null ∨ ∃ n : Nat, n < 2 ^ 64 ∧ Holds place (.int n)

theorem lt_of_readValue {depth n : Nat} (read : readValue depth c = .ok (.int n) after) :
    n < 2 ^ 64 := by
  have small : (n : Int) < 2 ^ 64 := by
    rcases readValue_int.mp read with ⟨-, number⟩ | ⟨_, -, -, number⟩
    · exact readNumber_lt number
    · exact readNumber_lt number
  exact_mod_cast small

theorem mayBeText_iff : MayBeText place ↔ ∃ found after, optional text place = .ok found after := by
  simp only [optional_text_ok, Option.exists, Option.elim_none, Option.elim_some]
  rfl

theorem mayBeNatural_iff :
    MayBeNatural place ↔ ∃ found after, optional natural place = .ok found after := by
  simp only [optional_natural_ok, Option.exists, Option.elim_none, Option.elim_some]
  refine or_congr_right (exists_congr fun n => and_iff_right_of_imp ?_)
  rintro ⟨after, read⟩
  exact lt_of_readValue read

/-! ### The members that are read -/

theorem field_read_ok {name : String} {short : Bool} {read : Reader α} {put : α → Grant → Grant}
    {set : Draft → Draft} :
    (field name short (do let a ← read; return put a)).read c = .ok set after ↔
      ∃ a, read c = .ok a after ∧ set = fun d => ⟨put a d.grant, name :: d.seen⟩ := by
  simp [field, eq_comm]

theorem noting : Noting fields Draft.seen where
  isSet field member draft := by
    simp only [fields, List.mem_cons, List.not_mem_nil, or_false] at member
    rcases member with rfl | rfl | rfl <;> rfl
  noted field member c set after read draft := by
    simp only [fields, List.mem_cons, List.not_mem_nil, or_false] at member
    rcases member with rfl | rfl | rfl
    all_goals
      obtain ⟨_, -, rfl⟩ := field_read_ok.mp read
      rfl
  optional := by simp [fields, field]
  whole field member c set after read := by
    simp only [fields, List.mem_cons, List.not_mem_nil, or_false] at member
    rcases member with rfl | rfl | rfl
    · obtain ⟨_, text, -⟩ := field_read_ok.mp read
      exact skipValue_of_read (optional_text_ok.mp text)
    · obtain ⟨_, text, -⟩ := field_read_ok.mp read
      exact skipValue_of_read (optional_text_ok.mp text)
    · obtain ⟨_, natural, -⟩ := field_read_ok.mp read
      exact skipValue_of_read (optional_natural_ok.mp natural)

/-- The members that are only reported are of their kinds. -/
structure Reportable (members : List (String × Cursor)) : Prop where
  tokenType : ∀ place, ("token_type", place) ∈ members → MayBeText place
  expiresIn : ∀ place, ("expires_in", place) ∈ members → MayBeNatural place

theorem reportable_of_readable (readable : Readable fields members) : Reportable members where
  tokenType place member := by
    obtain ⟨set, after, read⟩ := readable _ member _ rfl
    obtain ⟨found, read, -⟩ := field_read_ok.mp read
    exact mayBeText_iff.mpr ⟨found, after, read⟩
  expiresIn place member := by
    obtain ⟨set, after, read⟩ := readable _ member _ rfl
    obtain ⟨found, read, -⟩ := field_read_ok.mp read
    exact mayBeNatural_iff.mpr ⟨found, after, read⟩

theorem readable_of_reportable (reportable : Reportable members)
    (token : ∀ place, ("access_token", place) ∈ members → MayBeText place) :
    Readable fields members := by
  rintro ⟨key, place⟩ member known found
  have name_eq : known.name = key := by simpa using List.find?_some found
  have listed := List.mem_of_find?_eq_some found
  simp only [fields, List.mem_cons, List.not_mem_nil, or_false] at listed
  rcases listed with rfl | rfl | rfl
  · subst name_eq
    obtain ⟨_, after, read⟩ := mayBeText_iff.mp (token place member)
    exact ⟨_, after, field_read_ok.mpr ⟨_, read, rfl⟩⟩
  · subst name_eq
    obtain ⟨_, after, read⟩ := mayBeText_iff.mp (reportable.tokenType place member)
    exact ⟨_, after, field_read_ok.mpr ⟨_, read, rfl⟩⟩
  · subst name_eq
    obtain ⟨_, after, read⟩ := mayBeNatural_iff.mp (reportable.expiresIn place member)
    exact ⟨_, after, field_read_ok.mpr ⟨_, read, rfl⟩⟩

/-! ### The token -/

theorem settle_token {token : String} (found : Holds place (.str token)) :
    (settle fields draft ("access_token", place)).grant.accessToken = some token := by
  obtain ⟨after, value⟩ := found
  have read : optional text place = .ok (some token) after := optional_text_ok.mpr value
  rw [settle_of_read rfl (field_read_ok.mpr ⟨_, read, rfl⟩)]

theorem settle_other {member : String × Cursor} (other : member.1 ≠ "access_token") :
    (settle fields draft member).grant.accessToken = draft.grant.accessToken := by
  obtain ⟨key, place⟩ := member
  rcases known : fields.find? (fun f => f.name == key) with _ | known'
  · rw [settle_of_unknown known]
  · have name_eq : known'.name = key := by simpa using List.find?_some known
    have listed := List.mem_of_find?_eq_some known
    simp only [fields, List.mem_cons, List.not_mem_nil, or_false] at listed
    simp only [settle, known]
    split
    · next set after read =>
      rcases listed with rfl | rfl | rfl
      · exact absurd name_eq.symm other
      · obtain ⟨_, -, rfl⟩ := field_read_ok.mp read
        rfl
      · obtain ⟨_, -, rfl⟩ := field_read_ok.mp read
        rfl
    · rfl

theorem settled_others (others : ∀ member ∈ members, member.1 ≠ "access_token") :
    (members.foldl (settle fields) draft).grant.accessToken = draft.grant.accessToken := by
  induction members generalizing draft with
  | nil => rfl
  | cons member rest ih =>
    obtain ⟨other, rest_others⟩ := List.forall_mem_cons.mp others
    rw [List.foldl_cons, ih rest_others, settle_other other]

/-- The token of a grant is the one member of that name. -/
theorem settled_token {token : String} (once : (members.map Prod.fst).Nodup)
    (given : ("access_token", place) ∈ members) (found : Holds place (.str token)) :
    (members.foldl (settle fields) draft).grant.accessToken = some token := by
  -- No member behind the token has its name, so none of them changes it.
  obtain ⟨before, behind, rfl⟩ := List.append_of_mem given
  have others : ∀ member ∈ behind, member.1 ≠ "access_token" := by
    rintro member later same
    rw [List.map_append, List.map_cons] at once
    have apart := (List.nodup_cons.mp once.of_append_right).1
    exact apart (List.mem_map.mpr ⟨member, later, same⟩)
  rw [List.foldl_append, List.foldl_cons, settled_others others, settle_token found]

/-! ### The grant -/

theorem ofBytes?_eq_some {bytes : List UInt8} {grant : Grant} :
    ofBytes? bytes = some grant ↔ ∃ draft mid after,
      record "TokenResponse" fields {} { rest := bytes } = .ok draft mid ∧
        expectEnd mid = .ok () after ∧ draft.grant = grant := by
  have whole {mid : Cursor} :
      (do return (← record "TokenResponse" fields {}).grant : Reader Grant) { rest := bytes } =
          .ok grant mid ↔
        ∃ draft, record "TokenResponse" fields {} { rest := bytes } = .ok draft mid ∧
          draft.grant = grant := by
    simp [and_comm]
  rw [ofBytes?]
  constructor
  · intro read
    obtain ⟨mid, after, read, ended⟩ := run_eq_ok.mp (eq_ok_of_toOption read)
    obtain ⟨draft, record, same⟩ := whole.mp read
    exact ⟨draft, mid, after, record, ended, same⟩
  · rintro ⟨draft, mid, after, record, ended, same⟩
    rw [run_eq_ok.mpr ⟨mid, after, whole.mpr ⟨draft, record, same⟩, ended⟩]
    rfl

variable {bytes : List UInt8} {grant : Grant} {token : String}

theorem reportable_of_ofBytes? (object : run memberPlaces bytes = .ok members)
    (read : ofBytes? bytes = some grant) : Reportable members := by
  obtain ⟨_, _, object, -⟩ := run_eq_ok.mp object
  obtain ⟨draft, _, _, record, -⟩ := ofBytes?_eq_some.mp read
  exact reportable_of_readable (readable_of_record noting object record)

theorem ofBytes?_of_reportable (object : run memberPlaces bytes = .ok members)
    (once : (members.map Prod.fst).Nodup) (given : ("access_token", place) ∈ members)
    (found : Holds place (.str token)) (reportable : Reportable members) :
    ∃ grant, ofBytes? bytes = some grant ∧ grant.accessToken = some token := by
  obtain ⟨mid, after, object, ended⟩ := run_eq_ok.mp object
  have readable : Readable fields members := by
    refine readable_of_reportable reportable fun other member => ?_
    obtain rfl : other = place :=
      congrArg Prod.snd (List.inj_on_of_nodup_map once member given rfl)
    exact .inr ⟨token, found⟩
  have read : record "TokenResponse" fields {} { rest := bytes } = .ok _ mid :=
    record_of_readable noting object once rfl readable
  exact ⟨_, ofBytes?_eq_some.mpr ⟨_, mid, after, read, ended, rfl⟩,
    settled_token once given found⟩

end Grant

variable {network : Network ν} {client : Client} {endpoint : Url} {clientId secret : String}
  {state : ν}

/-- What is bought where the last answer is a success and an object that holds a token.  It is the
token exactly if the members that are only reported are of their kinds, whatever else there is;
otherwise the answer counts as one that cannot be read. -/
theorem bought_iff_reportable {status : Nat} {body : List UInt8} {members : List (String × Cursor)}
    {place : Cursor} {token : String}
    (answered : (purchase network client endpoint clientId secret state).result =
      .ok ⟨status, some body⟩)
    (success : 200 ≤ status ∧ status < 300) (object : run memberPlaces body = .ok members)
    (once : (members.map Prod.fst).Nodup) (given : ("access_token", place) ∈ members)
    (found : Holds place (.str token)) (nonempty : token ≠ "") :
    let result := (acquire network client endpoint clientId secret state).result
    (result = .ok token ↔ Grant.Reportable members) ∧
      (¬Grant.Reportable members →
        result = .error (.transport "HTTP error: error decoding response body")) := by
  intro result
  have decided : result = (tokenIn (.ok ⟨status, some body⟩)).1.mapError
      fun error => .transport error.message := by
    rw [← answered]
    exact acquire_result
  refine ⟨⟨fun bought => ?_, fun reportable => ?_⟩, fun unreportable => ?_⟩
  · rw [decided, mapError_eq_ok, tokenIn_eq_ok] at bought
    cases bought with
    | granted _ read => exact Grant.reportable_of_ofBytes? object read
  · obtain ⟨grant, read, given⟩ := Grant.ofBytes?_of_reportable object once given found reportable
    rw [decided, mapError_eq_ok, tokenIn_eq_ok]
    exact .granted success read given nonempty
  · have unread : Grant.ofBytes? body = none := by
      rw [Option.eq_none_iff_forall_ne_some]
      exact fun grant read => unreportable (Grant.reportable_of_ofBytes? object read)
    rw [decided]
    simp only [tokenIn, Option.bind_some, unread]
    rw [if_neg (by omega)]
    rfl

/-- A server that answers everything with a success. -/
def granting (answer : String) : Network Unit :=
  .constant (.answered 200 (Text.utf8 answer) true)

theorem purchase_granting (client : Client) (clientId secret answer : String) :
    (purchase (granting answer) client plainEndpoint clientId secret ()).result =
      .ok ⟨200, some (Text.utf8 answer)⟩ := by
  have first : answerAfter (granting answer) client plainEndpoint clientId secret () 0 =
      .ok ⟨200, some (Text.utf8 answer)⟩ :=
    answerAfter_constant canRequest_plainEndpoint
  have settled :
      ¬Transient (answerAfter (granting answer) client plainEndpoint clientId secret () 0) := by
    rw [first]
    rintro (_ | ⟨least, -⟩)
    exact absurd (show 500 ≤ 200 from least) (by decide)
  have last : Last (granting answer) client plainEndpoint clientId secret () 0 :=
    .zero fun transient => absurd transient settled
  have countable : ¬Uncountable (granting answer) client plainEndpoint clientId secret () :=
    fun uncountable => settled ((uncountable_iff.mp uncountable).2 0 (by decide))
  rw [(purchase_of_countable last countable).1, first]

/-- A place in the first line of a text, by what is left of it. -/
def inFirstLine (column : Nat) (rest : String) : Cursor :=
  ⟨Text.utf8 rest, 1, column⟩

/-- A token without a kind, beside a member that nobody knows. -/
def kindless : String :=
  "\x7b\"access_token\":\"t\",\"token_type\":null,\"scope\":[1e999]\x7d"

/-- A token with a time that is written as a text. -/
def quotedExpiry : String :=
  "\x7b\"access_token\":\"t\",\"expires_in\":\"300\"\x7d"

theorem places_kindless : run memberPlaces (Text.utf8 kindless) = .ok [
    ("access_token", inFirstLine 16 "\"t\",\"token_type\":null,\"scope\":[1e999]\x7d"),
    ("token_type", inFirstLine 33 "null,\"scope\":[1e999]\x7d"),
    ("scope", inFirstLine 46 "[1e999]\x7d")] :=
  rfl

theorem places_quotedExpiry : run memberPlaces (Text.utf8 quotedExpiry) = .ok [
    ("access_token", inFirstLine 16 "\"t\",\"expires_in\":\"300\"\x7d"),
    ("expires_in", inFirstLine 33 "\"300\"\x7d")] :=
  rfl

theorem bought_kindless :
    (acquire (granting kindless) {} plainEndpoint "a" "s" ()).result = .ok "t" := by
  have token :
      Holds (inFirstLine 16 "\"t\",\"token_type\":null,\"scope\":[1e999]\x7d") (.str "t") :=
    ⟨_, readValue_str.mpr ⟨rfl, rfl⟩⟩
  have kind : Holds (inFirstLine 33 "null,\"scope\":[1e999]\x7d") .null :=
    ⟨_, readValue_null.mpr ⟨rfl, rfl⟩⟩
  refine (bought_iff_reportable (purchase_granting _ _ _ _) (by decide) places_kindless (by decide)
    List.mem_cons_self token (by decide)).1.mpr ⟨fun place member => ?_, fun place member => ?_⟩
  · obtain rfl : place = inFirstLine 33 "null,\"scope\":[1e999]\x7d" := by simpa using member
    exact .inl kind
  · simp at member

/-- The token is lost with a time that some servers write as a text. -/
theorem lost_with_quotedExpiry :
    ∃ members place, run memberPlaces (Text.utf8 quotedExpiry) = .ok members ∧
      (members.map Prod.fst).Nodup ∧ ("access_token", place) ∈ members ∧
      Holds place (.str "t") ∧
      (purchase (granting quotedExpiry) {} plainEndpoint "a" "s" ()).result =
        .ok ⟨200, some (Text.utf8 quotedExpiry)⟩ ∧
      (acquire (granting quotedExpiry) {} plainEndpoint "a" "s" ()).result =
        .error (.transport "HTTP error: error decoding response body") := by
  have token : Holds (inFirstLine 16 "\"t\",\"expires_in\":\"300\"\x7d") (.str "t") :=
    ⟨_, readValue_str.mpr ⟨rfl, rfl⟩⟩
  have answered := purchase_granting {} "a" "s" quotedExpiry
  have unread : Grant.ofBytes? (Text.utf8 quotedExpiry) = none := by decide +kernel
  refine ⟨_, _, places_quotedExpiry, by decide, List.mem_cons_self, token, answered, ?_⟩
  rw [acquire_result, answered]
  simp only [tokenIn, Option.bind_some, unread]
  rfl

end BearerLogin.TokenEndpoint
