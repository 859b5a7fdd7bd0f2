import BearerLogin.Proofs.Instant.Written
import BearerLogin.Proofs.Json.Written
import BearerLogin.Token.Record

/-! A token is read back from its JSON form, with the members in any order, if its leap seconds are
the last seconds of their minutes.  A leap second within a minute is read as the second behind it,
as it is written (`ofJsonText_of_perm`). -/

namespace BearerLogin.Token

open Json Json.Reader

variable {token : Token}

/-- The leap seconds of a token are in place. -/
def InPlace (token : Token) : Prop :=
  token.expiresAt.InPlace ∧ ∀ a ∈ token.issuedAt, a.InPlace

/-- The token with the instants that the texts of its instants stand for. -/
def asWritten (token : Token) : Token :=
  { token with
    expiresAt := token.expiresAt.asWritten
    issuedAt := token.issuedAt.map Instant.asWritten }

theorem asWritten_eq_self : token.asWritten = token ↔ token.InPlace := by
  obtain ⟨principalName, expiresAt, issuedAt, scopes, payload⟩ := token
  rcases issuedAt with _ | a <;> simp [asWritten, InPlace, Instant.asWritten_eq_self]

/-- What is known of a token when the members of the given names have been read. -/
def draftOf (token : Token) (seen : List String) : Draft where
  principalName := if "principal_name" ∈ seen then some token.principalName else none
  expiresAt := if "expires_at" ∈ seen then some token.expiresAt else none
  issuedAt := if "issued_at" ∈ seen then some token.issuedAt else none
  scopes := if "scopes" ∈ seen then some token.scopes else none
  payload := if "payload" ∈ seen then some token.payload else none

theorem reads_readInstant {a : Instant} (exists_ : a.Exists) :
    Reads readInstant (.str a.rfc3339) a.asWritten := by
  refine reads_parsed ?_
  rw [Instant.ofText_rfc3339 exists_]
  rfl

/-- Every member of a token is one of its fields, and is read as it is written. -/
theorem settles_of_mem (expires : token.expiresAt.Exists)
    (issued : ∀ a ∈ token.issuedAt, a.Exists) (payload : token.payload.Exact (maxDepth - 1)) :
    ∀ member ∈ token.members, Settles fields token.asWritten.draftOf member := by
  intro member mem
  simp only [members, List.mem_append, List.mem_cons, List.mem_map, Option.mem_toList,
    List.not_mem_nil, or_false] at mem
  rcases mem with ((rfl | rfl) | ⟨a, issued_eq, rfl⟩) | rfl | rfl
  · refine ⟨_, _, rfl, (reads_text token.principalName).map _, ?_⟩
    intro seen unseen
    simp [draftOf, asWritten, unseen]
  · refine ⟨_, _, rfl, (reads_readInstant expires).map _, ?_⟩
    intro seen unseen
    simp [draftOf, asWritten, unseen]
  · refine ⟨_, _, rfl, (reads_optional (reads_readInstant (issued a issued_eq))).map _, ?_⟩
    intro seen unseen
    simp [draftOf, asWritten, unseen, issued_eq]
  · have each : List.Forall₂ (Reads text) (token.scopes.map Json.str) token.scopes :=
      List.forall₂_map_left_iff.mpr (List.forall₂_same.mpr fun s _ => reads_text s)
    have exact_ : ∀ value ∈ token.scopes.map Json.str, value.Exact 0 := by
      intro value member
      obtain ⟨s, -, rfl⟩ := List.mem_map.mp member
      exact .str s
    refine ⟨_, _, rfl, (reads_list each exact_).map _, ?_⟩
    intro seen unseen
    simp [draftOf, asWritten, unseen]
  · refine ⟨_, _, rfl, (reads_readValue payload).map _, ?_⟩
    intro seen unseen
    simp [draftOf, asWritten, unseen]

theorem mem_keys {key : String} :
    key ∈ token.members.map Prod.fst ↔
      key = "principal_name" ∨ key = "expires_at" ∨ (token.issuedAt.isSome ∧ key = "issued_at") ∨
        key = "scopes" ∨ key = "payload" := by
  rcases issued_eq : token.issuedAt with _ | a <;> simp [members, issued_eq]

theorem nodup_keys : (token.members.map Prod.fst).Nodup := by
  rcases issued_eq : token.issuedAt with _ | a <;> simp [members, issued_eq]

/-- A draft that has all members of a token comes to be the token as it is written. -/
theorem complete_of_keys {seen : List String}
    (keys : ∀ key, key ∈ seen ↔ key ∈ token.members.map Prod.fst) :
    ∃ complete, fillMissing fields (token.asWritten.draftOf seen) = pure complete ∧
      complete.finish = pure token.asWritten := by
  have known : token.asWritten.draftOf seen = {
      principalName := some token.principalName
      expiresAt := some token.expiresAt.asWritten
      issuedAt := token.issuedAt.map fun a => some a.asWritten
      scopes := some token.scopes
      payload := some token.payload } := by
    rcases issued_eq : token.issuedAt with _ | a <;>
      simp [draftOf, asWritten, keys, mem_keys, issued_eq]
  rw [known]
  -- The instant of issue is the only member that can be missing, and is filled in as none.
  refine ⟨{
    principalName := some token.principalName
    expiresAt := some token.expiresAt.asWritten
    issuedAt := some (token.issuedAt.map Instant.asWritten)
    scopes := some token.scopes
    payload := some token.payload }, ?_, rfl⟩
  rcases token.issuedAt with _ | a <;> rfl

/-- A token is read back from its members in any order, as it is written. -/
theorem ofJsonText_of_perm {members : List (String × Json)} (expires : token.expiresAt.Exists)
    (issued : ∀ a ∈ token.issuedAt, a.Exists) (payload : token.payload.Exact (maxDepth - 1))
    (perm : members.Perm token.members) :
    ofJsonText (Json.obj members).render = .ok token.asWritten := by
  have each : ∀ member ∈ members, Settles fields token.asWritten.draftOf member :=
    fun member mem => settles_of_mem expires issued payload member (perm.mem_iff.mp mem)
  have once : (members.map Prod.fst).Nodup := (perm.map Prod.fst).nodup_iff.mpr nodup_keys
  have builds : Builds fields (token.asWritten.draftOf []) members _ :=
    builds_of_settles each once fun _ _ => List.not_mem_nil
  have keys (key : String) : key ∈ (members.map Prod.fst).reverse ++ [] ↔
      key ∈ token.members.map Prod.fst := by
    rw [List.append_nil, List.mem_reverse, (perm.map Prod.fst).mem_iff]
  obtain ⟨complete, filled, finished⟩ := complete_of_keys keys
  have reads : Reads (do (← record "ValidatedToken" fields {}).finish) (.obj members)
      token.asWritten :=
    fun _ ends => (reads_record builds filled ends).bind (finished ▸ .pure token.asWritten)
  exact reads.run_render

theorem ofJsonText_eq_self {members : List (String × Json)} (expires : token.expiresAt.Exists)
    (issued : ∀ a ∈ token.issuedAt, a.Exists) (payload : token.payload.Exact (maxDepth - 1))
    (perm : members.Perm token.members) :
    ofJsonText (Json.obj members).render = .ok token ↔ token.InPlace := by
  rw [ofJsonText_of_perm expires issued payload perm, Except.ok.injEq, asWritten_eq_self]

/-- A token of the calendar, with a payload that holds no doubles, is read back from its JSON form
exactly if its leap seconds are in place, and so it is from the same members in any other order.
Whether they are or not, the token is read that has the instants as they are written.  The token
itself is one of the levels to which lists and objects may nest.  The instant of issue is a member
exactly if there is one. -/
theorem ofJsonText_toJson (token : Token) (expires : token.expiresAt.Exists)
    (issued : ∀ a ∈ token.issuedAt, a.Exists) (payload : token.payload.Exact (maxDepth - 1)) :
    (ofJsonText token.toJson.render = .ok token ↔ token.InPlace) ∧
      (∀ members, members.Perm token.members →
        (ofJsonText (Json.obj members).render = .ok token ↔ token.InPlace) ∧
          ofJsonText (Json.obj members).render = .ok token.asWritten) ∧
      ((∃ value, ("issued_at", value) ∈ token.members) ↔ token.issuedAt.isSome) := by
  refine ⟨ofJsonText_eq_self expires issued payload (.refl _), fun _ perm => ⟨?_, ?_⟩, ?_⟩
  · exact ofJsonText_eq_self expires issued payload perm
  · exact ofJsonText_of_perm expires issued payload perm
  · rcases issued_eq : token.issuedAt with _ | a <;> simp [members, issued_eq]

/-- An instant before the year zero. -/
def ancient : Instant := ⟨-100000000000, 120000000⟩

/-- Half a second into the leap second at the end of 2016. -/
def leap : Instant := ⟨1483228799, 1500000000⟩

theorem exists_ancient : ancient.Exists :=
  ⟨by decide, by decide, by decide⟩

theorem exists_leap : leap.Exists :=
  ⟨by decide, by decide, by decide⟩

/-- A token whose texts need escapes or lie outside ASCII. -/
def unusual (issuedAt : Option Instant) : Token where
  principalName := "Zoë \"\\\n\x01😀"
  expiresAt := ancient
  issuedAt
  scopes := ["jobs/read", "é"]
  payload := .obj [("n", .int 0xFFFFFFFFFFFFFFFF),
    ("", .arr [.int (-0x8000000000000000), .null, .obj []])]

theorem exact_payload_unusual {issuedAt : Option Instant} :
    (unusual issuedAt).payload.Exact (maxDepth - 1) := by
  have inner : Json.Exact 125 (.arr [.int (-0x8000000000000000), .null, .obj []]) := by
    refine .arr ?_
    rintro item (_ | ⟨_, _ | ⟨_, _ | ⟨_, ⟨⟩⟩⟩⟩)
    · exact .int (by decide) (by decide)
    · exact .null
    · exact .obj List.nodup_nil (List.forall_mem_nil _)
  refine .obj (by decide) ?_
  rintro member (_ | ⟨_, _ | ⟨_, ⟨⟩⟩⟩)
  · exact .int (by decide) (by decide)
  · exact inner

theorem inPlace_ancient : ancient.InPlace := by decide

theorem inPlace_leap : leap.InPlace := by decide

/-- The members come in reverse, or there is no instant of issue among them. -/
theorem ofJsonText_unusual :
    ((unusual (some leap)).expiresAt.Exists ∧ (∀ a ∈ (unusual (some leap)).issuedAt, a.Exists) ∧
        (unusual (some leap)).payload.Exact (maxDepth - 1)) ∧
      leap ∈ (unusual (some leap)).issuedAt ∧
      ofJsonText (Json.obj (unusual (some leap)).members.reverse).render =
        .ok (unusual (some leap)) ∧
      ofJsonText (unusual none).toJson.render = .ok (unusual none) ∧
      ¬∃ value, ("issued_at", value) ∈ (unusual none).members := by
  have issued : ∀ a ∈ (unusual (some leap)).issuedAt, a.Exists := by
    rintro a ⟨⟩
    exact exists_leap
  have unissued : ∀ a ∈ (unusual none).issuedAt, a.Exists := by
    rintro a ⟨⟩
  have inPlace : (unusual (some leap)).InPlace := by
    refine ⟨inPlace_ancient, ?_⟩
    rintro a ⟨⟩
    exact inPlace_leap
  have inPlace_unissued : (unusual none).InPlace := by
    refine ⟨inPlace_ancient, ?_⟩
    rintro a ⟨⟩
  obtain ⟨-, anyOrder, -⟩ :=
    ofJsonText_toJson (unusual (some leap)) exists_ancient issued exact_payload_unusual
  obtain ⟨read, -, given⟩ :=
    ofJsonText_toJson (unusual none) exists_ancient unissued exact_payload_unusual
  refine ⟨⟨exists_ancient, issued, exact_payload_unusual⟩, rfl, ?_, ?_, fun found => ?_⟩
  · exact (anyOrder _ (List.reverse_perm _)).1.mpr inPlace
  · exact read.mpr inPlace_unissued
  · exact absurd (given.mp found) (by decide)

/-- Half a second into a leap second that follows the first second of 1970. -/
def astray : Instant := ⟨0, 1500000000⟩

theorem exists_astray : astray.Exists :=
  ⟨by decide, by decide, by decide⟩

/-- Lists inside each other. -/
def nested : Nat → Json
  | 0 => .null
  | depth + 1 => .arr [nested depth]

theorem exact_nested (depth : Nat) : (nested depth).Exact depth := by
  induction depth with
  | zero => exact .null
  | succ depth ih => exact .arr (List.forall_mem_singleton.mpr ih)

/-- A token without scopes and without an instant of issue. -/
def bare (expiresAt : Instant) (payload : Json) : Token where
  principalName := "a"
  expiresAt
  payload

/-- A leap second within a minute is read as the second behind it.  A payload can nest so deep that
it is read on its own, but not as a member of a token. -/
theorem ofJsonText_ne_self :
    (astray.Exists ∧ ofJsonText (bare astray .null).toJson.render =
        .ok (bare ⟨1, 500000000⟩ .null) ∧ bare ⟨1, 500000000⟩ .null ≠ bare astray .null) ∧
      (nested maxDepth).Exact maxDepth ∧
      run (readValue maxDepth) (Text.utf8 (nested maxDepth).render) = .ok (nested maxDepth) ∧
      (ofJsonText (bare ⟨0, 0⟩ (nested maxDepth)).toJson.render).toOption = none := by
  have unissued : ∀ a ∈ (bare astray .null).issuedAt, a.Exists := by
    rintro a ⟨⟩
  have moved : (bare astray .null).asWritten = bare ⟨1, 500000000⟩ .null := rfl
  refine ⟨⟨exists_astray, ?_, ?_⟩, exact_nested maxDepth, ?_, by decide +kernel⟩
  · rw [toJson, ofJsonText_of_perm exists_astray unissued .null (.refl _), moved]
  · intro same
    exact absurd (congrArg Token.expiresAt same) (by decide)
  · exact (reads_readValue (exact_nested maxDepth)).run_render

end BearerLogin.Token
