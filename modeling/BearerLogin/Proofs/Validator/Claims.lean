import BearerLogin.Jwt.Validator
import BearerLogin.Proofs.Json.Agreement
import BearerLogin.Proofs.Json.Objects
import BearerLogin.Proofs.Steps

/-! The claims that are checked are the ones in the payload.  A payload is read twice, once as a
value and once for its claims, by readers that go different ways: the second one passes over members
that it does not know and gives a claim up where it is not of the right shape.  Both stay at the
same place, member by member, or the second one does not come to an end. -/

namespace BearerLogin

open Json Reader

namespace Jwt.Claim

variable {c after : Cursor} {depth : Nat} {value : Json}

/-- A claim that could be read or not. -/
def ofOption : Option α → Claim α
  | some value => .given value
  | none => .unreadable

/-- The point in time in a member of a payload, as far as it can be read. -/
def ofTime : Json → Claim Nat
  | .int n => if 0 ≤ n then .given n.toNat else .unreadable
  | .real d => ofOption d.nearestNat?
  | _ => .unreadable

/-- The text in a member of a payload, as far as it can be read. -/
def ofText : Json → Claim String
  | .null => .absent
  | .str text => .given text
  | _ => .unreadable

/-- The names in a member of a payload, as far as they can be read. -/
def ofNames : Json → Claim (List String)
  | .null => .absent
  | value => ofOption (namesIn? value)

/-! ### Points in time -/

theorem ofSeconds_of_ok (seconds : Option Nat) (h : readSeconds c = .ok seconds after) :
    ofSeconds c = .ok (ofOption seconds) after := by
  unfold ofSeconds
  rw [bind_of_ok (attempt_of_ok h)]
  cases seconds <;> rfl

theorem ofSeconds_of_error {fault : Json.Fault} (h : readSeconds c = .error fault after) :
    ofSeconds c = .ok .unreadable after := by
  unfold ofSeconds
  rw [bind_of_ok (attempt_of_error h)]
  rfl

theorem ofTime_ofNumber (n : Number) :
    ofTime (ofNumber n) = ofOption (secondsOf? n) := by
  cases n with
  | int n =>
    simp only [ofNumber, ofTime, secondsOf?]
    split <;> rfl
  | real d => rfl

theorem readSeconds_of_digit {b : UInt8} {n : Number} (token : c.trim.rest.head? = some b)
    (digit : isDigit b = true) (number : readNumber false c.trim = .ok n after) :
    readSeconds c = .ok (secondsOf? n) after := by
  unfold readSeconds
  rw [peekToken_bind]
  generalize c.trim.rest.head? = first at token ⊢
  split
  case h_8 => exact bind_of_ok number
  all_goals
    cases token
    exact absurd digit (by decide)

theorem agrees_ofSeconds (spans : Spans depth c value after) :
    Agrees ofSeconds c (ofTime value) after := by
  cases spans with
  | null token rest | yes token rest | no token rest | text token rest =>
    refine .inl (ofSeconds_of_ok none ?_)
    unfold readSeconds
    rw [peekToken_bind, token]
    exact bind_of_ok rest
  | @negative _ _ _ n token number =>
    left
    rw [ofTime_ofNumber]
    refine ofSeconds_of_ok (secondsOf? n) ?_
    unfold readSeconds
    rw [peekToken_bind, token]
    exact bind_of_ok number
  | @number _ _ _ _ n token digit number =>
    left
    rw [ofTime_ofNumber]
    exact ofSeconds_of_ok (secondsOf? n) (readSeconds_of_digit token digit number)
  | @list _ _ mid _ values token inside close =>
    have run : readSeconds c =
        enclosed (failData (.other "no point in time")) endList c.trim.advance := by
      rw [readSeconds, peekToken_bind, token]
      rfl
    -- An empty list is closed; of another one nothing is read behind its bracket.
    rcases Spans.inside_list inside close with closed | ⟨b, next, notComma, notClose, notBrace⟩
    · exact .inl (ofSeconds_of_error (run.trans (enclosed_of_closed rfl (endList_ok.mpr closed))))
    · right
      have open_ : endList c.trim.advance = failAhead .trailingCharacters c.trim.advance.trim := by
        rw [endList, peekToken_bind, next]
        simp only
      refine ⟨_, _, ofSeconds_of_error (run.trans (enclosed_of_open rfl open_)), ?_⟩
      simp [Stuck, next, notComma, notBrace]
  | object token inside close =>
    have run : readSeconds c =
        enclosed (failData (.other "no point in time")) endObject c.trim.advance := by
      rw [readSeconds, peekToken_bind, token]
      rfl
    rcases Spans.inside_object inside close with closed | quote
    · exact .inl (ofSeconds_of_error (run.trans (enclosed_of_closed rfl (endObject_ok.mpr closed))))
    · right
      have open_ :
          endObject c.trim.advance = failAhead .trailingCharacters c.trim.advance.trim := by
        rw [endObject, peekToken_bind, quote]
        rfl
      refine ⟨_, _, ofSeconds_of_error (run.trans (enclosed_of_open rfl open_)), ?_⟩
      simp [Stuck, quote]

/-! ### Texts and names -/

theorem ofOptional_of_null (r : Reader α) (token : c.trim.rest.head? = some 110)
    (rest : literal nullRest c.trim.advance = .ok () after) :
    ofOptional r c = .ok .absent after := by
  have none : optional r c = .ok none after := (optional_of_null r token).trans (bind_of_ok rest)
  unfold ofOptional
  rw [bind_of_ok (attempt_of_ok none)]
  rfl

theorem ofOptional_of_ok {r : Reader α} {a : α} (other : c.trim.rest.head? ≠ some 110)
    (h : r c.trim = .ok a after) : ofOptional r c = .ok (.given a) after := by
  have some : optional r c = .ok (some a) after :=
    (optional_of_other r other).trans (bind_of_ok h)
  unfold ofOptional
  rw [bind_of_ok (attempt_of_ok some)]
  rfl

theorem ofOptional_of_error {r : Reader α} {fault : Json.Fault}
    (other : c.trim.rest.head? ≠ some 110) (h : r c.trim = .error fault after) :
    ofOptional r c = .ok .unreadable after := by
  have failed : optional r c = .error fault after :=
    (optional_of_other r other).trans (bind_of_error h)
  unfold ofOptional
  rw [bind_of_ok (attempt_of_error failed)]
  rfl

theorem text_of_other {kind : Found} {b : UInt8} (token : c.trim.rest.head? = some b)
    (other : b ≠ 34) (found : found c.trim = .ok kind after) :
    ∃ fault, text c.trim = .error fault after := by
  have unexpected :
      ∃ fault, (unexpected "a string" : Reader String) c.trim = .error fault after := by
    unfold Reader.unexpected located
    rw [bind_of_ok found]
    exact ⟨_, rfl⟩
  unfold text
  rw [peekToken_bind, Cursor.trim_trim]
  generalize c.trim.rest.head? = first at token ⊢
  split
  · cases token
  · cases token
    exact absurd rfl other
  · exact unexpected

/-- What is found in place of a text is read to its end. -/
theorem ofOptional_text_of_other {kind : Found} {b : UInt8} (token : c.trim.rest.head? = some b)
    (notNull : b ≠ 110) (notText : b ≠ 34) (found : found c.trim = .ok kind after) :
    ofOptional text c = .ok .unreadable after := by
  obtain ⟨fault, failed⟩ := text_of_other token notText found
  exact ofOptional_of_error (by rw [token]; simpa using notNull) failed

theorem found_of_digit {b : UInt8} {n : Number} (token : c.rest.head? = some b)
    (digit : isDigit b = true) (number : readNumber false c = .ok n after) :
    found c = .ok (found.ofRead n) after := by
  unfold found
  rw [peek_bind]
  generalize c.rest.head? = first at token ⊢
  split
  case h_8 =>
    cases token
    rw [if_pos digit]
    exact bind_of_ok number
  case h_9 => cases token
  all_goals
    cases token
    exact absurd digit (by decide)

theorem agrees_text (spans : Spans depth c value after) :
    Agrees (ofOptional text) c (ofText value) after := by
  cases spans with
  | null token rest => exact .inl (ofOptional_of_null text token rest)
  | yes token rest =>
    have found : found c.trim = .ok (.bool true) after := by
      unfold found
      rw [peek_bind, token]
      exact bind_of_ok rest
    exact .inl (ofOptional_text_of_other token (by decide) (by decide) found)
  | no token rest =>
    have found : found c.trim = .ok (.bool false) after := by
      unfold found
      rw [peek_bind, token]
      exact bind_of_ok rest
    exact .inl (ofOptional_text_of_other token (by decide) (by decide) found)
  | text token string =>
    refine .inl (ofOptional_of_ok (by rw [token]; decide) ?_)
    unfold text
    rw [peekToken_bind, Cursor.trim_trim, token]
    exact located_ok.mpr string
  | @negative _ _ _ n token number =>
    have unreadable : ofText (ofNumber n) = .unreadable := by cases n <;> rfl
    have found : found c.trim = .ok (found.ofRead n) after := by
      unfold found
      rw [peek_bind, token]
      exact bind_of_ok number
    rw [unreadable]
    exact .inl (ofOptional_text_of_other token (by decide) (by decide) found)
  | @number _ _ _ _ n token digit number =>
    have unreadable : ofText (ofNumber n) = .unreadable := by cases n <;> rfl
    rw [unreadable]
    refine .inl (ofOptional_text_of_other token ?_ ?_ (found_of_digit token digit number))
    · rintro rfl
      exact absurd digit (by decide)
    · rintro rfl
      exact absurd digit (by decide)
  | list token inside close =>
    have found : found c.trim = .ok .list c.trim := by
      unfold found
      rw [peek_bind, token]
      rfl
    exact .inr ⟨_, c.trim, ofOptional_text_of_other token (by decide) (by decide) found,
      by simp [Stuck, token]⟩
  | object token inside close =>
    have found : found c.trim = .ok .object c.trim := by
      unfold found
      rw [peek_bind, token]
      rfl
    exact .inr ⟨_, c.trim, ofOptional_text_of_other token (by decide) (by decide) found,
      by simp [Stuck, token]⟩

theorem ofOptional_readNames_of_other (other : c.trim.rest.head? ≠ some 110)
    (h : readValue (maxDepth - 1) c = .ok value after) :
    ofOptional readNames c = .ok (ofOption (namesIn? value)) after := by
  have trimmed : readValue (maxDepth - 1) c.trim = .ok value after := by rwa [readValue_trim]
  rcases names : namesIn? value with _ | found
  · have failed : readNames c.trim = failData (.noVariantMatches "Names") after := by
      unfold readNames
      rw [bind_of_ok trimmed, names]
    exact ofOptional_of_error other failed
  · have read : readNames c.trim = .ok found after := by
      unfold readNames
      rw [bind_of_ok trimmed, names]
      rfl
    exact ofOptional_of_ok other read

/-- Names are read from a value of any kind. -/
theorem agrees_names (h : readValue (maxDepth - 1) c = .ok value after) :
    Agrees (ofOptional readNames) c (ofNames value) after := by
  cases spans_of_read h with
  | null token rest => exact .inl (ofOptional_of_null readNames token rest)
  | yes token | no token | text token | list token | object token =>
    exact .inl (ofOptional_readNames_of_other (by rw [token]; decide) h)
  | @negative _ _ _ n token =>
    have read := ofOptional_readNames_of_other (by rw [token]; decide) h
    cases n <;> exact .inl read
  | @number _ _ _ b n token digit =>
    have notNull : c.trim.rest.head? ≠ some 110 := by
      rw [token]
      rintro same
      cases same
      exact absurd digit (by decide)
    have read := ofOptional_readNames_of_other notNull h
    cases n <;> exact .inl read

end Jwt.Claim

namespace Jwt.Claims

variable {c mid after last : Cursor}

/-- The claims of a payload. -/
def ofPayload (payload : Json) : Claims where
  expiry := ((payload.get? "exp").map Claim.ofTime).getD .absent
  notBefore := ((payload.get? "nbf").map Claim.ofTime).getD .absent
  subject := ((payload.get? "sub").map Claim.ofText).getD .absent
  issuers := ((payload.get? "iss").map Claim.ofNames).getD .absent
  audiences := ((payload.get? "aud").map Claim.ofNames).getD .absent

/-- The claims that were read are the ones of the members that were read. -/
def Follows (draft : Draft) (pairs : List (String × Json)) : Prop :=
  draft.claims = ofPayload (.obj pairs)

theorem name_field (name : String) (optional : Bool) (read : Reader (Claims → Claims)) :
    (field name optional read).name = name := rfl

theorem field_known {name : String} {optional : Bool} {read : Reader α}
    {put : α → Claims → Claims} {value : Json} {a : α} {set : Draft → Draft}
    (agrees : Agrees read c a after)
    (kept : ∀ pairs, put a (ofPayload (.obj pairs)) = ofPayload (.obj (Json.put name value pairs)))
    (h : (field name optional (do let a ← read; return put a)).read c = .ok set last) :
    Stuck last ∨ last = after ∧ ∀ draft pairs, Follows draft pairs →
      Follows (set draft) (Json.put name value pairs) := by
  have whole := (agrees.map put).map fun set (d : Draft) => (⟨set d.claims, name :: d.seen⟩ : Draft)
  rcases whole.of_ok h with stuck | ⟨same, rfl⟩
  · exact .inl stuck
  · refine .inr ⟨same, fun draft pairs follows => ?_⟩
    unfold Follows at follows ⊢
    rw [← kept, ← follows]

theorem fields_known {value : Json} {set : Draft → Draft} :
    ∀ field ∈ fields, readValue (maxDepth - 1) c = .ok value after →
      field.read c = .ok set last → Stuck last ∨ last = after ∧ ∀ draft pairs,
        Follows draft pairs → Follows (set draft) (Json.put field.name value pairs) := by
  intro field member read h
  have spans := spans_of_read read
  simp only [fields, List.mem_cons, List.not_mem_nil, or_false] at member
  rcases member with rfl | rfl | rfl | rfl | rfl
  · refine field_known (Claim.agrees_ofSeconds spans) (fun pairs => ?_) h
    simp [ofPayload, get?_put_of_ne, name_field]
  · refine field_known (Claim.agrees_ofSeconds spans) (fun pairs => ?_) h
    simp [ofPayload, get?_put_of_ne, name_field]
  · refine field_known (Claim.agrees_text spans) (fun pairs => ?_) h
    simp [ofPayload, get?_put_of_ne, name_field]
  · refine field_known (Claim.agrees_names read) (fun pairs => ?_) h
    simp [ofPayload, get?_put_of_ne, name_field]
  · refine field_known (Claim.agrees_names read) (fun pairs => ?_) h
    simp [ofPayload, get?_put_of_ne, name_field]

theorem fields_unknown {key : String} (unknown : ∀ field ∈ fields, field.name ≠ key) (value : Json)
    (draft : Draft) (pairs : List (String × Json)) (follows : Follows draft pairs) :
    Follows draft (Json.put key value pairs) := by
  simp only [fields, field, List.forall_mem_cons, List.not_mem_nil, false_imp_iff, implies_true,
    and_true] at unknown
  obtain ⟨exp, nbf, sub, iss, aud⟩ := unknown
  unfold Follows at follows ⊢
  rw [follows]
  simp [ofPayload, get?_put_of_ne, exp, nbf, sub, iss, aud]

/-- The claims that are checked are the ones of the payload. -/
theorem ofBytes_eq {bytes : List UInt8} {pairs : List (String × Json)} {claims : Claims}
    (payload : valueOf bytes = .ok (.obj pairs)) (read : ofBytes bytes = .ok claims) :
    claims = ofPayload (.obj pairs) := by
  obtain ⟨_, value⟩ := run_ok (mapError_eq_ok.mp payload)
  obtain ⟨_, whole⟩ := run_ok (mapError_eq_ok.mp read)
  obtain ⟨draft, _, record, same⟩ := bind_ok.mp whole
  obtain ⟨rfl, -⟩ := pure_ok.mp same
  obtain ⟨inner, _, depth_eq, token, inside, -⟩ := (spans_of_read value).of_object
  obtain rfl : inner = maxDepth - 1 := by omega
  unfold Reader.record at record
  rw [peekToken_bind, token] at record
  simp only [skip_bind, left_bind, located_ok, enclosed_ok, bind_ok] at record
  obtain ⟨end_, ⟨draft', _, record, filled⟩, closed⟩ := record
  rw [fillMissing_eq (by simp [fields, field]), pure_ok] at filled
  obtain ⟨rfl, rfl⟩ := filled
  have start : Follows {} [] := rfl
  exact fieldsByName_agrees (fun field member => fields_known field member)
    (fun key unknown => fields_unknown unknown) start inside record closed

end Jwt.Claims

end BearerLogin
