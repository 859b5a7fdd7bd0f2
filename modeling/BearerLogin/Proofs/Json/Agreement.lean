import BearerLogin.Proofs.Json.Skipping

/-! Readers that go different ways through the same text.  A value is read as it is; a record is
read field by field, passes over members that it does not know and may give a value up before its
end.  Both stay at the same place, member by member, or the record does not come to an end:
`fieldsByName_agrees`. -/

namespace BearerLogin.Json

variable {key other : String} {value : Json} {pairs : List (String × Json)}

@[simp] theorem get?_put : get? key (.obj (put key value pairs)) = some value := by
  induction pairs with
  | nil => simp [put, get?]
  | cons member rest ih =>
    obtain ⟨name, old⟩ := member
    unfold put
    by_cases same : name = key
    · simp [same, get?]
    · simp only [same, if_false]
      simpa [get?, same] using ih

theorem get?_put_of_ne (ne : other ≠ key) :
    get? other (.obj (put key value pairs)) = get? other (.obj pairs) := by
  induction pairs with
  | nil => simp [put, get?, Ne.symm ne]
  | cons member rest ih =>
    obtain ⟨name, old⟩ := member
    unfold put
    by_cases same : name = key
    · simp [same, get?, Ne.symm ne]
    · simp only [same, if_false]
      by_cases found : name = other
      · simp [get?, found]
      · simpa [get?, found] using ih

namespace Reader

variable {c mid after last : Cursor}

/-- Nothing that may stand behind a member of an object comes next. -/
def Stuck (c : Cursor) : Prop :=
  c.trim.rest.head? ≠ some 44 ∧ c.trim.rest.head? ≠ some 125

theorem Stuck.not_hasKey {more : Bool} (stuck : Stuck c) : hasKey false c ≠ .ok more after := by
  intro h
  cases hasKey_ok h with
  | close token => exact stuck.2 token
  | comma token => exact stuck.1 token

theorem Stuck.not_endObject (stuck : Stuck c) : endObject c ≠ .ok () after := by
  intro h
  exact stuck.2 (endObject_ok.mp h).1

/-- A reader gives a value behind the same byte as another one, or it stops where nothing that is
read afterwards can begin. -/
def Agrees (r : Reader α) (c : Cursor) (a : α) (after : Cursor) : Prop :=
  r c = .ok a after ∨ ∃ b last, r c = .ok b last ∧ Stuck last

theorem Agrees.of_ok {r : Reader α} {a b : α} (agrees : Agrees r c a after)
    (h : r c = .ok b last) : Stuck last ∨ last = after ∧ b = a := by
  rcases agrees with same | ⟨_, _, other, stuck⟩
  · obtain ⟨rfl, rfl⟩ := ok_unique h same
    exact .inr ⟨rfl, rfl⟩
  · obtain ⟨-, rfl⟩ := ok_unique h other
    exact .inl stuck

theorem Agrees.map {r : Reader α} {a : α} (f : α → β) (agrees : Agrees r c a after) :
    Agrees (do let a ← r; return f a) c (f a) after := by
  rcases agrees with h | ⟨b, last, h, stuck⟩
  · exact .inl (bind_of_ok h)
  · exact .inr ⟨f b, last, bind_of_ok h, stuck⟩

theorem Stuck.not_fieldsByName {fields : List (Field σ)} {draft read : σ} {fuel : Nat}
    (stuck : Stuck c) (record : fieldsByName fields false draft fuel c = .ok read mid) :
    endObject mid ≠ .ok () after := by
  cases fuel with
  | zero =>
    obtain ⟨-, rfl⟩ := pure_ok.mp record
    exact stuck.not_endObject
  | succ fuel =>
    rw [fieldsByName] at record
    obtain ⟨more, next, hasKey, -⟩ := bind_ok.mp record
    exact absurd hasKey stuck.not_hasKey

/-- A reader of a record that comes to an end has gone through the same members as the reader of the
object, so what relates a draft to the members that were read is kept. -/
theorem fieldsByName_agrees {fields : List (Field σ)} {related : σ → List (String × Json) → Prop}
    {depth : Nat}
    (known : ∀ field ∈ fields, ∀ {c after last value set}, readValue depth c = .ok value after →
      field.read c = .ok set last → Stuck last ∨ last = after ∧
        ∀ draft pairs, related draft pairs → related (set draft) (put field.name value pairs))
    (unknown : ∀ key, (∀ field ∈ fields, field.name ≠ key) → ∀ value draft pairs,
      related draft pairs → related draft (put key value pairs))
    {first : Bool} {taken pairs : List (String × Json)} {draft read : σ} {fuel : Nat}
    {end_ : Cursor} (start : related draft taken)
    (object : members (readValue depth) first taken fuel c = .ok pairs mid)
    (record : fieldsByName fields first draft fuel c = .ok read end_)
    (close : endObject end_ = .ok () after) : related read pairs := by
  induction fuel generalizing c first taken draft with
  | zero =>
    obtain ⟨rfl, -⟩ := pure_ok.mp object
    obtain ⟨rfl, -⟩ := pure_ok.mp record
    exact start
  | succ fuel ih =>
    rw [members] at object
    rw [fieldsByName] at record
    obtain ⟨more, next, hasKey, object⟩ := bind_ok.mp object
    obtain ⟨_, _, hasKey', record⟩ := bind_ok.mp record
    obtain ⟨rfl, rfl⟩ := ok_unique hasKey hasKey'
    cases more with
    | false =>
      obtain ⟨rfl, -⟩ := pure_ok.mp object
      obtain ⟨rfl, -⟩ := pure_ok.mp record
      exact start
    | true =>
      simp only [if_true, bind_ok] at object record
      obtain ⟨key, colon, readKey, _, behind, readColon, value, rest, readValue, object⟩ := object
      obtain ⟨_, _, readKey', record⟩ := record
      obtain ⟨rfl, rfl⟩ := ok_unique readKey readKey'
      -- Both readers have read the same key; their ways part at the value.
      rcases found : fields.find? (fun f => f.name == key) with _ | field
      · simp only [found, bind_ok, within_ok] at record
        obtain ⟨_, _, ⟨_, _, readColon', skipValue⟩, record⟩ := record
        obtain ⟨-, rfl⟩ := ok_unique readColon readColon'
        obtain ⟨-, rfl⟩ := ok_unique (skipValue_of_read readValue) skipValue
        have named : ∀ field ∈ fields, field.name ≠ key := by
          simpa using List.find?_eq_none.mp found
        exact ih (unknown key named value draft taken start) object record
      · simp only [found] at record
        split at record
        · simp at record
        · simp only [bind_ok, within_ok] at record
          obtain ⟨set, last, ⟨_, _, readColon', fieldRead⟩, record⟩ := record
          obtain ⟨-, rfl⟩ := ok_unique readColon readColon'
          have name_eq : field.name = key := by simpa using List.find?_some found
          rcases known field (List.mem_of_find?_eq_some found) readValue fieldRead with
            stuck | ⟨rfl, kept⟩
          · exact absurd close (stuck.not_fieldsByName record)
          · rw [name_eq] at kept
            exact ih (kept draft taken start) object record

end BearerLogin.Json.Reader
