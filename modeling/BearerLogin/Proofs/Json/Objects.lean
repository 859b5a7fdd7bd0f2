import BearerLogin.Proofs.Json.Skipping

/-! The members of an object by their places.  A place is the cursor where the value of a member
begins, so that a member is the same for everything that reads it.  A record reads the members that
it knows at their places, and passes over the others: it can be read exactly if these can be
(`record_of_readable`, `readable_of_record`). -/

namespace BearerLogin.Json.Reader

variable {c mid after last : Cursor}

def here : Reader Cursor := fun c => .ok c c

@[simp] theorem here_bind (f : Cursor → Reader α) : (here >>= f) c = f c c := rfl

/-- Passes over the members that are left of an object and notes each key with the place of its
value. -/
def places (first : Bool) : Nat → Reader (List (String × Cursor))
  | 0 => return []
  | fuel + 1 => do
    if ← hasKey first then
      let key ← readKey
      readColon
      let place ← here
      skipValue
      return (key, place) :: (← places false fuel)
    else return []

/-- The members of an object, each with the place of its value. -/
def memberPlaces : Reader (List (String × Cursor)) := do
  match ← peekToken with
  | some 123 =>
    skip
    let fuel ← left
    enclosed (places true (fuel + 1)) endObject
  | _ => failAhead .expectedValue

/-- What is found at a place is a value without parts. -/
def Holds (place : Cursor) (value : Json) : Prop :=
  ∃ after, readValue 0 place = .ok value after

/-- A member of an object comes next: its key, the place of its value, and where it ends. -/
inductive MemberNext (first : Bool) (c : Cursor) : String → Cursor → Cursor → Prop
  | member (more colon : Cursor) {place behind : Cursor} {key : String}
      (hasKey : hasKey first c = .ok true more) (readKey : readKey more = .ok key colon)
      (readColon : readColon colon = .ok () place) (skipped : skipValue place = .ok () behind) :
      MemberNext first c key place behind

theorem MemberNext.skipped {first : Bool} {key : String} {place behind : Cursor}
    (next : MemberNext first c key place behind) : skipValue place = .ok () behind := by
  obtain ⟨_, _, -, -, -, skipped⟩ := next
  exact skipped

theorem places_succ {first : Bool} {members : List (String × Cursor)} {fuel : Nat}
    (read : places first (fuel + 1) c = .ok members last) :
    (hasKey first c = .ok false last ∧ members = []) ∨
      ∃ key place behind rest, MemberNext first c key place behind ∧
        places false fuel behind = .ok rest last ∧ members = (key, place) :: rest := by
  rw [places] at read
  obtain ⟨more, next, hasKey, read⟩ := bind_ok.mp read
  cases more with
  | false =>
    obtain ⟨rfl, rfl⟩ := pure_ok.mp read
    exact .inl ⟨hasKey, rfl⟩
  | true =>
    simp only [if_true, bind_ok, here_bind, pure_ok] at read
    obtain ⟨key, colon, readKey, _, place, readColon, _, behind, skipped, rest, _, others, rfl,
      rfl⟩ := read
    have member : MemberNext first c key place behind :=
      ⟨_, _, hasKey, readKey, readColon, skipped⟩
    exact .inr ⟨key, place, behind, rest, member, others, rfl⟩

theorem memberPlaces_ok {members : List (String × Cursor)} :
    memberPlaces c = .ok members after ↔
      c.trim.rest.head? = some 123 ∧ ∃ mid,
        places true (c.trim.advance.rest.length + 1) c.trim.advance = .ok members mid ∧
          endObject mid = .ok () after := by
  unfold memberPlaces
  rw [peekToken_bind]
  generalize c.trim.rest.head? = token
  constructor
  · intro read
    split at read
    · simp only [skip_bind, left_bind, enclosed_ok] at read
      exact ⟨rfl, read⟩
    · simp at read
  · rintro ⟨rfl, read⟩
    simp only [skip_bind, left_bind, enclosed_ok]
    exact read

/-! ### Objects that are values -/

/-- A member stands at a place, as it is read there. -/
def StandsAt (value : Reader Json) (found : String × Cursor) (member : String × Json) : Prop :=
  found.1 = member.1 ∧ ∃ behind, value found.2 = .ok member.2 behind

/-- The members of an object in the order in which they are written, and where. -/
theorem places_of_members {value : Reader Json} {first : Bool} {taken pairs : List (String × Json)}
    {fuel : Nat} (passed : ∀ {c v after}, value c = .ok v after → skipValue c = .ok () after)
    (object : members value first taken fuel c = .ok pairs mid) :
    ∃ list written, places first fuel c = .ok list mid ∧
      List.Forall₂ (StandsAt value) list written ∧
      pairs = written.foldl (fun pairs member => put member.1 member.2 pairs) taken := by
  induction fuel generalizing c first taken with
  | zero =>
    obtain ⟨rfl, rfl⟩ := pure_ok.mp object
    exact ⟨[], [], rfl, .nil, rfl⟩
  | succ fuel ih =>
    rw [members] at object
    obtain ⟨more, next, hasKey, object⟩ := bind_ok.mp object
    rw [places, bind_of_ok hasKey]
    cases more with
    | false =>
      obtain ⟨rfl, rfl⟩ := pure_ok.mp object
      exact ⟨[], [], rfl, .nil, rfl⟩
    | true =>
      simp only [if_true, bind_ok] at object
      obtain ⟨key, colon, readKey, _, place, readColon, v, behind, read, object⟩ := object
      obtain ⟨list, written, others, found, same⟩ := ih object
      refine ⟨(key, place) :: list, (key, v) :: written, ?_, .cons ⟨rfl, behind, read⟩ found, same⟩
      simp only [if_true, bind_of_ok readKey, bind_of_ok readColon, here_bind,
        bind_of_ok (passed read), bind_of_ok others]
      rfl

/-- What is read as a value and is an object has its members at their places. -/
theorem memberPlaces_of_readValue {depth : Nat} {pairs : List (String × Json)}
    (read : readValue depth c = .ok (.obj pairs) after) :
    ∃ list written, memberPlaces c = .ok list after ∧
      List.Forall₂ (StandsAt (readValue (depth - 1))) list written ∧
      pairs = written.foldl (fun pairs member => put member.1 member.2 pairs) [] := by
  obtain ⟨inner, mid, rfl, token, inside, close⟩ := (spans_of_read read).of_object
  obtain ⟨list, written, found, each, same⟩ := places_of_members skipValue_of_read inside
  exact ⟨list, written, memberPlaces_ok.mpr ⟨token, mid, found, close⟩, each, same⟩

/-! ### Values without parts -/

theorem unexpected_ok {expected : String} {a : α} :
    (unexpected expected : Reader α) c = .ok a after ↔ False := by
  simp [unexpected]

theorem text_ok {depth : Nat} {s : String} :
    text c = .ok s after ↔ readValue depth c = .ok (.str s) after := by
  rw [readValue_str]
  unfold text
  rw [peekToken_bind]
  generalize c.trim.rest.head? = token
  constructor
  · intro read
    split at read
    · simp at read
    · exact ⟨rfl, located_ok.mp read⟩
    · exact absurd read unexpected_ok.mp
  · rintro ⟨rfl, read⟩
    exact located_ok.mpr read

/-- What is made of a number where a natural number is wanted. -/
def naturalOf : Number → Reader Nat
  | .int n =>
    if 0 ≤ n then return n.toNat
    else failData (.other s!"invalid value: integer `{n}`, expected u64")
  | .real d => failData (.invalidType (.real d) "u64")

theorem naturalOf_ok {number : Number} {n : Nat} :
    naturalOf number c = .ok n after ↔ number = .int n ∧ c = after := by
  unfold naturalOf
  cases number with
  | int m =>
    by_cases natural : 0 ≤ m
    · simp only [natural, if_true, pure_ok, Number.int.injEq]
      refine and_congr_left fun _ => ?_
      omega
    · simp only [natural, if_false, failData_ok, Number.int.injEq, false_iff]
      rintro ⟨same, -⟩
      omega
  | real d => simp

theorem readNumber_naturalOf {negative : Bool} {n : Nat} :
    (readNumber negative >>= naturalOf) c = .ok n after ↔
      readNumber negative c = .ok (.int n) after := by
  simp only [bind_ok, naturalOf_ok]
  constructor
  · rintro ⟨_, _, read, rfl, rfl⟩
    exact read
  · intro read
    exact ⟨_, _, read, rfl, rfl⟩

theorem natural_ok {depth n : Nat} :
    natural c = .ok n after ↔ readValue depth c = .ok (.int n) after := by
  rw [readValue_int]
  unfold natural
  beta_reduce
  rw [peekToken_bind]
  generalize c.trim.rest.head? = token
  constructor
  · intro read
    split at read
    · simp at read
    · exact .inl ⟨rfl, readNumber_naturalOf.mp (located_ok.mp read)⟩
    · next b _ =>
      split at read
      · next digit => exact .inr ⟨b, rfl, digit, readNumber_naturalOf.mp (located_ok.mp read)⟩
      · exact absurd read unexpected_ok.mp
  · rintro (⟨rfl, read⟩ | ⟨b, first, digit, read⟩)
    · exact located_ok.mpr (readNumber_naturalOf.mpr read)
    · split
      · cases first
      · cases first
        exact absurd digit (by decide)
      · cases first
        rw [if_pos digit]
        exact located_ok.mpr (readNumber_naturalOf.mpr read)

theorem optional_of_null (r : Reader α) (token : c.trim.rest.head? = some 110) :
    optional r c = (do literal nullRest; return none : Reader (Option α)) c.trim.advance := by
  unfold Reader.optional
  rw [peekToken_bind, token]
  rfl

theorem optional_of_other (r : Reader α) (other : c.trim.rest.head? ≠ some 110) :
    optional r c = (do return some (← r) : Reader (Option α)) c.trim := by
  unfold Reader.optional
  rw [peekToken_bind]
  generalize c.trim.rest.head? = first at other ⊢
  split
  · exact absurd rfl other
  · rfl

/-- Where a reader reads one kind of values, other than `null`, it reads these and `null`. -/
theorem optional_ok {r : Reader α} {kind : α → Json} {depth : Nat} {found : Option α}
    (reads : ∀ {c a after}, r c = .ok a after ↔ readValue depth c = .ok (kind a) after)
    (notNull : ∀ a, kind a ≠ .null) :
    optional r c = .ok found after ↔ readValue depth c = .ok (found.elim .null kind) after := by
  -- What begins with this letter is `null` for both readers.
  by_cases token : c.trim.rest.head? = some 110
  · have value : readValue depth c =
        (do literal nullRest; return .null : Reader Json) c.trim.advance := by
      unfold readValue
      rw [peekToken_bind, token]
      rfl
    rw [optional_of_null r token, value]
    cases found with
    | none => simp
    | some a => simp [(notNull a).symm]
  · rw [optional_of_other r token]
    cases found with
    | none => simp [readValue_null, token]
    | some a =>
      rw [Option.elim_some, ← readValue_trim, ← reads]
      simp

/-! ### Records -/

section

variable {fields : List (Field σ)} {members : List (String × Cursor)} {draft : σ}

/-- A record that notes the names of the fields that it has, that may lack every field, and whose
fields end where their values do. -/
structure Noting (fields : List (Field σ)) (seen : σ → List String) : Prop where
  isSet : ∀ field ∈ fields, ∀ draft, field.isSet draft = (seen draft).contains field.name
  noted : ∀ field ∈ fields, ∀ {c set after}, field.read c = .ok set after →
    ∀ draft, seen (set draft) = field.name :: seen draft
  optional : ∀ field ∈ fields, field.ifMissing = some id
  whole : ∀ field ∈ fields, ∀ {c set after}, field.read c = .ok set after →
    skipValue c = .ok () after

/-- The members that a record knows can be read at their places. -/
def Readable (fields : List (Field σ)) (members : List (String × Cursor)) : Prop :=
  ∀ member ∈ members, ∀ field, fields.find? (fun f => f.name == member.1) = some field →
    ∃ set after, field.read member.2 = .ok set after

/-- A draft with one more member. -/
def settle (fields : List (Field σ)) (draft : σ) (member : String × Cursor) : σ :=
  match fields.find? fun f => f.name == member.1 with
  | none => draft
  | some field =>
    match field.read member.2 with
    | .ok set _ => set draft
    | .error _ _ => draft

theorem fillMissing_eq (optional : ∀ field ∈ fields, field.ifMissing = some id) (draft : σ) :
    fillMissing fields draft = pure draft := by
  induction fields generalizing draft with
  | nil => rfl
  | cons field rest ih =>
    have rest_eq := ih (fun field member => optional field (List.mem_cons_of_mem _ member)) draft
    rw [fillMissing]
    split
    · exact rest_eq
    · rw [optional field List.mem_cons_self]
      exact rest_eq

theorem settle_of_unknown {key : String} {place : Cursor}
    (unknown : fields.find? (fun f => f.name == key) = none) :
    settle fields draft (key, place) = draft := by
  simp only [settle, unknown]

theorem settle_of_read {key : String} {place : Cursor} {field : Field σ} {set : σ → σ}
    (known : fields.find? (fun f => f.name == key) = some field)
    (read : field.read place = .ok set after) :
    settle fields draft (key, place) = set draft := by
  simp only [settle, known, read]

section

variable {first : Bool} {key : String} {place behind : Cursor} {field : Field σ} {set : σ → σ}
  {fuel : Nat}

theorem fieldsByName_unknown (next : MemberNext first c key place behind)
    (unknown : fields.find? (fun f => f.name == key) = none) :
    fieldsByName fields first draft (fuel + 1) c = fieldsByName fields false draft fuel behind := by
  obtain ⟨_, colon, hasKey, readKey, colonRead, skipped⟩ := next
  have passed : within key (do readColon; skipValue) colon = .ok () behind := by
    rw [within_ok, bind_of_ok colonRead, skipped]
  rw [fieldsByName, bind_of_ok hasKey]
  simp only [if_true, bind_of_ok readKey, unknown, bind_of_ok passed]

theorem fieldsByName_known (next : MemberNext first c key place behind)
    (known : fields.find? (fun f => f.name == key) = some field)
    (unset : field.isSet draft = false) (read : field.read place = .ok set after) :
    fieldsByName fields first draft (fuel + 1) c =
      fieldsByName fields false (set draft) fuel after := by
  obtain ⟨_, colon, hasKey, readKey, colonRead, -⟩ := next
  have taken : within key (do readColon; field.read) colon = .ok set after := by
    rw [within_ok, bind_of_ok colonRead, read]
  rw [fieldsByName, bind_of_ok hasKey]
  simp only [if_true, bind_of_ok readKey, known, unset, Bool.false_eq_true, if_false,
    bind_of_ok taken]

theorem read_of_fieldsByName {result : σ} (next : MemberNext first c key place behind)
    (known : fields.find? (fun f => f.name == key) = some field)
    (record : fieldsByName fields first draft (fuel + 1) c = .ok result mid) :
    ∃ set after, field.read place = .ok set after ∧
      fieldsByName fields false (set draft) fuel after = .ok result mid := by
  obtain ⟨_, _, hasKey, readKey, colonRead, -⟩ := next
  rw [fieldsByName, bind_of_ok hasKey] at record
  simp only [if_true, bind_of_ok readKey, known] at record
  split at record
  · simp at record
  · obtain ⟨set, after, taken, record⟩ := bind_ok.mp record
    rw [within_ok, bind_of_ok colonRead] at taken
    exact ⟨set, after, taken, record⟩

end

/-- Where the members that it knows can be read, a record goes through all members. -/
theorem fieldsByName_of_readable {seen : σ → List String} (noting : Noting fields seen)
    {first : Bool} {fuel : Nat} (object : places first fuel c = .ok members last)
    (once : (members.map Prod.fst).Nodup) (fresh : ∀ member ∈ members, member.1 ∉ seen draft)
    (readable : Readable fields members) :
    fieldsByName fields first draft fuel c = .ok (members.foldl (settle fields) draft) last := by
  -- The names that are noted stay apart from the keys of the members that are left.
  induction fuel generalizing c first draft members with
  | zero =>
    obtain ⟨rfl, rfl⟩ := pure_ok.mp object
    rfl
  | succ fuel ih =>
    rcases places_succ object with
      ⟨hasKey, rfl⟩ | ⟨key, place, behind, rest, next, others, rfl⟩
    · rw [fieldsByName, bind_of_ok hasKey]
      rfl
    · rw [List.map_cons, List.nodup_cons] at once
      obtain ⟨first_fresh, rest_fresh⟩ := List.forall_mem_cons.mp fresh
      obtain ⟨first_readable, rest_readable⟩ := List.forall_mem_cons.mp readable
      rw [List.foldl_cons]
      rcases found : fields.find? (fun f => f.name == key) with _ | field
      · rw [fieldsByName_unknown next found, settle_of_unknown found]
        exact ih others once.2 rest_fresh rest_readable
      · have member := List.mem_of_find?_eq_some found
        have name_eq : field.name = key := by simpa using List.find?_some found
        have unset : field.isSet draft = false := by
          rw [noting.isSet field member, name_eq, List.contains_eq_mem]
          exact decide_eq_false first_fresh
        obtain ⟨set, after, read⟩ := first_readable field found
        obtain ⟨-, rfl⟩ := ok_unique (noting.whole field member read) next.skipped
        rw [fieldsByName_known next found unset read, settle_of_read found read]
        refine ih others once.2 (fun other later => ?_) rest_readable
        rw [noting.noted field member read, name_eq, List.mem_cons, not_or]
        refine ⟨fun same => once.1 ?_, rest_fresh other later⟩
        exact List.mem_map.mpr ⟨other, later, same⟩

/-- A record that comes to an end has read the members that it knows. -/
theorem readable_of_fieldsByName {seen : σ → List String} (noting : Noting fields seen)
    {first : Bool} {fuel : Nat} {read : σ} (object : places first fuel c = .ok members last)
    (record : fieldsByName fields first draft fuel c = .ok read mid) : Readable fields members := by
  induction fuel generalizing c first draft members with
  | zero =>
    obtain ⟨rfl, rfl⟩ := pure_ok.mp object
    exact fun _ member => absurd member List.not_mem_nil
  | succ fuel ih =>
    rcases places_succ object with
      ⟨hasKey, rfl⟩ | ⟨key, place, behind, rest, next, others, rfl⟩
    · exact fun _ member => absurd member List.not_mem_nil
    · refine List.forall_mem_cons.mpr ⟨fun field known => ?_, ?_⟩
      · obtain ⟨set, after, taken, -⟩ := read_of_fieldsByName next known record
        exact ⟨set, after, taken⟩
      · rcases found : fields.find? (fun f => f.name == key) with _ | field
        · rw [fieldsByName_unknown next found] at record
          exact ih others record
        · obtain ⟨set, after, taken, record⟩ := read_of_fieldsByName next found record
          have member := List.mem_of_find?_eq_some found
          -- The field ends where the value does, so both readers go on behind the same byte.
          obtain ⟨-, rfl⟩ := ok_unique (noting.whole field member taken) next.skipped
          exact ih others record

/-- An object is read as a record exactly if the members that the record knows can be read. -/
theorem record_of_readable {seen : σ → List String} {name : String} (noting : Noting fields seen)
    (object : memberPlaces c = .ok members after) (once : (members.map Prod.fst).Nodup)
    (fresh : seen draft = []) (readable : Readable fields members) :
    record name fields draft c = .ok (members.foldl (settle fields) draft) after := by
  obtain ⟨token, mid, inside, close⟩ := memberPlaces_ok.mp object
  have unseen : ∀ member ∈ members, member.1 ∉ seen draft := by simp [fresh]
  have whole := fieldsByName_of_readable noting inside once unseen readable
  unfold record
  rw [peekToken_bind, token]
  simp only [skip_bind, left_bind, located_ok, enclosed_ok]
  refine ⟨mid, ?_, close⟩
  rw [bind_of_ok whole, fillMissing_eq noting.optional]
  rfl

theorem readable_of_record {seen : σ → List String} {name : String} {read : σ}
    (noting : Noting fields seen) (object : memberPlaces c = .ok members after)
    (record : record name fields draft c = .ok read last) : Readable fields members := by
  obtain ⟨token, mid, inside, close⟩ := memberPlaces_ok.mp object
  unfold Reader.record at record
  rw [peekToken_bind, token] at record
  simp only [skip_bind, left_bind, located_ok, enclosed_ok, bind_ok] at record
  obtain ⟨_, ⟨_, _, whole, -⟩, -⟩ := record
  exact readable_of_fieldsByName noting inside whole

end

end BearerLogin.Json.Reader
