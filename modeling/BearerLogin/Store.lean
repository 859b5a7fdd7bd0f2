import BearerLogin.Principal

/-! The credential store: for each name under which a client logged in, the principal of its last
login. -/

namespace BearerLogin

/-- The stored principals by name.  No name occurs twice. -/
structure Store where
  entries : List (String × Principal) := []
  distinct : (entries.map (·.1)).Nodup := by simp

namespace Store

/-- Puts a principal in front and takes out the one that stood under the name. -/
def replace (key : String) (principal : Principal) (entries : List (String × Principal)) :
    List (String × Principal) :=
  (key, principal) :: entries.filter (·.1 ≠ key)

theorem nodup_replace (key : String) (principal : Principal) {entries : List (String × Principal)}
    (h : (entries.map (·.1)).Nodup) : ((replace key principal entries).map (·.1)).Nodup := by
  simp only [replace, List.map_cons, List.nodup_cons, List.mem_map, List.mem_filter]
  refine ⟨by rintro ⟨entry, ⟨_, hne⟩, rfl⟩; simp at hne, ?_⟩
  exact (List.filter_sublist.map _).nodup h

/-- The store with nothing in it. -/
def empty : Store := {}

instance : Inhabited Store := ⟨empty⟩

/-- Stores a principal under a name. -/
def put (store : Store) (key : String) (principal : Principal) : Store :=
  ⟨replace key principal store.entries, nodup_replace key principal store.distinct⟩

/-- The principal stored under a name. -/
def get? (store : Store) (key : String) : Option Principal :=
  (store.entries.find? (·.1 == key)).map (·.2)

/-- The number of names. -/
def size (store : Store) : Nat :=
  store.entries.length

@[simp] theorem get?_empty (key : String) : empty.get? key = none := rfl

@[simp] theorem get?_put_self (store : Store) (key : String) (principal : Principal) :
    (store.put key principal).get? key = some principal := by
  simp [put, get?, replace]

theorem get?_put_of_ne (store : Store) {key other : String} (principal : Principal)
    (h : other ≠ key) : (store.put key principal).get? other = store.get? other := by
  have hf : (store.entries.filter (·.1 ≠ key)).find? (·.1 == other) =
      store.entries.find? (·.1 == other) := by
    rw [List.find?_filter]
    congr 1
    funext entry
    by_cases he : entry.1 = other
    · simp [he, h]
    · simp [he]
  unfold put get? replace
  rw [List.find?_cons_of_neg (by simpa using Ne.symm h), hf]

end Store

end BearerLogin
