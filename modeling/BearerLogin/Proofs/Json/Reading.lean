import BearerLogin.Json.Record
import Mathlib

/-! When a reader succeeds, with which value, and behind which bytes it leaves the cursor.  There is
one statement for each of the steps that readers are made of, so that a reader that succeeded can be
taken apart into its steps. -/

namespace BearerLogin.Json

namespace Cursor

/-- The cursor behind the spaces that come next. -/
def trim (c : Cursor) : Cursor :=
  c.skipSpaces c.rest

/-- The cursor behind the next `n` bytes. -/
def many (c : Cursor) : Nat → Cursor
  | 0 => c
  | n + 1 => c.advance.many n

/-- The cursor behind the digits that come next. -/
def pastDigits (c : Cursor) : Cursor :=
  c.many (Reader.digitRun c.rest)

@[simp] theorem rest_past (c : Cursor) (b : UInt8) (rest : List UInt8) :
    (c.past b rest).rest = rest := by
  unfold past
  split <;> rfl

theorem rest_advance (c : Cursor) : c.advance.rest = c.rest.tail := by
  unfold advance
  split
  · next h => simp [h]
  · next h => simp [h]

theorem rest_many (c : Cursor) (n : Nat) : (c.many n).rest = c.rest.drop n := by
  induction n generalizing c with
  | zero => rfl
  | succ n ih => simp [many, ih, rest_advance]

theorem many_add (c : Cursor) (m n : Nat) : c.many (m + n) = (c.many m).many n := by
  induction m generalizing c with
  | zero => simp [many]
  | succ m ih => rw [Nat.succ_add, many, many, ih]

theorem trim_of_space {c : Cursor} {b : UInt8} {rest : List UInt8} (h : c.rest = b :: rest)
    (space : isSpace b = true) : c.trim = (c.past b rest).trim := by
  rw [trim, h, skipSpaces, if_pos space, trim, rest_past]

theorem trim_of_not_space {c : Cursor} {b : UInt8} {rest : List UInt8} (h : c.rest = b :: rest)
    (visible : ¬isSpace b = true) : c.trim = c := by
  rw [trim, h, skipSpaces, if_neg visible]

theorem trim_of_nil {c : Cursor} (h : c.rest = []) : c.trim = c := by
  rw [trim, h, skipSpaces]

@[simp] theorem trim_trim (c : Cursor) : c.trim.trim = c.trim := by
  generalize rest_eq : c.rest = rest
  induction rest generalizing c with
  | nil => rw [trim_of_nil rest_eq, trim_of_nil rest_eq]
  | cons first rest ih =>
    by_cases space : isSpace first = true
    · rw [trim_of_space rest_eq space]
      exact ih _ (rest_past c first rest)
    · rw [trim_of_not_space rest_eq space, trim_of_not_space rest_eq space]

theorem length_trim_le (c : Cursor) : c.trim.rest.length ≤ c.rest.length := by
  generalize rest_eq : c.rest = rest
  induction rest generalizing c with
  | nil => simp [trim_of_nil rest_eq, rest_eq]
  | cons first rest ih =>
    by_cases space : isSpace first = true
    · rw [trim_of_space rest_eq space]
      exact Nat.le_succ_of_le (ih _ (rest_past c first rest))
    · simp [trim_of_not_space rest_eq space, rest_eq]

/-- Where a byte comes next, fewer bytes are left behind it. -/
theorem length_advance_lt {c : Cursor} {b : UInt8} (h : c.rest.head? = some b) :
    c.advance.rest.length < c.rest.length := by
  rcases rest_eq : c.rest with _ | ⟨_, _⟩
  · simp [rest_eq] at h
  · simp [rest_advance, rest_eq]

theorem length_advance_le (c : Cursor) : c.advance.rest.length ≤ c.rest.length := by
  simp [rest_advance]

end Cursor

namespace Reader

variable {c mid after : Cursor} {a : α}

@[simp] theorem bind_ok {r : Reader α} {f : α → Reader β} {b : β} :
    (r >>= f) c = .ok b after ↔ ∃ a mid, r c = .ok a mid ∧ f a mid = .ok b after := by
  show EStateM.bind r f c = _ ↔ _
  unfold EStateM.bind
  rcases r c with ⟨a, mid⟩ | ⟨fault, mid⟩
  · constructor
    · intro h
      exact ⟨a, mid, rfl, h⟩
    · rintro ⟨_, _, h, hf⟩
      cases h
      exact hf
  · constructor
    · intro h
      cases h
    · rintro ⟨_, _, h, -⟩
      cases h

theorem bind_of_ok {r : Reader α} {f : α → Reader β} {mid : Cursor} (h : r c = .ok a mid) :
    (r >>= f) c = f a mid := by
  show EStateM.bind r f c = _
  rw [EStateM.bind, h]

theorem bind_of_error {r : Reader α} {f : α → Reader β} {fault : Fault} {mid : Cursor}
    (h : r c = .error fault mid) : (r >>= f) c = .error fault mid := by
  show EStateM.bind r f c = _
  rw [EStateM.bind, h]

theorem ok_unique {r : Reader α} {a b : α} (first : r c = .ok a mid) (second : r c = .ok b after) :
    a = b ∧ mid = after := by
  rw [first] at second
  cases second
  exact ⟨rfl, rfl⟩

theorem attempt_of_ok {r : Reader α} (h : r c = .ok a after) :
    attempt r c = .ok (some a) after := by
  rw [attempt, h]

theorem attempt_of_error {r : Reader α} {fault : Fault} (h : r c = .error fault after) :
    attempt r c = .ok none after := by
  rw [attempt, h]

@[simp] theorem pure_ok {b : α} : (pure a : Reader α) c = .ok b after ↔ a = b ∧ c = after := by
  show EStateM.pure a c = _ ↔ _
  simp [EStateM.pure]

@[simp] theorem map_ok {r : Reader α} {f : α → β} {b : β} :
    (f <$> r) c = .ok b after ↔ ∃ a, r c = .ok a after ∧ f a = b := by
  show EStateM.map f r c = _ ↔ _
  unfold EStateM.map
  rcases r c with ⟨a, mid⟩ | ⟨fault, mid⟩
  · constructor
    · intro h
      cases h
      exact ⟨a, rfl, rfl⟩
    · rintro ⟨_, h, rfl⟩
      cases h
      rfl
  · simp

@[simp] theorem failHere_ok {fault : SyntaxFault} :
    (failHere fault : Reader α) c = .ok a after ↔ False := by
  simp [failHere]

@[simp] theorem failAhead_ok {fault : SyntaxFault} :
    (failAhead fault : Reader α) c = .ok a after ↔ False := by
  simp [failAhead]

@[simp] theorem failData_ok {fault : DataFault} :
    (failData fault : Reader α) c = .ok a after ↔ False := by
  simp [failData]

@[simp] theorem skip_ok {u : Unit} : skip c = .ok u after ↔ c.advance = after := by
  simp [skip]

@[simp] theorem located_ok {r : Reader α} : located r c = .ok a after ↔ r c = .ok a after := by
  unfold located
  rcases r c with ⟨a, mid⟩ | ⟨fault, mid⟩ <;> simp

@[simp] theorem within_ok {path : String} {r : Reader α} :
    within path r c = .ok a after ↔ r c = .ok a after := by
  unfold within
  rcases r c with ⟨a, mid⟩ | ⟨fault, mid⟩ <;> simp

@[simp] theorem enclosed_ok {inside : Reader α} {close : Reader Unit} :
    enclosed inside close c = .ok a after ↔
      ∃ mid, inside c = .ok a mid ∧ close mid = .ok () after := by
  unfold enclosed
  rcases inside c with ⟨a, mid⟩ | ⟨fault, mid⟩
  · constructor
    · intro h
      rcases closed : close mid with ⟨_, last⟩ | ⟨fault, last⟩
      · simp only [closed, EStateM.Result.ok.injEq] at h
        obtain ⟨rfl, rfl⟩ := h
        exact ⟨mid, rfl, closed⟩
      · simp [closed] at h
    · rintro ⟨_, h, closed⟩
      cases h
      simp [closed]
  · rcases closed : close mid with ⟨_, last⟩ | ⟨fault, last⟩ <;> simp [closed]

/-- A fault inside brackets that are closed at once. -/
theorem enclosed_of_closed {fault : Fault} {inside : Reader α} {close : Reader Unit}
    (h : inside c = .error fault c) (closed : close c = .ok () after) :
    enclosed inside close c = .error fault after := by
  rw [enclosed, h]
  simp only [closed]

theorem enclosed_of_open {fault found : Fault} {inside : Reader α} {close : Reader Unit}
    (h : inside c = .error fault c) (open_ : close c = .error found after) :
    enclosed inside close c = .error fault after := by
  rw [enclosed, h]
  simp only [open_]

/-- A whole text is read from its front, and only spaces are left behind what is read. -/
theorem run_eq_ok {r : Reader α} {bytes : List UInt8} :
    run r bytes = .ok a ↔
      ∃ mid after, r { rest := bytes } = .ok a mid ∧ expectEnd mid = .ok () after := by
  have whole {b : α} {last : Cursor} :
      (do let a ← r; expectEnd; return a : Reader α) { rest := bytes } = .ok b last ↔
        ∃ mid, r { rest := bytes } = .ok b mid ∧ expectEnd mid = .ok () last := by
    constructor
    · intro read
      obtain ⟨b, mid, first, rest⟩ := bind_ok.mp read
      obtain ⟨_, _, ended, same⟩ := bind_ok.mp rest
      obtain ⟨rfl, rfl⟩ := pure_ok.mp same
      exact ⟨mid, first, ended⟩
    · rintro ⟨mid, first, ended⟩
      rw [bind_of_ok first, bind_of_ok ended]
      rfl
  unfold run
  rcases read : (do let a ← r; expectEnd; return a : Reader α) { rest := bytes }
    with ⟨b, after⟩ | ⟨fault, after⟩
  · simp only [Except.ok.injEq]
    constructor
    · rintro rfl
      obtain ⟨mid, first, ended⟩ := whole.mp read
      exact ⟨mid, after, first, ended⟩
    · rintro ⟨mid, last, first, ended⟩
      exact (ok_unique read (whole.mpr ⟨mid, first, ended⟩)).1
  · simp only [reduceCtorEq, false_iff]
    rintro ⟨mid, last, first, ended⟩
    rw [whole.mpr ⟨mid, first, ended⟩] at read
    cases read

theorem run_ok {r : Reader α} {bytes : List UInt8} (h : run r bytes = .ok a) :
    ∃ after, r { rest := bytes } = .ok a after := by
  obtain ⟨mid, -, first, -⟩ := run_eq_ok.mp h
  exact ⟨mid, first⟩

/-! ### Steps that always succeed -/

section

variable (f : Option UInt8 → Reader α)

@[simp] theorem peek_bind : (peek >>= f) c = f c.rest.head? c := rfl

@[simp] theorem next_bind : (next >>= f) c = f c.rest.head? c.advance := rfl

@[simp] theorem peekToken_bind : (peekToken >>= f) c = f c.trim.rest.head? c.trim := rfl

end

@[simp] theorem skip_bind (f : Unit → Reader α) : (skip >>= f) c = f () c.advance := rfl

@[simp] theorem left_bind (f : Nat → Reader α) : (left >>= f) c = f c.rest.length c := rfl

@[simp] theorem look_bind (look : Cursor → β) (f : β → Reader α) :
    ((fun c => .ok (look c) c : Reader β) >>= f) c = f (look c) c := rfl

@[simp] theorem skipMany_bind (n : Nat) (f : Unit → Reader α) :
    (skipMany n >>= f) c = f () (c.many n) := by
  induction n generalizing c with
  | zero => rfl
  | succ n ih => exact ih

theorem skipDigits_run (c : Cursor) : skipDigits c = .ok (digitRun c.rest) c.pastDigits :=
  skipMany_bind (digitRun c.rest) fun _ => pure (digitRun c.rest)

@[simp] theorem skipDigits_bind (f : Nat → Reader α) :
    (skipDigits >>= f) c = f (digitRun c.rest) c.pastDigits := by
  exact bind_of_ok (skipDigits_run c)

/-! ### Readers that only move forward -/

/-- A reader leaves at most the bytes that were left before. -/
def Forward (r : Reader α) : Prop :=
  ∀ ⦃c a after⦄, r c = .ok a after → after.rest.length ≤ c.rest.length

namespace Forward

variable {r : Reader α}

theorem bind {f : α → Reader β} (hr : Forward r) (hf : ∀ a, Forward (f a)) : Forward (r >>= f) := by
  intro c b after h
  obtain ⟨a, mid, first, second⟩ := bind_ok.mp h
  exact Nat.le_trans (hf a second) (hr first)

theorem pure (a : α) : Forward (pure a) := by
  intro c b after h
  obtain ⟨-, rfl⟩ := pure_ok.mp h
  exact Nat.le_refl _

theorem failHere (fault : SyntaxFault) : Forward (Reader.failHere fault : Reader α) := by
  intro c a after h
  simp at h

theorem failAhead (fault : SyntaxFault) : Forward (Reader.failAhead fault : Reader α) := by
  intro c a after h
  simp at h

theorem peek : Forward peek := by
  intro c a after h
  cases h
  exact Nat.le_refl _

theorem skip : Forward skip := by
  intro c a after h
  cases h
  exact c.length_advance_le

theorem next : Forward next := by
  intro c a after h
  cases h
  exact c.length_advance_le

theorem peekToken : Forward peekToken := by
  intro c a after h
  cases h
  exact c.length_trim_le

theorem left : Forward left := by
  intro c a after h
  cases h
  exact Nat.le_refl _

theorem look (look : Cursor → β) : Forward (fun c => .ok (look c) c : Reader β) := by
  intro c a after h
  cases h
  exact Nat.le_refl _

theorem skipMany (n : Nat) : Forward (skipMany n) := by
  induction n with
  | zero => exact Forward.pure ()
  | succ n ih => exact Forward.skip.bind fun _ => ih

theorem skipDigits : Forward skipDigits := by
  exact (Forward.look _).bind fun n => (Forward.skipMany n).bind fun _ => Forward.pure n

end Forward

end Reader

end BearerLogin.Json
