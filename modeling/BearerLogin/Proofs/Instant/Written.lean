import BearerLogin.Instant.Printer
import BearerLogin.Instant.Reader
import BearerLogin.Proofs.Instant.Calendar
import BearerLogin.Proofs.Text

/-! Instants as they are written.  Every step of reading takes what the same part of an instant is
written as and leaves what follows, so that an instant is read back from its text.  The exception
is a leap second within a minute: it has the text of the second behind it, and that one is read
(`ofText_rfc3339`). -/

namespace BearerLogin.Instant

/-- An instant of the calendar.  Its nanoseconds are those of a second, or of a leap second, and a
leap second can follow any second. -/
structure Exists (a : Instant) : Prop where
  low : minSeconds ≤ a.seconds
  high : a.seconds ≤ maxSeconds
  nanos : a.nanos < 2000000000

/-- An instant inside a leap second is in place if the leap second ends its minute. -/
def InPlace (a : Instant) : Prop :=
  1000000000 ≤ a.nanos → a.seconds % 60 = 59

instance (a : Instant) : Decidable a.InPlace :=
  inferInstanceAs (Decidable (_ → _))

/-- The instant that the text of an instant stands for: inside a leap second within a minute, it is
that of the second behind. -/
def asWritten (a : Instant) : Instant :=
  if a.InPlace then a else ⟨a.seconds + 1, a.nanos - 1000000000⟩

theorem asWritten_cases (a : Instant) :
    (a.InPlace ∧ a.asWritten = a) ∨
      1000000000 ≤ a.nanos ∧ a.seconds % 60 ≠ 59 ∧
        a.asWritten = ⟨a.seconds + 1, a.nanos - 1000000000⟩ := by
  by_cases inPlace : a.InPlace
  · exact .inl ⟨inPlace, if_pos inPlace⟩
  · obtain ⟨leap, within⟩ := Classical.not_imp.mp inPlace
    exact .inr ⟨leap, within, if_neg inPlace⟩

theorem asWritten_eq_self {a : Instant} : a.asWritten = a ↔ a.InPlace := by
  refine ⟨fun same => ?_, fun inPlace => if_pos inPlace⟩
  rcases a.asWritten_cases with ⟨inPlace, -⟩ | ⟨-, -, moved⟩
  · exact inPlace
  · have seconds : a.seconds + 1 = a.seconds := congrArg Instant.seconds (moved.symm.trans same)
    omega

section Next

variable {a : Instant} (within : a.seconds % 60 ≠ 59) (nanos : Nat)

include within

theorem date_next : date ⟨a.seconds + 1, nanos⟩ = a.date := by
  have sameDay : (a.seconds + 1) / secondsPerDay = a.seconds / secondsPerDay := by
    unfold secondsPerDay
    omega
  rw [date, date, sameDay]

theorem secondOfDay_next : secondOfDay ⟨a.seconds + 1, nanos⟩ = a.secondOfDay + 1 := by
  unfold secondOfDay secondsPerDay
  dsimp only
  omega

end Next

namespace Exists

variable {a : Instant}

theorem asWritten (exists_ : a.Exists) : a.asWritten.Exists := by
  obtain ⟨low, high, nanos⟩ := exists_
  rcases a.asWritten_cases with ⟨-, kept⟩ | ⟨-, within, moved⟩
  · rw [kept]
    exact ⟨low, high, nanos⟩
  · -- The calendar ends with a minute, so there is a second behind one within a minute.
    have lastMinute : maxSeconds % 60 = 59 := by decide
    rw [moved]
    exact ⟨by dsimp only; omega, by dsimp only; omega, by dsimp only; omega⟩

theorem inPlace_asWritten (exists_ : a.Exists) : a.asWritten.InPlace := by
  have nanos := exists_.nanos
  rcases a.asWritten_cases with ⟨inPlace, kept⟩ | ⟨-, -, moved⟩
  · rwa [kept]
  · rw [moved]
    intro leap
    dsimp only at leap
    omega

/-- A leap second within a minute is written like the second behind it. -/
theorem rfc3339_asWritten (exists_ : a.Exists) : a.asWritten.rfc3339 = a.rfc3339 := by
  have nanos := exists_.nanos
  rcases a.asWritten_cases with ⟨-, kept⟩ | ⟨leap, within, moved⟩
  · rw [kept]
  · have minute : a.secondOfDay % 60 ≠ 59 := by
      unfold secondOfDay secondsPerDay
      omega
    have hour_eq : (a.secondOfDay + 1) / 3600 = a.secondOfDay / 3600 := by omega
    have minute_eq : (a.secondOfDay + 1) / 60 % 60 = a.secondOfDay / 60 % 60 := by omega
    have second_eq : (a.secondOfDay + 1) % 60 = a.secondOfDay % 60 + 1 := by omega
    have usual : ¬1000000000 ≤ a.nanos - 1000000000 := by omega
    rw [moved]
    simp only [rfc3339, timeChars, date_next within, secondOfDay_next within, hour_eq, minute_eq,
      second_eq, leap, usual, if_true, if_false]

end Exists

/-! ### Digits -/

variable {width n : Nat} {digits rest : List Char}

/-- What follows a number does not go on with a digit. -/
def NoDigit (rest : List Char) : Prop :=
  ∀ c ∈ rest.head?, c.isDigit = false

/-- What follows a part does not begin with a blank. -/
def NoBlank (rest : List Char) : Prop :=
  ∀ c ∈ rest.head?, Text.isBlank c = false

theorem isDigit_of_mem_padded : ∀ c ∈ padded width n, c.isDigit = true := by
  intro c member
  rcases List.mem_append.mp member with zero | digit
  · rw [List.eq_of_mem_replicate zero]
    decide
  · exact Nat.isDigit_of_mem_toDigits (by decide) (by decide) digit

theorem length_padded (positive : 0 < width) (small : n < 10 ^ width) :
    (padded width n).length = width := by
  have fits := (Nat.length_toDigits_le_iff (by decide : 1 < 10) positive).mpr small
  unfold padded
  simp only [List.length_append, List.length_replicate]
  omega

theorem padded_ne_nil : padded width n ≠ [] := by
  unfold padded
  simp [Nat.toDigits_ne_nil]

theorem digitsValue_padded : digitsValue (padded width n) = n := by
  show Nat.ofDigitChars 10 (padded width n) 0 = n
  unfold padded
  rw [Nat.ofDigitChars_append, Nat.ofDigitChars_replicate_zero, Nat.mul_zero,
    Nat.ofDigitChars_ten_toDigits]

theorem isBlank_of_isDigit {c : Char} (digit : c.isDigit = true) : Text.isBlank c = false := by
  have bounds : 48 ≤ c.toNat ∧ c.toNat ≤ 57 := by
    simpa [Char.isDigit, UInt32.le_iff_toNat_le] using digit
  simp [Text.isBlank]
  omega

theorem noBlank_padded (rest : List Char) : NoBlank (padded width n ++ rest) := by
  intro c first
  rw [List.head?_append_of_ne_nil _ padded_ne_nil] at first
  exact isBlank_of_isDigit (isDigit_of_mem_padded c (List.mem_of_mem_head? first))

/-! ### Steps -/

theorem run_bind_of_ok {step : Step α} {f : α → Step β} {a : α} {chars rest : List Char}
    (first : step.run chars = .ok (a, rest)) : (step >>= f).run chars = (f a).run rest := by
  rw [StateT.run_bind, first]
  rfl

theorem dropBlanks_run (solid : NoBlank rest) : dropBlanks.run rest = .ok ((), rest) := by
  show Except.ok ((), rest.dropWhile Text.isBlank) = _
  rw [Text.dropWhile_isBlank_eq_self.mpr solid]

theorem takeWhile_isDigit_of_noDigit (stop : NoDigit rest) (k : Nat) :
    (rest.take k).takeWhile Char.isDigit = [] := by
  rcases k with _ | k
  · rfl
  · rcases rest with _ | ⟨c, rest⟩
    · rfl
    · exact List.takeWhile_cons_of_neg (by simp [stop c rfl])

theorem takeDigits_run {limit : Nat} (nonempty : digits ≠ []) (all : ∀ c ∈ digits, c.isDigit = true)
    (fits : digits.length ≤ limit) (ends : digits.length = limit ∨ NoDigit rest) :
    (takeDigits limit).run (digits ++ rest) = .ok (digits, rest) := by
  have behind : (rest.take (limit - digits.length)).takeWhile Char.isDigit = [] := by
    rcases ends with full | stop
    · simp [full]
    · exact takeWhile_isDigit_of_noDigit stop _
  have taken : ((digits ++ rest).take limit).takeWhile Char.isDigit = digits := by
    rw [List.take_append, List.take_of_length_le fits, List.takeWhile_append_of_pos all, behind,
      List.append_nil]
  have left : (digits ++ rest).drop digits.length = rest := List.drop_left
  unfold takeDigits
  rw [run_bind_of_ok (StateT.run_get _)]
  dsimp only
  rw [taken, left, if_neg (by simp [nonempty]), if_neg (by simp [nonempty])]
  rfl

theorem takeNumber_run {limit : Nat} (fits : (padded width n).length ≤ limit)
    (ends : (padded width n).length = limit ∨ NoDigit rest) :
    (takeNumber limit).run (padded width n ++ rest) = .ok (n, rest) := by
  unfold takeNumber
  rw [run_bind_of_ok (takeDigits_run padded_ne_nil isDigit_of_mem_padded fits ends),
    digitsValue_padded]
  rfl

theorem takeBetween_run {low high : Nat} (within : low ≤ n ∧ n ≤ high) (small : n < 100) :
    (takeBetween low high).run (padded 2 n ++ rest) = .ok (n, rest) := by
  have two : (padded 2 n).length = 2 := length_padded (by decide) small
  unfold takeBetween
  rw [run_bind_of_ok (dropBlanks_run (noBlank_padded rest)),
    run_bind_of_ok (takeNumber_run two.le (.inl two)), if_pos within]
  rfl

theorem takeSeparator_run {c : Char} (solid : Text.isBlank c = false) :
    (takeSeparator c).run (c :: rest) = .ok ((), rest) := by
  unfold takeSeparator
  rw [run_bind_of_ok (dropBlanks_run (by simpa [NoBlank] using solid)),
    run_bind_of_ok (StateT.run_get _)]
  dsimp only
  rw [if_pos rfl]
  rfl

/-! ### Parts -/

/-- A year of four digits does not begin with a sign. -/
theorem padded_ne_cons {c : Char} (sign : c.isDigit = false) {tail : List Char} :
    padded width n ++ rest ≠ c :: tail := by
  intro same
  have first : (padded width n ++ rest).head? = some c := by rw [same, List.head?_cons]
  rw [List.head?_append_of_ne_nil _ padded_ne_nil] at first
  rw [isDigit_of_mem_padded c (List.mem_of_mem_head? first)] at sign
  cases sign

theorem takeYear_run {year : Int} (bounds : -2147483648 ≤ year ∧ year ≤ 2147483647)
    (stop : NoDigit rest) : takeYear.run (yearChars year ++ rest) = .ok (year, rest) := by
  unfold yearChars
  by_cases short : 0 ≤ year ∧ year ≤ 9999
  · have four : (padded 4 year.toNat).length = 4 := length_padded (by decide) (by omega)
    have number : (takeNumber 4).run (padded 4 year.toNat ++ rest) = .ok (year.toNat, rest) :=
      takeNumber_run four.le (.inl four)
    have year_eq : (year.toNat : Int) = year := by omega
    rw [if_pos short]
    unfold takeYear
    rw [run_bind_of_ok (dropBlanks_run (noBlank_padded rest)), run_bind_of_ok (StateT.run_get _)]
    generalize chars_eq : padded 4 year.toNat ++ rest = chars at number
    split
    · exact absurd chars_eq (padded_ne_cons (by decide))
    · exact absurd chars_eq (padded_ne_cons (by decide))
    · rw [run_bind_of_ok (by rw [run_bind_of_ok number, year_eq]; rfl), if_pos bounds]
      rfl
  · have number : (takeNumber (padded 4 year.natAbs ++ rest).length).run
        (padded 4 year.natAbs ++ rest) = .ok (year.natAbs, rest) :=
      takeNumber_run (by simp) (.inr stop)
    rw [if_neg short]
    unfold takeYear
    by_cases negative : year < 0
    · have year_eq : -(year.natAbs : Int) = year := by omega
      rw [if_pos negative, List.cons_append,
        run_bind_of_ok (dropBlanks_run (by simp [NoBlank, Text.isBlank])),
        run_bind_of_ok (StateT.run_get _)]
      split
      · next tail same =>
        cases same
        rw [run_bind_of_ok (by
          rw [run_bind_of_ok (StateT.run_set _ _), run_bind_of_ok number, year_eq]
          rfl), if_pos bounds]
        rfl
      · next same => cases same
      · next minus _ => exact absurd rfl (minus _)
    · have year_eq : (year.natAbs : Int) = year := by omega
      rw [if_neg negative, List.cons_append,
        run_bind_of_ok (dropBlanks_run (by simp [NoBlank, Text.isBlank])),
        run_bind_of_ok (StateT.run_get _)]
      split
      · next same => cases same
      · next tail same =>
        cases same
        rw [run_bind_of_ok (by
          rw [run_bind_of_ok (StateT.run_set _ _), run_bind_of_ok number, year_eq]
          rfl), if_pos bounds]
        rfl
      · next plus => exact absurd rfl (plus _)

theorem takeDate_run {day : Date} (bounds : -2147483648 ≤ day.year ∧ day.year ≤ 2147483647)
    (month : 1 ≤ day.month ∧ day.month ≤ 12) (days : 1 ≤ day.day ∧ day.day ≤ 31) :
    takeDate.run (dateChars day ++ rest) = .ok (day, rest) := by
  unfold takeDate dateChars
  simp only [List.append_assoc, List.cons_append]
  rw [run_bind_of_ok (takeYear_run bounds (by simp [NoDigit])),
    run_bind_of_ok (takeSeparator_run (by decide)),
    run_bind_of_ok (takeBetween_run month (by omega)),
    run_bind_of_ok (takeSeparator_run (by decide)),
    run_bind_of_ok (takeBetween_run days (by omega))]
  rfl

theorem takeFraction_point (scale : Nat) (positive : 0 < width) (nine : width ≤ 9)
    (fits : n < 10 ^ width) (scale_eq : Nat.pow 10 (9 - width) = scale) (stop : NoDigit rest) :
    takeFraction.run ('.' :: padded width n ++ rest) = .ok (n * scale, rest) := by
  have length := length_padded positive fits
  have behind : rest.dropWhile Char.isDigit = rest := by
    rw [List.dropWhile_eq_self_iff]
    intro filled
    simpa using stop (rest[0]) (by simp [List.head?_eq_getElem?, filled])
  unfold takeFraction
  rw [run_bind_of_ok (StateT.run_get _), List.cons_append]
  split
  · next same =>
    cases same
    rw [run_bind_of_ok (StateT.run_set _ _), run_bind_of_ok (takeDigits_run padded_ne_nil
      isDigit_of_mem_padded (length.le.trans nine) (.inr stop)), digitsValue_padded, length,
      scale_eq]
    show Except.ok (n * scale, rest.dropWhile Char.isDigit) = _
    rw [behind]
  · next other => exact absurd rfl (other _)

theorem takeFraction_run {nanos : Nat} (small : nanos < 1000000000) (stop : NoDigit rest)
    (noPoint : ∀ c ∈ rest.head?, c ≠ '.') :
    takeFraction.run (fractionChars nanos ++ rest) = .ok (nanos, rest) := by
  unfold fractionChars
  split
  · next whole =>
    unfold takeFraction
    rw [run_bind_of_ok (StateT.run_get _), List.nil_append]
    split
    · exact absurd rfl (noPoint '.' rfl)
    · rw [whole]
      rfl
  · split
    · next millis =>
      rw [takeFraction_point 1000000 (by decide) (by decide) (by omega) rfl stop,
        Nat.div_mul_cancel (Nat.dvd_of_mod_eq_zero millis)]
    · split
      · next micros =>
        rw [takeFraction_point 1000 (by decide) (by decide) (by omega) rfl stop,
          Nat.div_mul_cancel (Nat.dvd_of_mod_eq_zero micros)]
      · rw [takeFraction_point 1 (by decide) (by decide) (by omega) rfl stop,
          Nat.mul_one]

/-- The time of day is that of the last second before, if the second is a leap second. -/
theorem takeTime_run {a : Instant} (nanos : a.nanos < 2000000000) (inPlace : a.InPlace)
    (solid : NoBlank rest) (stop : NoDigit rest) (noPoint : ∀ c ∈ rest.head?, c ≠ '.') :
    takeTime.run (timeChars a ++ rest) = .ok ((a.secondOfDay, a.nanos), rest) := by
  have day : a.secondOfDay < 86400 := by
    unfold secondOfDay secondsPerDay
    omega
  have minute : 1000000000 ≤ a.nanos → a.secondOfDay % 60 = 59 := by
    intro leap
    have last := inPlace leap
    unfold secondOfDay secondsPerDay
    omega
  unfold takeTime timeChars
  simp only [List.append_assoc, List.cons_append]
  rw [run_bind_of_ok (takeBetween_run (by omega) (by omega)),
    run_bind_of_ok (takeSeparator_run (by decide)),
    run_bind_of_ok (takeBetween_run (by omega) (by omega)),
    run_bind_of_ok (takeSeparator_run (by decide)),
    run_bind_of_ok (takeBetween_run (by split <;> omega) (by split <;> omega)),
    run_bind_of_ok (takeFraction_run (by split <;> omega) stop noPoint),
    run_bind_of_ok (dropBlanks_run solid)]
  by_cases leap : 1000000000 ≤ a.nanos
  · have last : a.secondOfDay % 60 = 59 := minute leap
    have second_eq : a.secondOfDay / 3600 * 3600 + a.secondOfDay / 60 % 60 * 60 + 59 =
        a.secondOfDay := by
      omega
    simp only [leap, if_true, last]
    rw [Nat.sub_add_cancel leap, second_eq]
    rfl
  · have other : a.secondOfDay % 60 ≠ 60 := by omega
    have second_eq : a.secondOfDay / 3600 * 3600 + a.secondOfDay / 60 % 60 * 60 +
        a.secondOfDay % 60 = a.secondOfDay := by
      omega
    simp only [leap, if_false, other]
    rw [second_eq]
    rfl

theorem takeDivider_run : takeDivider.run ('T' :: rest) = .ok ((), rest) := by
  unfold takeDivider
  rw [run_bind_of_ok (StateT.run_get _)]
  dsimp only
  rw [if_pos (.inr (.inl rfl))]
  rfl

theorem takeOffset_run : takeOffset.run ('Z' :: rest) = .ok (0, rest) := by
  unfold takeOffset
  rw [run_bind_of_ok (StateT.run_get _)]
  dsimp only
  rw [if_pos (.inl rfl)]
  rfl

/-! ### Instants -/

namespace Exists

variable {a : Instant}

theorem date_exists (exists_ : a.Exists) : a.date.exists = true := by
  have low := exists_.low
  have high := exists_.high
  unfold minSeconds at low
  unfold maxSeconds at high
  unfold date
  apply exists_ofDays
  · unfold secondsPerDay at low ⊢
    omega
  · unfold secondsPerDay at high ⊢
    omega

theorem resolve_eq (exists_ : a.Exists) :
    resolve a.date (a.secondOfDay, a.nanos) 0 = .ok a := by
  have seconds_eq : a.date.toDays * secondsPerDay + a.secondOfDay - 0 = a.seconds := by
    unfold date secondOfDay
    rw [toDays_ofDays]
    unfold secondsPerDay
    omega
  unfold resolve
  rw [exists_.date_exists]
  dsimp only
  rw [if_neg (by decide), if_neg (by decide), seconds_eq, if_pos ⟨exists_.low, exists_.high⟩]

end Exists

theorem ofText_rfc3339_of_inPlace {a : Instant} (exists_ : a.Exists) (inPlace : a.InPlace) :
    ofText a.rfc3339 = .ok a := by
  obtain ⟨years, month, day⟩ := Date.bounds_of_exists exists_.date_exists
  have year : -2147483648 ≤ a.date.year ∧ a.date.year ≤ 2147483647 := by
    unfold minYear maxYear at years
    omega
  unfold ofText rfc3339
  rw [String.toList_ofList]
  simp only [List.append_assoc, List.cons_append]
  rw [run_bind_of_ok (takeDate_run year month day), run_bind_of_ok takeDivider_run,
    run_bind_of_ok (takeTime_run exists_.nanos inPlace (by simp [NoBlank, Text.isBlank])
      (by simp [NoDigit]) (by simp)), run_bind_of_ok takeOffset_run,
    run_bind_of_ok (dropBlanks_run (by simp [NoBlank]))]
  exact exists_.resolve_eq

/-- From the text of an instant of the calendar the instant is read that it stands for. -/
theorem ofText_rfc3339 {a : Instant} (exists_ : a.Exists) : ofText a.rfc3339 = .ok a.asWritten := by
  rw [← exists_.rfc3339_asWritten]
  exact ofText_rfc3339_of_inPlace exists_.asWritten exists_.inPlace_asWritten

end BearerLogin.Instant
