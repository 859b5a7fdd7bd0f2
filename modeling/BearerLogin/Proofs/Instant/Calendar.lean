import BearerLogin.Instant
import Mathlib

/-! The calendar counts days without gaps.  Each number of days is that of one day, which the
calendar has in the years that it covers (`toDays_ofDays`, `exists_ofDays`). -/

namespace BearerLogin.Instant

/-- What the parts of a day lie between, if the calendar has it. -/
theorem Date.bounds_of_exists {day : Date} (has : day.exists = true) :
    (minYear ≤ day.year ∧ day.year ≤ maxYear) ∧ (1 ≤ day.month ∧ day.month ≤ 12) ∧
      1 ≤ day.day ∧ day.day ≤ 31 := by
  simp only [Date.exists, Bool.and_eq_true, decide_eq_true_eq] at has
  obtain ⟨⟨⟨⟨years, firstMonth⟩, lastMonth⟩, first⟩, last⟩ := has
  have longest : daysInMonth day.year day.month ≤ 31 := by
    unfold daysInMonth
    split
    · split <;> omega
    · split <;> omega
  exact ⟨years, ⟨firstMonth, lastMonth⟩, first, last.trans longest⟩

/-- The place of a day in its era of 400 years, which are counted from March: the century, the four
years within it, the year of these and the day of the year.  A year of 366 days ends four years,
unless it would end a century other than the last one. -/
structure Place where
  century : Int
  quad : Int
  year : Int
  day : Int
  century_bounds : 0 ≤ century ∧ century ≤ 3
  quad_bounds : 0 ≤ quad ∧ quad ≤ 24
  year_bounds : 0 ≤ year ∧ year ≤ 3
  day_bounds : 0 ≤ day ∧ day ≤ 365
  leap : day = 365 → year = 3 ∧ (quad = 24 → century = 3)

namespace Place

/-- The number of the day within its era. -/
def dayOfEra (place : Place) : Int :=
  36524 * place.century + 1461 * place.quad + 365 * place.year + place.day

/-- The number of the year within its era. -/
def yearOfEra (place : Place) : Int :=
  100 * place.century + 4 * place.quad + place.year

/-- The number of the month within its year, from March. -/
def month (place : Place) : Int :=
  (5 * place.day + 2) / 153

theorem exists_dayOfEra {n : Int} (low : 0 ≤ n) (high : n ≤ 146096) :
    ∃ place : Place, place.dayOfEra = n := by
  obtain ⟨century, century_eq⟩ : ∃ c, c = min 3 (n / 36524) := ⟨_, rfl⟩
  obtain ⟨rest, rest_eq⟩ : ∃ r, r = n - 36524 * century := ⟨_, rfl⟩
  obtain ⟨quad, quad_eq⟩ : ∃ q, q = rest / 1461 := ⟨_, rfl⟩
  obtain ⟨year, year_eq⟩ : ∃ y, y = min 3 (rest % 1461 / 365) := ⟨_, rfl⟩
  refine ⟨⟨century, quad, year, rest % 1461 - 365 * year, ?_, ?_, ?_, ?_, ?_⟩, ?_⟩
  case refine_6 =>
    show 36524 * century + 1461 * quad + 365 * year + (rest % 1461 - 365 * year) = n
    omega
  all_goals omega

variable (place : Place) (era : Int)

theorem dayOfEra_bounds : 0 ≤ place.dayOfEra ∧ place.dayOfEra ≤ 146096 := by
  obtain ⟨century, quad, year, day, _, _, _, _, leap⟩ := place
  simp only [dayOfEra]
  omega

theorem yearOfEra_bounds : 0 ≤ place.yearOfEra ∧ place.yearOfEra ≤ 399 := by
  obtain ⟨century, quad, year, day, _, _, _, _, leap⟩ := place
  simp only [yearOfEra]
  omega

theorem month_bounds : 0 ≤ place.month ∧ place.month ≤ 11 := by
  have day := place.day_bounds
  unfold month
  omega

/-- The days of an era are counted by its years. -/
theorem dayOfEra_eq : place.dayOfEra =
    place.yearOfEra * 365 + place.yearOfEra / 4 - place.yearOfEra / 100 + place.day := by
  obtain ⟨century, quad, year, day, _, _, _, _, leap⟩ := place
  simp only [dayOfEra, yearOfEra]
  omega

/-- The year of a day is found from the mean lengths of the years. -/
theorem yearOfEra_eq : (place.dayOfEra - place.dayOfEra / 1460 + place.dayOfEra / 36524 -
    place.dayOfEra / 146096) / 365 = place.yearOfEra := by
  obtain ⟨century, quad, year, day, _, _, _, _, leap⟩ := place
  simp only [dayOfEra, yearOfEra]
  generalize n_eq : 36524 * century + 1461 * quad + 365 * year + day = n
  by_cases last : n = 146096
  · rw [last]
    omega
  · have eras : n / 146096 = 0 := by omega
    have centuries : n / 36524 = century := by omega
    have quads : n / 1460 = 25 * century + quad ∨ n / 1460 = 25 * century + quad + 1 := by omega
    rw [eras, centuries]
    rcases quads with quads | quads
    · rw [quads]
      omega
    · rw [quads]
      omega

/-- The number of the day within its month. -/
def dayOfMonth (place : Place) : Int :=
  place.day - (153 * place.month + 2) / 5 + 1

theorem dayOfMonth_pos : 1 ≤ place.dayOfMonth := by
  unfold dayOfMonth month
  omega

/-- The day of the calendar that has a place in an era. -/
def date : Date :=
  let month := if place.month < 10 then place.month + 3 else place.month - 9
  ⟨place.yearOfEra + era * 400 + (if month ≤ 2 then 1 else 0), month.toNat,
    place.dayOfMonth.toNat⟩

/-- Until December, the year is the one that began in March. -/
theorem date_of_lt (early : place.month < 10) :
    place.date era =
      ⟨place.yearOfEra + era * 400, (place.month + 3).toNat, place.dayOfMonth.toNat⟩ := by
  have months := place.month_bounds
  simp only [date, if_pos early]
  rw [if_neg (by omega), Int.add_zero]

/-- From January on, it is the next one. -/
theorem date_of_ge (late : ¬place.month < 10) :
    place.date era =
      ⟨place.yearOfEra + era * 400 + 1, (place.month - 9).toNat, place.dayOfMonth.toNat⟩ := by
  have months := place.month_bounds
  simp only [date, if_neg late]
  rw [if_pos (by omega)]

theorem ofDays_eq : Date.ofDays (era * 146097 + place.dayOfEra - 719468) = place.date era := by
  have bounds := place.dayOfEra_bounds
  have whole : era * 146097 + place.dayOfEra - 719468 + 719468 = era * 146097 + place.dayOfEra := by
    omega
  have era_eq : (era * 146097 + place.dayOfEra) / 146097 = era := by omega
  have rest_eq : era * 146097 + place.dayOfEra - era * 146097 = place.dayOfEra := by omega
  have day_eq : place.dayOfEra - (365 * place.yearOfEra + place.yearOfEra / 4 -
      place.yearOfEra / 100) = place.day := by
    have counted := place.dayOfEra_eq
    omega
  simp only [Date.ofDays, whole, era_eq, rest_eq, place.yearOfEra_eq, day_eq]
  rfl

theorem toDays_date : (place.date era).toDays = era * 146097 + place.dayOfEra - 719468 := by
  have months := place.month_bounds
  have years := place.yearOfEra_bounds
  have era_eq : (place.yearOfEra + era * 400) / 400 = era := by omega
  have year_eq : place.yearOfEra + era * 400 - era * 400 = place.yearOfEra := by omega
  have first := place.dayOfMonth_pos
  have day_eq : (153 * place.month + 2) / 5 + place.dayOfMonth.toNat - 1 = place.day := by
    rw [Int.toNat_of_nonneg (by omega), dayOfMonth]
    omega
  by_cases early : place.month < 10
  · have month_eq : (((place.month + 3).toNat - 3 : Nat) : Int) = place.month := by omega
    rw [place.date_of_lt era early]
    simp only [Date.toDays]
    rw [if_neg (by omega), if_pos (by omega), era_eq, year_eq, month_eq, day_eq, place.dayOfEra_eq]
  · have month_eq : (((place.month - 9).toNat + 9 : Nat) : Int) = place.month := by omega
    rw [place.date_of_ge era early]
    simp only [Date.toDays]
    rw [if_pos (by omega), if_neg (by omega), Int.add_sub_cancel, era_eq, year_eq, month_eq, day_eq,
      place.dayOfEra_eq]

/-- A year has a leap day exactly if it is the one after three others, with the exceptions at the
ends of centuries. -/
theorem isLeapYear_next : isLeapYear (place.yearOfEra + era * 400 + 1) = true ↔
    place.year = 3 ∧ (place.quad = 24 → place.century = 3) := by
  obtain ⟨century, quad, year, day, _, _, _, _, leap⟩ := place
  simp only [isLeapYear, yearOfEra, Bool.and_eq_true, Bool.or_eq_true, beq_iff_eq, bne_iff_ne]
  omega

theorem dayOfMonth_le : place.dayOfMonth.toNat ≤
    daysInMonth (place.date era).year (place.date era).month := by
  have months := place.month_bounds
  have days := place.day_bounds
  have month_eq : place.month = (5 * place.day + 2) / 153 := rfl
  have day_eq : place.dayOfMonth = place.day - (153 * place.month + 2) / 5 + 1 := rfl
  by_cases early : place.month < 10
  · rw [place.date_of_lt era early]
    simp only [daysInMonth, beq_iff_eq, Bool.or_eq_true]
    split
    · omega
    · split <;> omega
  · have leap := place.isLeapYear_next era
    have last := place.leap
    rw [place.date_of_ge era early]
    simp only [daysInMonth, beq_iff_eq, Bool.or_eq_true, leap]
    split
    · split <;> omega
    · split <;> omega

/-- The calendar has every day of the years that it covers. -/
theorem exists_date (low : minYear ≤ (place.date era).year)
    (high : (place.date era).year ≤ maxYear) : (place.date era).exists = true := by
  have months := place.month_bounds
  have first := place.dayOfMonth_pos
  have last := place.dayOfMonth_le era
  have day_eq : (place.date era).day = place.dayOfMonth.toNat := rfl
  have month_bounds : 1 ≤ (place.date era).month ∧ (place.date era).month ≤ 12 := by
    by_cases early : place.month < 10
    · rw [place.date_of_lt era early]
      dsimp only
      omega
    · rw [place.date_of_ge era early]
      dsimp only
      omega
  simp only [Date.exists, Bool.and_eq_true, decide_eq_true_eq]
  refine ⟨⟨⟨⟨⟨low, high⟩, month_bounds.1⟩, month_bounds.2⟩, ?_⟩, ?_⟩
  · omega
  · omega

end Place

/-- Every number of days since 1970 leads to a place in an era. -/
theorem exists_place (days : Int) :
    ∃ (place : Place) (era : Int), days = era * 146097 + place.dayOfEra - 719468 := by
  obtain ⟨place, found⟩ := Place.exists_dayOfEra (n := (days + 719468) % 146097)
    (by omega) (by omega)
  refine ⟨place, (days + 719468) / 146097, ?_⟩
  omega

/-- Counting to a day and counting back are inverse. -/
theorem toDays_ofDays (days : Int) : (Date.ofDays days).toDays = days := by
  obtain ⟨place, era, rfl⟩ := exists_place days
  rw [place.ofDays_eq, place.toDays_date]

/-- The calendar has every day between its first and its last one. -/
theorem exists_ofDays {days : Int} (low : Date.toDays ⟨minYear, 1, 1⟩ ≤ days)
    (high : days ≤ Date.toDays ⟨maxYear, 12, 31⟩) : (Date.ofDays days).exists = true := by
  have first : Date.toDays ⟨minYear, 1, 1⟩ = -96465292 := by decide
  have last : Date.toDays ⟨maxYear, 12, 31⟩ = 95026236 := by decide
  obtain ⟨place, era, rfl⟩ := exists_place days
  have day_bounds := place.dayOfEra_bounds
  have years := place.yearOfEra_bounds
  have counted := place.dayOfEra_eq
  have days := place.day_bounds
  have month_eq : place.month = (5 * place.day + 2) / 153 := rfl
  -- The first and the last era are covered in part.
  have eras : -656 ≤ era ∧ era ≤ 655 := by omega
  have year_bounds : minYear ≤ (place.date era).year ∧ (place.date era).year ≤ maxYear := by
    unfold minYear maxYear
    by_cases early : place.month < 10
    · rw [place.date_of_lt era early]
      dsimp only
      omega
    · rw [place.date_of_ge era early]
      dsimp only
      omega
  rw [place.ofDays_eq]
  exact place.exists_date era year_bounds.1 year_bounds.2

end BearerLogin.Instant
