import JobWatch.Calendar
import Mathlib.Data.Prod.Lex
import Mathlib.Order.Monotone.Basic
import Mathlib.Tactic.IntervalCases

/-!
# The dates of days

Days are turned into dates by arithmetic alone. The main statements say that this is the Gregorian
calendar, continued in both directions: the day 0 is 1 January 1970, and the day after a date has
the next date by the lengths of the months and the rule for leap years. No other dates are like
that. They never run back, and a day is known by its date. In between, years begin in March: their
last month is then the only one whose length varies.
-/

namespace JobWatch.Calendar

/-! ## The calendar -/

/-- The year has a 29 February. -/
def IsLeap (year : Int) : Prop := year % 4 = 0 ∧ (year % 100 = 0 → year % 400 = 0)

instance (year : Int) : Decidable (IsLeap year) :=
  inferInstanceAs (Decidable (year % 4 = 0 ∧ (year % 100 = 0 → year % 400 = 0)))

def monthLength (year : Int) (month : Nat) : Nat :=
  if month = 2 then (if IsLeap year then 29 else 28)
  else if month = 4 ∨ month = 6 ∨ month = 9 ∨ month = 11 then 30
  else 31

theorem monthLength_le (year : Int) (month : Nat) : monthLength year month ≤ 31 := by
  unfold monthLength
  split
  · split <;> decide
  · split <;> decide

/-- The date of the day after. -/
def nextDate : Int × Nat × Nat → Int × Nat × Nat
  | (year, month, day) =>
    if day < monthLength year month then (year, month, day + 1)
    else if month < 12 then (year, month + 1, 1)
    else (year + 1, 1, 1)

/-- A date that the calendar has. -/
structure IsDate (date : Int × Nat × Nat) : Prop where
  firstMonth : 1 ≤ date.2.1
  lastMonth : date.2.1 ≤ 12
  firstDay : 1 ≤ date.2.2
  lastDay : date.2.2 ≤ monthLength date.1 date.2.1

/-- Dates are given to days as in the Gregorian calendar, continued in both directions. -/
structure IsGregorian (date : Int → Int × Nat × Nat) : Prop where
  epoch : date 0 = (1970, 1, 1)
  next : ∀ n, date (n + 1) = nextDate (date n)
  isDate : ∀ n, IsDate (date n)

/-- Two dates are not followed by the same one. -/
theorem nextDate_inj {a b : Int × Nat × Nat} (ha : IsDate a) (hb : IsDate b)
    (same : nextDate a = nextDate b) : a = b := by
  obtain ⟨year, month, day⟩ := a
  obtain ⟨year', month', day'⟩ := b
  obtain ⟨firstMonth, lastMonth, firstDay, lastDay⟩ := ha
  obtain ⟨firstMonth', lastMonth', firstDay', lastDay'⟩ := hb
  simp only at firstMonth lastMonth firstDay lastDay firstMonth' lastMonth' firstDay' lastDay'
  simp only [nextDate] at same
  by_cases more : day < monthLength year month <;> by_cases more' : day' < monthLength year' month'
  · simp only [if_pos more, if_pos more', Prod.mk.injEq] at same ⊢
    omega
  · rw [if_pos more, if_neg more'] at same
    split at same <;> simp only [Prod.mk.injEq] at same <;> omega
  · rw [if_neg more, if_pos more'] at same
    split at same <;> simp only [Prod.mk.injEq] at same <;> omega
  · rw [if_neg more, if_neg more'] at same
    have month : year = year' ∧ month = month' := by
      split at same <;> split at same <;> simp only [Prod.mk.injEq] at same <;> omega
    obtain ⟨rfl, rfl⟩ := month
    simp only [Prod.mk.injEq, true_and]
    omega

/-! ## Years that begin in March -/

/-- The days from March of the year 0 to March of a year. -/
def yearStart (year : Int) : Int := 365 * year + year / 4 - year / 100 + year / 400

theorem yearStart_add_eras (year era : Int) :
    yearStart (year + era * 400) = yearStart year + era * 146097 := by
  unfold yearStart
  omega

theorem yearStart_succ (year : Int) :
    yearStart (year + 1) = yearStart year + if IsLeap (year + 1) then 366 else 365 := by
  unfold yearStart
  split
  · rename_i leap
    unfold IsLeap at leap
    omega
  · rename_i common
    unfold IsLeap at common
    omega

theorem yearStart_lt_iff {a b : Int} : yearStart a < yearStart b ↔ a < b := by
  have mono : StrictMono yearStart := by
    refine strictMono_int_of_lt_succ fun year => ?_
    rw [yearStart_succ]
    split <;> omega
  exact mono.lt_iff_lt

/-- The year that a day belongs to, both counted within four centuries. -/
def yearOfEra (day : Int) : Int := (day - day / 1460 + day / 36524 - day / 146096) / 365

/-- On all days but the last one the correction for the centuries is the century itself. -/
theorem yearOfEra_cases {day : Int} (first : 0 ≤ day) (last : day < 146097) :
    day = 146096 ∧ yearOfEra day = 399 ∨
      day < 146096 ∧ yearOfEra day = (day - day / 1460 + day / 36524) / 365 ∧
        yearOfEra day / 100 = day / 36524 := by
  unfold yearOfEra
  rcases Int.lt_or_le day 146096 with inside | outside
  · right
    have whole : day / 146096 = 0 := by omega
    rw [whole, Int.sub_zero]
    exact ⟨inside, rfl, by omega⟩
  · left
    obtain rfl : day = 146096 := by omega
    exact ⟨rfl, by decide⟩

theorem yearOfEra_within {day : Int} (first : 0 ≤ day) (last : day < 146097) :
    yearStart (yearOfEra day) ≤ day ∧ day < yearStart (yearOfEra day + 1) := by
  unfold yearStart
  rcases yearOfEra_cases first last with ⟨rfl, final⟩ | ⟨inside, year, century⟩
  · rw [final]
    decide
  · generalize yearOfEra day = y at year century ⊢
    have era : y / 400 = 0 := by omega
    constructor
    · omega
    -- the year after is in the same century, or begins the next one
    · by_cases turn : y % 100 = 99
      · have fourth : (y + 1) / 4 = 25 * (day / 36524 + 1) := by omega
        omega
      · have sameCentury : (y + 1) / 100 = day / 36524 := by omega
        have sameEra : (y + 1) / 400 = 0 := by omega
        rw [sameCentury, sameEra]
        omega

/-- The year that a day belongs to, the days counted from March of the year 0. -/
def marchYear (day : Int) : Int := yearOfEra (day % 146097) + day / 146097 * 400

theorem marchYear_within (day : Int) :
    yearStart (marchYear day) ≤ day ∧ day < yearStart (marchYear day + 1) := by
  have first : 0 ≤ day % 146097 := Int.emod_nonneg day (by decide)
  have last : day % 146097 < 146097 := Int.emod_lt_of_pos day (by decide)
  have within := yearOfEra_within first last
  have next : marchYear day + 1 = yearOfEra (day % 146097) + 1 + day / 146097 * 400 := by
    unfold marchYear
    omega
  rw [next, marchYear, yearStart_add_eras, yearStart_add_eras]
  omega

/-- A day belongs to one year only. -/
theorem marchYear_eq {year day : Int} (first : yearStart year ≤ day)
    (last : day < yearStart (year + 1)) : marchYear day = year := by
  have within := marchYear_within day
  have notLater : marchYear day < year + 1 := yearStart_lt_iff.mp (within.1.trans_lt last)
  have notEarlier : year < marchYear day + 1 := yearStart_lt_iff.mp (first.trans_lt within.2)
  omega

/-! ## Months from March -/

/-- The days of a year before its month `m`, the first one being the month 0. -/
def monthStart (m : Int) : Int := (153 * m + 2) / 5

/-- The days of a month. The last month is February. -/
def daysIn (year m : Int) : Int :=
  if m = 11 then (if IsLeap (year + 1) then 29 else 28) else monthStart (m + 1) - monthStart m

/-- The month has such a day, both counted from zero. -/
structure IsDay (year m day : Int) : Prop where
  first : 0 ≤ m
  last : m < 12
  begun : 0 ≤ day
  within : day < daysIn year m

/-- The date of a day of a month. -/
def dateOf (year m day : Int) : Int × Nat × Nat :=
  (year + (if m < 10 then 0 else 1), (if m < 10 then m + 3 else m - 9).toNat, (day + 1).toNat)

theorem daysIn_pos (year m : Int) : 0 < daysIn year m := by
  unfold daysIn monthStart
  split
  · split <;> decide
  · omega

theorem daysIn_le (year m : Int) : monthStart m + daysIn year m ≤ monthStart (m + 1) := by
  unfold daysIn
  split
  · rename_i february
    subst february
    split <;> decide
  · omega

/-- A year ends with its February. -/
theorem yearStart_add_february (year : Int) :
    yearStart year + monthStart 11 + daysIn year 11 = yearStart (year + 1) := by
  have days : monthStart 11 = 337 := rfl
  rw [yearStart_succ, daysIn, if_pos rfl]
  split <;> omega

theorem monthLength_dateOf (year : Int) {m : Int} (first : 0 ≤ m) (last : m < 12) (day : Int) :
    (monthLength (dateOf year m day).1 (dateOf year m day).2.1 : Int) = daysIn year m := by
  by_cases final : m = 11
  · subst final
    unfold dateOf monthLength daysIn
    simp
  · have other : m < 11 := by omega
    clear last final
    interval_cases m <;> rfl

section IsDay

variable {year m day : Int}

theorem IsDay.in_year (isDay : IsDay year m day) :
    yearStart year ≤ yearStart year + monthStart m + day ∧
      yearStart year + monthStart m + day < yearStart (year + 1) := by
  obtain ⟨first, last, begun, within⟩ := isDay
  have february := yearStart_add_february year
  by_cases final : m = 11
  · subst final
    have days : monthStart 11 = 337 := rfl
    omega
  · have month := daysIn_le year m
    have positive := daysIn_pos year 11
    unfold monthStart at month february ⊢
    omega

theorem exists_isDay (n : Int) :
    ∃ year m day, IsDay year m day ∧ n = yearStart year + monthStart m + day := by
  obtain ⟨begun, ended⟩ := marchYear_within n
  generalize marchYear n = year at begun ended
  have length := yearStart_succ year
  have february := yearStart_add_february year
  have few : n - yearStart year < 366 := by
    split at length <;> omega
  generalize place : n - yearStart year = d at few
  refine ⟨year, (5 * d + 2) / 153, d - monthStart ((5 * d + 2) / 153), ?_, by omega⟩
  generalize month : (5 * d + 2) / 153 = m
  refine ⟨by omega, by omega, by unfold monthStart; omega, ?_⟩
  by_cases final : m = 11
  · subst final
    omega
  · rw [daysIn, if_neg final]
    unfold monthStart
    omega

theorem IsDay.isDate (isDay : IsDay year m day) : IsDate (dateOf year m day) := by
  obtain ⟨first, last, begun, within⟩ := isDay
  have length := monthLength_dateOf year first last day
  unfold dateOf at length ⊢
  refine ⟨?_, ?_, ?_, ?_⟩ <;> simp only at length ⊢
  · split <;> omega
  · split <;> omega
  · omega
  · omega

/-- The day after is in the same month, or the first of the next one. -/
theorem nextDate_dateOf (isDay : IsDay year m day) :
    nextDate (dateOf year m day) =
      if day + 1 < daysIn year m then dateOf year m (day + 1)
      else if m = 11 then dateOf (year + 1) 0 0
      else dateOf year (m + 1) 0 := by
  obtain ⟨first, last, begun, within⟩ := isDay
  have length := monthLength_dateOf year first last day
  unfold dateOf at length ⊢
  unfold nextDate
  simp only at length ⊢
  by_cases more : day + 1 < daysIn year m
  · rw [if_pos more, if_pos (by omega)]
    congr 2
    omega
  · rw [if_neg more, if_neg (by omega)]
    clear length more within
    interval_cases m <;> simp

end IsDay

/-! ## Days and dates -/

section Civil

variable {n year m day : Int}

/-- The date of a day in a year, the month found among the starts of the months. -/
def inMarchYear (year day : Int) : Int × Nat × Nat :=
  let m := (5 * day + 2) / 153
  let month := if m < 10 then m + 3 else m - 9
  (year + (if month ≤ 2 then 1 else 0), month.toNat, (day - monthStart m + 1).toNat)

theorem inMarchYear_monthStart (isDay : IsDay year m day) :
    inMarchYear year (monthStart m + day) = dateOf year m day := by
  obtain ⟨first, last, begun, within⟩ := isDay
  have inside := daysIn_le year m
  have month : (5 * (monthStart m + day) + 2) / 153 = m := by
    unfold monthStart at inside ⊢
    omega
  unfold inMarchYear dateOf
  simp only [month, add_sub_cancel_left]
  split
  · rw [if_neg (by omega)]
  · rw [if_pos (by omega)]

theorem civil_eq (n : Int) :
    civil n = inMarchYear (marchYear (n + 719468))
      (n + 719468 - yearStart (marchYear (n + 719468))) := by
  generalize whole : n + 719468 = z
  have first : 0 ≤ z % 146097 := Int.emod_nonneg z (by decide)
  have last : z % 146097 < 146097 := Int.emod_lt_of_pos z (by decide)
  have day : z - yearStart (marchYear z) = z % 146097 -
      (365 * yearOfEra (z % 146097) + yearOfEra (z % 146097) / 4 - yearOfEra (z % 146097) / 100) := by
    have era : yearOfEra (z % 146097) / 400 = 0 := by
      rcases yearOfEra_cases first last with ⟨-, final⟩ | ⟨inside, -, century⟩
      · rw [final]
        decide
      · omega
    rw [marchYear, yearStart_add_eras, yearStart, era]
    omega
  rw [day, ← whole]
  rfl

/-- The days before 1970 are 719468, counted from March of the year 0. -/
theorem civil_of_isDay (isDay : IsDay year m day)
    (place : n + 719468 = yearStart year + monthStart m + day) : civil n = dateOf year m day := by
  obtain ⟨begun, ended⟩ := isDay.in_year
  rw [civil_eq, place, marchYear_eq begun ended, Int.add_assoc, add_sub_cancel_left,
    inMarchYear_monthStart isDay]

theorem exists_civil (n : Int) : ∃ year m day, IsDay year m day ∧
    n + 719468 = yearStart year + monthStart m + day ∧ civil n = dateOf year m day := by
  obtain ⟨year, m, day, isDay, place⟩ := exists_isDay (n + 719468)
  exact ⟨year, m, day, isDay, place, civil_of_isDay isDay place⟩

theorem isDate_civil (n : Int) : IsDate (civil n) := by
  obtain ⟨year, m, day, isDay, -, date⟩ := exists_civil n
  exact date ▸ isDay.isDate

theorem civil_zero : civil 0 = (1970, 1, 1) := by
  decide

theorem civil_succ (n : Int) : civil (n + 1) = nextDate (civil n) := by
  obtain ⟨year, m, day, isDay, place, date⟩ := exists_civil n
  rw [date, nextDate_dateOf isDay]
  obtain ⟨first, last, begun, within⟩ := isDay
  by_cases more : day + 1 < daysIn year m
  · rw [if_pos more]
    exact civil_of_isDay ⟨first, last, by omega, more⟩ (by omega)
  · rw [if_neg more]
    by_cases final : m = 11
    · subst final
      have february := yearStart_add_february year
      have march : monthStart 0 = 0 := rfl
      rw [if_pos rfl]
      exact civil_of_isDay ⟨le_rfl, by decide, le_rfl, daysIn_pos _ _⟩ (by omega)
    · have month : daysIn year m = monthStart (m + 1) - monthStart m := if_neg final
      rw [if_neg final]
      exact civil_of_isDay ⟨by omega, by omega, le_rfl, daysIn_pos _ _⟩ (by omega)

theorem civil_isGregorian : IsGregorian civil := ⟨civil_zero, civil_succ, isDate_civil⟩

/-- There is one calendar only: the dates are known from one on, and back from it. -/
theorem IsGregorian.eq_civil {date : Int → Int × Nat × Nat} (calendar : IsGregorian date) :
    date = civil := by
  funext n
  induction n using Int.induction_on with
  | zero => exact calendar.epoch.trans civil_zero.symm
  | succ n ih => rw [calendar.next, civil_succ, ih]
  | pred n ih =>
    refine nextDate_inj (calendar.isDate _) (isDate_civil _) ?_
    rw [← calendar.next, ← civil_succ, Int.sub_add_cancel]
    exact ih

/-- A day is counted back from its date. -/
theorem dayNumber_civil (n : Int) : dayNumber (civil n).1 (civil n).2.1 (civil n).2.2 = n := by
  obtain ⟨year, m, day, ⟨first, last, begun, -⟩, place, date⟩ := exists_civil n
  rw [date]
  unfold dayNumber dateOf
  unfold yearStart monthStart at place
  simp only
  split <;> split <;> omega

/-- A date as it is compared: by the year, then the month, then the day. -/
def chronological (date : Int × Nat × Nat) : Int ×ₗ Nat ×ₗ Nat := toLex (date.1, toLex date.2)

theorem lt_nextDate (date : Int × Nat × Nat) :
    chronological date < chronological (nextDate date) := by
  obtain ⟨year, month, day⟩ := date
  unfold nextDate chronological
  simp only [Prod.Lex.toLex_lt_toLex]
  split
  · simp
  · split
    · simp
    · simp

/-- Dates never run back. -/
theorem civil_lt {n' : Int} (later : n < n') : chronological (civil n) < chronological (civil n') := by
  have mono : StrictMono fun n => chronological (civil n) := by
    refine strictMono_int_of_lt_succ fun n => ?_
    rw [civil_succ]
    exact lt_nextDate _
  exact mono later

end Civil

end JobWatch.Calendar
