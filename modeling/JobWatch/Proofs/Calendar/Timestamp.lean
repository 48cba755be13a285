import JobWatch.Proofs.Calendar.Columns
import JobWatch.Proofs.Calendar.Date
import JobWatch.Proofs.Text.Order

/-!
# Timestamps in order

The main statement is about the instants whose years have four digits: their timestamps have
nineteen characters each and are ordered as texts like the instants themselves. What is lost of an
instant is the fraction of its second; the second is read back from the text. Other years are left
out, since their digits are not filled up.
-/

namespace JobWatch.Calendar

variable {s t ms : Int}

/-- The year has four digits. -/
def HasPlainYear (ms : Int) : Prop := 1000 ≤ (fields ms).year ∧ (fields ms).year ≤ 9999

/-! ## The numbers in a timestamp -/

def timestampColumns : List Column :=
  [⟨4, ['-']⟩, ⟨2, ['-']⟩, ⟨2, [' ']⟩, ⟨2, [':']⟩, ⟨2, [':']⟩, ⟨2, []⟩]

/-- The date among the fields of an instant. -/
def Fields.date (f : Fields) : Int × Nat × Nat := (f.year, f.month, f.day)

def Fields.numbers (f : Fields) : List Nat :=
  [f.year.toNat, f.month, f.day, f.hour, f.minute, f.second]

theorem date_fields {date : Int → Int × Nat × Nat} (calendar : IsGregorian date) (ms : Int) :
    (fields ms).date = date (ms / msPerDay) := by
  rw [calendar.eq_civil]
  rfl

theorem holds_numbers (plain : HasPlainYear ms) :
    List.Forall₂ Column.Holds timestampColumns (fields ms).numbers := by
  obtain ⟨first, last⟩ := plain
  have year : (fields ms).year.toNat < 10000 := by omega
  have date := isDate_civil (ms / msPerDay)
  have month : (fields ms).month < 100 := Nat.lt_of_le_of_lt date.lastMonth (by decide)
  have day : (fields ms).day < 100 :=
    Nat.lt_of_le_of_lt (Nat.le_trans date.lastDay (monthLength_le _ _)) (by decide)
  have clock : (ms % msPerDay).toNat < 86400000 := by
    unfold msPerDay
    omega
  have hour : (fields ms).hour < 24 := Nat.div_lt_of_lt_mul clock
  have minute : (fields ms).minute < 60 := Nat.mod_lt _ (by decide)
  have second : (fields ms).second < 60 := Nat.mod_lt _ (by decide)
  have pair {mark : List Char} {n : Nat} (fits : n < 100) : Column.Holds ⟨2, mark⟩ n :=
    ⟨Nat.two_pos, fits⟩
  exact .cons ⟨by decide, year⟩ <| .cons (pair month) <| .cons (pair day) <|
    .cons (pair (by omega)) <| .cons (pair (by omega)) <| .cons (pair (by omega)) .nil

/-- A year of four digits needs no zeros. -/
theorem yearText_eq {year : Int} (first : 1000 ≤ year) (last : year ≤ 9999) :
    yearText year = pad 4 year.toNat := by
  have long : ¬ (Nat.toDigits 10 year.toNat).length ≤ 3 := by
    rw [Nat.length_toDigits_le_iff (by decide) (by decide)]
    omega
  rw [yearText, if_neg (by omega), pad, Text.padLeft, Nat.sub_eq_zero_of_le (by omega),
    List.replicate_zero, List.nil_append]

theorem timestamp_toList (plain : HasPlainYear ms) :
    (timestamp ms).toList = ruled timestampColumns (fields ms).numbers := by
  simp only [timestamp, String.toList_ofList, yearText_eq plain.1 plain.2, timestampColumns,
    Fields.numbers, ruled, List.cons_append, List.nil_append, List.append_nil]

theorem small_of_isWritten {c : Char} (written : isWritten c = true) : c.toNat < 0x10000 := by
  rcases Bool.or_eq_true_iff.mp written with digit | mark
  · have last := (Char.isDigit_iff_toNat.mp digit).2
    exact Nat.lt_of_le_of_lt last (by decide)
  · have listed : c ∈ ['-', ' ', ':'] := List.contains_iff_mem.mp mark
    simp only [List.mem_cons, List.not_mem_nil, or_false] at listed
    rcases listed with rfl | rfl | rfl <;> decide

theorem small_timestamp (ms : Int) : ∀ c ∈ (timestamp ms).toList, c.toNat < 0x10000 :=
  fun c listed => small_of_isWritten (isWritten_timestamp ms c listed)

theorem length_timestamp (plain : HasPlainYear ms) :
    (Text.units (timestamp ms)).length = 19 := by
  rw [Text.units_of_small (small_timestamp ms), List.length_map, timestamp_toList plain,
    length_ruled (holds_numbers plain)]
  rfl

/-! ## Seconds -/

/-- The second that a timestamp stands for, counted from the beginning of 1970. -/
def second? (text : String) : Option Int :=
  match numbers? timestampColumns text.toList with
  | some [year, month, day, hour, minute, second] =>
    some (dayNumber year month day * 86400 + hour * 3600 + minute * 60 + second)
  | _ => none

theorem second?_timestamp (plain : HasPlainYear ms) : second? (timestamp ms) = some (ms / 1000) := by
  have year : ((fields ms).year.toNat : Int) = (fields ms).year :=
    Int.toNat_of_nonneg (Int.le_trans (by decide) plain.1)
  have days : dayNumber (fields ms).year (fields ms).month (fields ms).day = ms / msPerDay :=
    dayNumber_civil (ms / msPerDay)
  rw [second?, timestamp_toList plain, numbers?_ruled (holds_numbers plain)]
  simp only [Fields.numbers, year, days]
  simp only [fields, Option.some.injEq]
  unfold msPerDay
  omega

theorem numbers_of_same_second (same : s / 1000 = t / 1000) :
    (fields s).numbers = (fields t).numbers := by
  have day : s / msPerDay = t / msPerDay := by
    unfold msPerDay
    omega
  have clock : (s % msPerDay).toNat / 1000 = (t % msPerDay).toNat / 1000 := by
    unfold msPerDay
    omega
  simp only [Fields.numbers, fields, day, List.cons.injEq, true_and, and_true]
  omega

/-- Of two times of one day, the earlier second has the smaller numbers. -/
theorem lex_clock {a b : Nat} (earlier : a / 1000 < b / 1000) :
    List.Lex (· < ·) [a / 3600000, a / 60000 % 60, a / 1000 % 60]
      [b / 3600000, b / 60000 % 60, b / 1000 % 60] := by
  simp only [List.cons_lex_cons_iff, List.not_lex_nil, and_false, or_false]
  omega

/-- An earlier second has the smaller numbers, compared from the year on. -/
theorem lex_numbers (plain : HasPlainYear t) (earlier : s / 1000 < t / 1000) :
    List.Lex (· < ·) (fields s).numbers (fields t).numbers := by
  have place : s / msPerDay < t / msPerDay ∨ s / msPerDay = t / msPerDay ∧
      (s % msPerDay).toNat / 1000 < (t % msPerDay).toNat / 1000 := by
    unfold msPerDay
    omega
  rcases place with earlierDay | ⟨sameDay, clock⟩
  · rcases Prod.Lex.toLex_lt_toLex.mp (civil_lt earlierDay) with year | ⟨year, within⟩
    · exact .rel ((Int.toNat_lt_toNat (Int.lt_of_lt_of_le (by decide) plain.1)).mpr year)
    · have sameYear : (fields s).year.toNat = (fields t).year.toNat := congrArg Int.toNat year
      rw [Fields.numbers, Fields.numbers, sameYear]
      rcases Prod.Lex.toLex_lt_toLex.mp within with month | ⟨month, day⟩
      · exact .cons (.rel month)
      · have sameMonth : (fields s).month = (fields t).month := month
        rw [sameMonth]
        exact .cons (.cons (.rel day))
  · have date : civil (s / msPerDay) = civil (t / msPerDay) := congrArg civil sameDay
    simp only [Fields.numbers, fields, date]
    exact .cons (.cons (.cons (lex_clock clock)))

theorem timestamp_precedes (plain : HasPlainYear s) (plain' : HasPlainYear t)
    (earlier : s / 1000 < t / 1000) : Text.Precedes (timestamp s) (timestamp t) := by
  refine Text.precedes_of_small (small_timestamp s) (small_timestamp t) ?_
  rw [timestamp_toList plain, timestamp_toList plain']
  exact lex_ruled (holds_numbers plain) (holds_numbers plain') (lex_numbers plain' earlier)

/-- With the dates of the calendar, timestamps are ordered like their instants, are the same within
a second and tell that second. -/
theorem timestamps_sort_by_time {date : Int → Int × Nat × Nat} (calendar : IsGregorian date)
    (order : s ≤ t) (plain : HasPlainYear s) (plain' : HasPlainYear t) :
    (fields s).date = date (s / msPerDay) ∧ (fields t).date = date (t / msPerDay) ∧
      (Text.units (timestamp s)).length = 19 ∧ (Text.units (timestamp t)).length = 19 ∧
      (timestamp s = timestamp t ∨ Text.Precedes (timestamp s) (timestamp t)) ∧
      (timestamp s = timestamp t ↔ s / 1000 = t / 1000) ∧
      second? (timestamp s) = some (s / 1000) ∧ second? (timestamp t) = some (t / 1000) := by
  have told := second?_timestamp plain
  have told' := second?_timestamp plain'
  have same : timestamp s = timestamp t ↔ s / 1000 = t / 1000 := by
    constructor
    · intro texts
      rw [texts] at told
      exact Option.some.inj (told.symm.trans told')
    · intro seconds
      refine String.toList_injective ?_
      rw [timestamp_toList plain, timestamp_toList plain', numbers_of_same_second seconds]
  have ordered : timestamp s = timestamp t ∨ Text.Precedes (timestamp s) (timestamp t) := by
    rcases Int.lt_or_eq_of_le (Int.ediv_le_ediv (by decide : (0 : Int) < 1000) order) with
      earlier | seconds
    · exact .inr (timestamp_precedes plain plain' earlier)
    · exact .inl (same.mpr seconds)
  exact ⟨date_fields calendar s, date_fields calendar t, length_timestamp plain,
    length_timestamp plain', ordered, same, told, told'⟩

/-- The last moment of a leap day and the first one of March. -/
theorem timestamps_sort_by_time_at_leap_day :
    let s : Int := 1709251199999
    let t : Int := 1709251200000
    IsGregorian civil ∧ s ≤ t ∧ HasPlainYear s ∧ HasPlainYear t ∧
      Text.Precedes (timestamp s) (timestamp t) ∧ second? (timestamp s) = some 1709251199 := by
  intro s t
  have plain : HasPlainYear s := ⟨by decide, by decide⟩
  have plain' : HasPlainYear t := ⟨by decide, by decide⟩
  obtain ⟨-, -, -, -, ordered, same, told, -⟩ :=
    timestamps_sort_by_time (s := s) (t := t) civil_isGregorian (by decide) plain plain'
  have other : ¬ timestamp s = timestamp t := fun texts => absurd (same.mp texts) (by decide)
  exact ⟨civil_isGregorian, by decide, plain, plain', ordered.resolve_left other, told⟩

end JobWatch.Calendar
