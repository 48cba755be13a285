import JobWatch.Number.Binary64
import JobWatch.Text.Search

/-!
Instants in milliseconds since 1970-01-01 00:00 UTC and their fields in the proleptic Gregorian
calendar, with the two texts that are made of them. Only UTC is covered.
-/
namespace JobWatch.Calendar

structure Fields where
  year : Int
  month : Nat
  day : Nat
  hour : Nat
  minute : Nat
  second : Nat
  milli : Nat
deriving DecidableEq, Repr

def msPerDay : Int := 86400000

/-- Year, month and day of the day with this number, counted from 1970-01-01. Years begin in
March inside the computation, so that the leap day is the last of its year. -/
def civil (dayNumber : Int) : Int × Nat × Nat :=
  let z := dayNumber + 719468
  let era := z / 146097
  let doe := z % 146097
  let yoe := (doe - doe / 1460 + doe / 36524 - doe / 146096) / 365
  let doy := doe - (365 * yoe + yoe / 4 - yoe / 100)
  let mp := (5 * doy + 2) / 153
  let day := doy - (153 * mp + 2) / 5 + 1
  let month := if mp < 10 then mp + 3 else mp - 9
  (yoe + era * 400 + (if month ≤ 2 then 1 else 0), month.toNat, day.toNat)

/-- The number of the day `year`-`month`-`day`; the month counts from one. -/
def dayNumber (year : Int) (month day : Int) : Int :=
  let y := if month ≤ 2 then year - 1 else year
  let era := y / 400
  let yoe := y % 400
  let mp := if 2 < month then month - 3 else month + 9
  let doy := (153 * mp + 2) / 5 + day - 1
  era * 146097 + yoe * 365 + yoe / 4 - yoe / 100 + doy - 719468

def fields (ms : Int) : Fields :=
  let (year, month, day) := civil (ms / msPerDay)
  let t := (ms % msPerDay).toNat
  ⟨year, month, day, t / 3600000, t / 60000 % 60, t / 1000 % 60, t % 1000⟩

def pad (width n : Nat) : List Char := Text.padLeft width '0' (Nat.toDigits 10 n)

def yearText (year : Int) : List Char :=
  if year < 0 then '-' :: Nat.toDigits 10 year.natAbs else Nat.toDigits 10 year.toNat

/-- `2024-01-05 09:03:07`. The year is written without leading zeros. -/
def timestamp (ms : Int) : String :=
  let f := fields ms
  String.ofList (yearText f.year ++ '-' :: (pad 2 f.month ++ '-' :: (pad 2 f.day ++ ' ' ::
    (pad 2 f.hour ++ ':' :: (pad 2 f.minute ++ ':' :: pad 2 f.second)))))

/-- Four digits for the years 0 to 9999, a sign and six digits for the others. -/
def isoYear (year : Int) : List Char :=
  if 0 ≤ year ∧ year ≤ 9999 then pad 4 year.toNat
  else (if year < 0 then '-' else '+') :: pad 6 year.natAbs

/-- `2024-01-05T09:03:07.000Z`. -/
def isoText (ms : Int) : String :=
  let f := fields ms
  String.ofList (isoYear f.year ++ '-' :: (pad 2 f.month ++ '-' :: (pad 2 f.day ++ 'T' ::
    (pad 2 f.hour ++ ':' :: (pad 2 f.minute ++ ':' :: (pad 2 f.second ++ '.' ::
      (pad 3 f.milli ++ ['Z'])))))))

/-- Instants reach a hundred million days to either side of 1970. -/
def clip (ms : Int) : Option Int :=
  if ms.natAbs ≤ 8640000000000000 then some ms else none

/-- The instant of a number of milliseconds, the fraction dropped. -/
def instant? (ms : Binary64) : Option Int :=
  if ms.isFinite then clip ms.truncate else none

/-- The instant of a date given by its parts: year, month from zero, day, hour, minute, second
and millisecond. Parts that are too large carry over, missing ones take their first value, and
the years 0 to 99 stand for 1900 to 1999. -/
def ofParts? (parts : List Binary64) : Option Int :=
  if parts.all Binary64.isFinite then
    let part (i : Nat) (default : Int) : Int := (parts[i]?.map Binary64.truncate).getD default
    let y := part 0 0
    let year := if 0 ≤ y ∧ y ≤ 99 then 1900 + y else y
    let month := part 1 0
    let days := dayNumber (year + month / 12) (month % 12 + 1) 1 + part 2 1 - 1
    clip (days * msPerDay + part 3 0 * 3600000 + part 4 0 * 60000 + part 5 0 * 1000 + part 6 0)
  else none

/-- The timestamp of an instant, or of none. -/
def timestamp? : Option Int → String
  | some ms => timestamp ms
  | none => "NaN-NaN-NaN NaN:NaN:NaN"

end JobWatch.Calendar
