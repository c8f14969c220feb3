import Mathlib.Tactic.Ring

/-!
# Go's `time.Time` in a location of fixed offset

An instant is a count of nanoseconds since Go's zero time, January 1 of year 1,
00:00:00 UTC, together with the offset of its location. Calendar fields are
read from the local day count with the cycle arithmetic of Go's `absDate`,
and `Date` builds an instant with `daysSinceEpoch` after normalising the
month. Go's cycles start at a year `≡ 1 (mod 400)`, so counting days from
year 1 gives the same decomposition for every instant.

## Implementation notes

`Truncate` works on the time since the zero time, whatever the location; its
remainder is the one Go's `div` returns, which is never negative.
-/

namespace EventNative.GoTime

def nanosecondsPerSecond : Int := 1000000000

def secondsPerDay : Int := 86400

def daysPer400Years : Int := 146097

def daysPer100Years : Int := 36524

def daysPer4Years : Int := 1461

/-- `time.Hour * 24`, in nanoseconds. -/
def day24h : Int := secondsPerDay * nanosecondsPerSecond

/-- The table `daysBefore`: days in the months before month `m + 1` of a common year. -/
def daysBefore : Nat → Int
  | 0 => 0
  | 1 => 31
  | 2 => 59
  | 3 => 90
  | 4 => 120
  | 5 => 151
  | 6 => 181
  | 7 => 212
  | 8 => 243
  | 9 => 273
  | 10 => 304
  | 11 => 334
  | _ => 365

/-- `isLeap`. -/
def isLeap (year : Int) : Bool :=
  year % 4 = 0 && (year % 100 ≠ 0 || year % 400 = 0)

/-- `daysSinceEpoch`: the days from January 1 of year 1 to January 1 of `year`. -/
def daysSinceEpoch (year : Int) : Int :=
  let y := year - 1
  let n400 := y / 400
  let y := y - 400 * n400
  let n100 := y / 100
  let y := y - 100 * n100
  let n4 := y / 4
  let y := y - 4 * n4
  daysPer400Years * n400 + daysPer100Years * n100 + daysPer4Years * n4 + 365 * y

/-- The first half of `absDate`: the year of a day count and the day's index in it. -/
def yearDay (d : Int) : Int × Int :=
  let n := d / daysPer400Years
  let y := 400 * n
  let d := d - daysPer400Years * n
  let n := d / daysPer100Years
  let n := n - n / 4
  let y := y + 100 * n
  let d := d - daysPer100Years * n
  let n := d / daysPer4Years
  let y := y + 4 * n
  let d := d - daysPer4Years * n
  let n := d / 365
  let n := n - n / 4
  let y := y + n
  let d := d - 365 * n
  (y + 1, d)

/-- The second half of `absDate`: month and day of the `yday`-th day of `year`. -/
def monthDay (year yday : Int) : Int × Int :=
  if isLeap year ∧ yday = 31 + 29 - 1 then (2, 29)
  else
    let day := if isLeap year ∧ yday > 31 + 29 - 1 then yday - 1 else yday
    let month := (day / 31).toNat
    let monthEnd := daysBefore (month + 1)
    if day ≥ monthEnd then (month + 2, day - monthEnd + 1)
    else (month + 1, day - daysBefore month + 1)

/-- A `time.Time` in a location of fixed offset. -/
structure Time where
  abs : Int
  offset : Int
deriving DecidableEq

/-- The zero `time.Time{}`. -/
def Time.zero : Time := ⟨0, 0⟩

/-- `time.Date(year, month, day, hour, min, sec, nsec, loc)`. -/
def date (year month day hour min sec nsec offset : Int) : Time :=
  let m := month - 1
  let year := year + m / 12
  let month := m % 12 + 1
  let d := daysSinceEpoch year + daysBefore (month - 1).toNat +
    (if isLeap year ∧ month ≥ 3 then 1 else 0) + (day - 1)
  ⟨((d * secondsPerDay + hour * 3600 + min * 60 + sec) - offset) * nanosecondsPerSecond + nsec,
    offset⟩

namespace Time

/-- Seconds since the zero time on the local clock. -/
def localSeconds (t : Time) : Int := t.abs / nanosecondsPerSecond + t.offset

/-- The local day count. -/
def days (t : Time) : Int := t.localSeconds / secondsPerDay

/-- `t.Date()`. -/
def date (t : Time) : Int × Int × Int :=
  let yd := yearDay t.days
  let md := monthDay yd.1 yd.2
  (yd.1, md.1, md.2)

def year (t : Time) : Int := t.date.1

def month (t : Time) : Int := t.date.2.1

def day (t : Time) : Int := t.date.2.2

/-- `t.Clock()`. -/
def clock (t : Time) : Int × Int × Int :=
  let s := t.localSeconds % secondsPerDay
  (s / 3600, s % 3600 / 60, s % 60)

/-- `t.Nanosecond()`. -/
def nanosecond (t : Time) : Int := t.abs % nanosecondsPerSecond

/-- `t.Add(d)`. -/
def add (t : Time) (d : Int) : Time := { t with abs := t.abs + d }

theorem ext_abs {t t' : Time} (ha : t.abs = t'.abs) (ho : t.offset = t'.offset) : t = t' := by
  cases t; cases t'; simp_all

@[simp] theorem add_abs (t : Time) (d : Int) : (t.add d).abs = t.abs + d := rfl

@[simp] theorem add_offset (t : Time) (d : Int) : (t.add d).offset = t.offset := rfl

theorem add_add (t : Time) (d d' : Int) : (t.add d).add d' = t.add (d + d') := by
  simp only [add, Int.add_assoc]

@[simp] theorem add_zero (t : Time) : t.add 0 = t := by
  simp only [add, Int.add_zero]

/-- `t.AddDate(years, months, days)`. -/
def addDate (t : Time) (years months days : Int) : Time :=
  GoTime.date (t.year + years) (t.month + months) (t.day + days) t.clock.1 t.clock.2.1
    t.clock.2.2 t.nanosecond t.offset

/-- `t.Truncate(d)`. -/
def truncate (t : Time) (d : Int) : Time :=
  if d ≤ 0 then t else t.add (-(t.abs % d))

end Time

end EventNative.GoTime
