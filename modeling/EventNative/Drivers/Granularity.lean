import EventNative.GoTime.Format
import EventNative.GoTime.DayCount

/-!
# Granularity intervals

A granularity cuts the time line into days, months or years. `Lower` and
`Upper` give the first instant and the last nanosecond of the period of an
instant, and `Format` names the period. `FOREVER` gives the zero time, and
the empty name from the default branch of `Format`.

## Implementation notes

`Granularity` is a Go string, and only its four constants are modelled. For
any other value the default branches call `logging.SystemError` with `g`,
whose `String()` takes its own default branch and logs `g` again, so the call
recurses until the stack overflows and returns nothing.
-/

namespace EventNative.Drivers

open GoTime

/-- The constants of `Granularity`: `DAY`, `MONTH`, `YEAR` and `FOREVER`. -/
inductive Granularity
  | day
  | month
  | year
  | forever

namespace Granularity

/-- `Lower`. -/
def lower : Granularity → Time → Time
  | .day, t => t.truncate day24h
  | .month, t => date t.year t.month 1 0 0 0 0 t.offset
  | .year, t => date t.year 1 1 0 0 0 0 t.offset
  | .forever, _ => Time.zero

/-- `Upper`. -/
def upper : Granularity → Time → Time
  | .day, t => ((date t.year t.month t.day 0 0 0 0 t.offset).addDate 0 0 1).add (-1)
  | .month, t => ((date t.year t.month 1 0 0 0 0 t.offset).addDate 0 1 0).add (-1)
  | .year, t => ((date t.year 1 1 0 0 0 0 t.offset).addDate 1 0 0).add (-1)
  | .forever, _ => Time.zero

/-- `Format`. -/
def format : Granularity → Time → String
  | .day, t => t.format "2006-01-01"
  | .month, t => t.format "2006-01"
  | .year, t => t.format "2006"
  -- `FOREVER` takes the default branch
  | .forever, _ => ""

end Granularity

section Layouts

theorem format_year (t : Time) : Granularity.year.format t = String.mk (appendInt t.year 4) := by
  have : layoutChunks "2006".toList = [.longYear] := rfl
  simp only [Granularity.format, Time.format, this, List.flatMap_cons, List.flatMap_nil,
    List.append_nil, Chunk.render]
  rfl

theorem format_month (t : Time) :
    Granularity.month.format t = String.mk (appendInt t.year 4 ++ '-' :: appendInt t.month 2) := by
  have : layoutChunks "2006-01".toList = [.longYear, .lit '-', .zeroMonth] := rfl
  simp only [Granularity.format, Time.format, this, List.flatMap_cons, List.flatMap_nil,
    List.append_nil, Chunk.render, List.singleton_append]
  rfl

/-- The `DAY` layout prints the month where the day should be. -/
theorem format_day (t : Time) :
    Granularity.day.format t =
      String.mk (appendInt t.year 4 ++ '-' :: (appendInt t.month 2 ++ '-' :: appendInt t.month 2)) := by
  have : layoutChunks "2006-01-01".toList =
      [.longYear, .lit '-', .zeroMonth, .lit '-', .zeroMonth] := rfl
  simp only [Granularity.format, Time.format, this, List.flatMap_cons, List.flatMap_nil,
    List.append_nil, Chunk.render, List.singleton_append]
  rfl

theorem appendInt_month_length (t : Time) : (appendInt t.month 2).length = 2 :=
  have hm := t.date_spec.1.1
  appendInt_length (by omega) (by omega) (by omega)

/-- A year, a dash and a month in range are read back from their text. -/
theorem year_month_text_inj {t t' : Time}
    (h : appendInt t'.year 4 ++ '-' :: appendInt t'.month 2 = appendInt t.year 4 ++ '-' :: appendInt t.month 2) :
    t'.year = t.year ∧ t'.month = t.month := by
  obtain ⟨hy, hm⟩ := List.append_inj' h (by simp [appendInt_month_length])
  exact ⟨appendInt_injective 4 hy, appendInt_injective 2 (List.cons_injective hm)⟩

end Layouts

section Periods

variable (t t' : Time)

theorem month_lower_eq : Granularity.month.lower t = date t.year t.month 1 0 0 0 0 t.offset := rfl

theorem year_lower_eq : Granularity.year.lower t = date t.year 1 1 0 0 0 0 t.offset := rfl

/-- `AddDate` on a midnight `Date` in range is a `Date` with the fields added. -/
theorem addDate_date {year month day : Int} (offset years months days : Int)
    (hv : ValidDate year month day) :
    (date year month day 0 0 0 0 offset).addDate years months days =
      date (year + years) (month + months) (day + days) 0 0 0 0 offset := by
  simp only [Time.addDate, Time.year, Time.month, Time.day, date_midnight_date offset hv,
    date_midnight_clock offset hv.1, date_midnight_nanosecond, date_offset]

theorem month_upper_eq :
    Granularity.month.upper t = (date t.year (t.month + 1) 1 0 0 0 0 t.offset).add (-1) := by
  have hm := t.date_spec.1.1
  rw [Granularity.upper, addDate_date _ _ _ _ ⟨hm, le_rfl, daysIn_pos _ _ hm⟩, add_zero, add_zero]

theorem year_upper_eq :
    Granularity.year.upper t = (date (t.year + 1) 1 1 0 0 0 0 t.offset).add (-1) := by
  rw [Granularity.upper, addDate_date _ _ _ _ ⟨by decide, le_rfl, daysIn_pos _ _ (by decide)⟩,
    add_zero]

/-- The first and the last day count of the month of `t`. -/
theorem month_lower_abs :
    (Granularity.month.lower t).abs =
      ((daysSinceEpoch t.year + monthStart t.year t.month) * secondsPerDay - t.offset) *
        nanosecondsPerSecond := by
  have hm := t.date_spec.1.1
  rw [month_lower_eq, date_abs, show (t.month - 1) / 12 = 0 by omega,
    show (t.month - 1) % 12 + 1 = t.month by omega, add_zero, add_sub_cancel_right]

theorem month_upper_abs :
    (Granularity.month.upper t).abs =
      ((daysSinceEpoch t.year + monthStart t.year t.month + daysIn t.month t.year) * secondsPerDay -
        t.offset) * nanosecondsPerSecond - 1 := by
  rw [month_upper_eq, Time.add_abs, date_abs]
  simp only [add_sub_cancel_right]
  rw [monthStart_next _ _ t.date_spec.1.1]
  ring

theorem year_lower_abs :
    (Granularity.year.lower t).abs =
      (daysSinceEpoch t.year * secondsPerDay - t.offset) * nanosecondsPerSecond := by
  rw [year_lower_eq, date_abs]
  simp [monthStart, daysBefore]

theorem year_upper_abs :
    (Granularity.year.upper t).abs =
      ((daysSinceEpoch t.year + yearLength t.year) * secondsPerDay - t.offset) *
        nanosecondsPerSecond - 1 := by
  rw [year_upper_eq, Time.add_abs, date_abs, ← daysSinceEpoch_succ]
  simp [monthStart, daysBefore]
  ring

end Periods

section MonthsAndYears

variable (t t' : Time)

/-- Every instant lies between the `Lower` and the `Upper` of its month. -/
theorem month_lower_le_le_upper :
    (Granularity.month.lower t).abs ≤ t.abs ∧ t.abs ≤ (Granularity.month.upper t).abs := by
  obtain ⟨⟨-, hd1, hd2⟩, hd⟩ := t.date_spec
  have := (t.days_mem_iff (daysSinceEpoch t.year + monthStart t.year t.month)
    (daysSinceEpoch t.year + monthStart t.year t.month + daysIn t.month t.year)).1
      ⟨by omega, by omega⟩
  rw [month_lower_abs, month_upper_abs]
  omega

theorem year_lower_le_le_upper :
    (Granularity.year.lower t).abs ≤ t.abs ∧ t.abs ≤ (Granularity.year.upper t).abs := by
  obtain ⟨⟨hm, hd1, hd2⟩, hd⟩ := t.date_spec
  have := monthStart_add_daysIn_le t.year t.month hm
  have := monthStart_nonneg t.year t.month
  have := (t.days_mem_iff (daysSinceEpoch t.year) (daysSinceEpoch t.year + yearLength t.year)).1
    ⟨by omega, by omega⟩
  rw [year_lower_abs, year_upper_abs]
  omega

/-- At one offset, two instants get one `MONTH.Lower` exactly when they share year and month. -/
theorem month_lower_eq_iff_date (ho : t'.offset = t.offset) :
    Granularity.month.lower t' = Granularity.month.lower t ↔
      t'.year = t.year ∧ t'.month = t.month := by
  constructor
  · intro h
    have hm := t.date_spec.1.1
    have hm' := t'.date_spec.1.1
    have := congrArg Time.date h
    rw [month_lower_eq, month_lower_eq, date_midnight_date _ ⟨hm', le_rfl, daysIn_pos _ _ hm'⟩,
      date_midnight_date _ ⟨hm, le_rfl, daysIn_pos _ _ hm⟩] at this
    simpa using this
  · rintro ⟨hy, hm⟩
    rw [month_lower_eq, month_lower_eq, hy, hm, ho]

theorem year_lower_eq_iff_year (ho : t'.offset = t.offset) :
    Granularity.year.lower t' = Granularity.year.lower t ↔ t'.year = t.year := by
  have hv : ∀ y, ValidDate y 1 1 := fun y => ⟨by decide, le_rfl, daysIn_pos _ _ (by decide)⟩
  constructor
  · intro h
    have := congrArg Time.date h
    rw [year_lower_eq, year_lower_eq, date_midnight_date _ (hv _), date_midnight_date _ (hv _)] at this
    simpa using this
  · intro hy
    rw [year_lower_eq, year_lower_eq, hy, ho]

/-- The months partition the time line: at one offset, the instants with the `MONTH.Lower` of
`t` are exactly those from `Lower(t)` to `Upper(t)`. -/
theorem month_lower_eq_iff (ho : t'.offset = t.offset) :
    Granularity.month.lower t' = Granularity.month.lower t ↔
      (Granularity.month.lower t).abs ≤ t'.abs ∧ t'.abs ≤ (Granularity.month.upper t).abs := by
  rw [month_lower_eq_iff_date t t' ho]
  constructor
  · rintro ⟨hy, hm⟩
    have h := month_lower_le_le_upper t'
    rwa [month_lower_abs, month_upper_abs, hy, hm, ho, ← month_lower_abs, ← month_upper_abs] at h
  · intro h
    obtain ⟨hv, -⟩ := t.date_spec
    rw [month_lower_abs, month_upper_abs, ← ho] at h
    have hd := (t'.days_mem_iff (daysSinceEpoch t.year + monthStart t.year t.month)
      (daysSinceEpoch t.year + monthStart t.year t.month + daysIn t.month t.year)).2
        ⟨h.1, by omega⟩
    have := @Time.date_of_days t' t.year t.month
      (t'.days - (daysSinceEpoch t.year + monthStart t.year t.month) + 1)
      ⟨hv.1, by omega, by omega⟩ (by omega)
    exact ⟨congrArg (·.1) this, congrArg (·.2.1) this⟩

/-- The years partition the time line, as the months do. -/
theorem year_lower_eq_iff (ho : t'.offset = t.offset) :
    Granularity.year.lower t' = Granularity.year.lower t ↔
      (Granularity.year.lower t).abs ≤ t'.abs ∧ t'.abs ≤ (Granularity.year.upper t).abs := by
  rw [year_lower_eq_iff_year t t' ho]
  constructor
  · intro hy
    have h := year_lower_le_le_upper t'
    rwa [year_lower_abs, year_upper_abs, hy, ho, ← year_lower_abs, ← year_upper_abs] at h
  · intro h
    rw [year_lower_abs, year_upper_abs, ← ho] at h
    have hd := (t'.days_mem_iff (daysSinceEpoch t.year)
      (daysSinceEpoch t.year + yearLength t.year)).2 ⟨h.1, by omega⟩
    obtain ⟨hsum, -, -⟩ := yearDay_spec t'.days
    have := yearDay_daysSinceEpoch t.year (t'.days - daysSinceEpoch t.year) (by omega) (by omega)
    rw [add_sub_cancel] at this
    show (yearDay t'.days).1 = t.year
    rw [this]

/-- `MONTH` names two instants of one offset alike exactly when they share a `Lower`. -/
theorem month_format_eq_iff (ho : t'.offset = t.offset) :
    Granularity.month.format t' = Granularity.month.format t ↔
      Granularity.month.lower t' = Granularity.month.lower t := by
  rw [month_lower_eq_iff_date t t' ho, format_month, format_month, String.ext_iff]
  constructor
  · exact year_month_text_inj
  · rintro ⟨hy, hm⟩
    rw [hy, hm]

theorem year_format_eq_iff (ho : t'.offset = t.offset) :
    Granularity.year.format t' = Granularity.year.format t ↔
      Granularity.year.lower t' = Granularity.year.lower t := by
  rw [year_lower_eq_iff_year t t' ho, format_year, format_year, String.ext_iff]
  exact (appendInt_injective 4).eq_iff

end MonthsAndYears

section Days

variable (t t' : Time)

/-- The `DAY` name of an instant is its year and month: it tells days of one month apart
nowhere. -/
theorem day_format_eq_iff :
    Granularity.day.format t' = Granularity.day.format t ↔
      t'.year = t.year ∧ t'.month = t.month := by
  rw [format_day, format_day, String.ext_iff]
  constructor
  · intro h
    obtain ⟨hy, hm⟩ := List.append_inj' h (by simp [appendInt_month_length])
    exact ⟨appendInt_injective 4 hy,
      appendInt_injective 2 (List.append_inj' (List.cons_injective hm)
        (by simp [appendInt_month_length])).1⟩
  · rintro ⟨hy, hm⟩
    rw [hy, hm]

/-- Two days of one month get the same `DAY` name, yet lie in different days. -/
theorem day_format_ignores_day :
    Granularity.day.format (date 2020 1 1 0 0 0 0 0) =
        Granularity.day.format (date 2020 1 2 0 0 0 0 0) ∧
      Granularity.day.lower (date 2020 1 1 0 0 0 0 0) ≠
        Granularity.day.lower (date 2020 1 2 0 0 0 0 0) := by
  decide

/-- `DAY.Lower` is the UTC midnight at or before the instant, whatever its offset. -/
theorem day_lower_eq : Granularity.day.lower t = ⟨t.abs - t.abs % day24h, t.offset⟩ := by
  simp only [Granularity.lower, Time.truncate, day24h, secondsPerDay, nanosecondsPerSecond]
  rfl

/-- `DAY.Upper` is the last nanosecond of the local day, whatever the offset. -/
theorem day_upper_abs :
    (Granularity.day.upper t).abs =
      ((t.days + 1) * secondsPerDay - t.offset) * nanosecondsPerSecond - 1 := by
  obtain ⟨hv, hd⟩ := t.date_spec
  have hm := hv.1
  rw [Granularity.upper, addDate_date _ _ _ _ hv, Time.add_abs, date_abs,
    show (t.month + 0 - 1) / 12 = 0 by omega, show (t.month + 0 - 1) % 12 + 1 = t.month by omega,
    add_zero, add_zero, ← hd]
  ring

/-- Every instant lies between its `DAY.Lower` and its `DAY.Upper`. -/
theorem day_lower_le_le_upper :
    (Granularity.day.lower t).abs ≤ t.abs ∧ t.abs ≤ (Granularity.day.upper t).abs := by
  have := (t.days_mem_iff t.days (t.days + 1)).1 ⟨le_rfl, by omega⟩
  rw [day_lower_eq, day_upper_abs]
  simp only [day24h, secondsPerDay, nanosecondsPerSecond] at *
  omega

/-- At UTC the days partition the time line: the instants with the `DAY.Lower` of `t` are
exactly those from `Lower(t)` to `Upper(t)`. -/
theorem day_lower_eq_iff_utc (h0 : t.offset = 0) (h0' : t'.offset = 0) :
    Granularity.day.lower t' = Granularity.day.lower t ↔
      (Granularity.day.lower t).abs ≤ t'.abs ∧ t'.abs ≤ (Granularity.day.upper t).abs := by
  have hd : t.days = t.abs / day24h := by
    simp only [Time.days, Time.localSeconds, day24h, secondsPerDay, nanosecondsPerSecond, h0]
    omega
  rw [day_lower_eq, day_lower_eq, day_upper_abs, Time.mk.injEq, hd, h0, h0']
  simp only [day24h, secondsPerDay, nanosecondsPerSecond, and_true]
  omega

/-- At offset `+05:00`, `DAY.Lower` of 02:00 on January 1 is 05:00 on December 31, not the
local midnight, and the days of `Lower` and `Upper` do not partition the time line. -/
theorem day_lower_not_local_midnight :
    Granularity.day.lower (date 2020 1 1 2 0 0 0 18000) ≠ date 2020 1 1 0 0 0 0 18000 ∧
      Granularity.day.lower (Granularity.day.upper (date 2020 1 1 2 0 0 0 18000)) ≠
        Granularity.day.lower (date 2020 1 1 2 0 0 0 18000) := by
  decide

end Days

section Composition

variable (t t' : Time)

theorem validDate_first (year : Int) : ValidDate year 1 1 :=
  ⟨by decide, le_rfl, daysIn_pos _ _ (by decide)⟩

/-- The first instant of a month is its own `MONTH.Lower`. -/
theorem month_lower_date {year month : Int} (offset : Int) (hm : 1 ≤ month ∧ month ≤ 12) :
    Granularity.month.lower (date year month 1 0 0 0 0 offset) = date year month 1 0 0 0 0 offset := by
  have h := date_midnight_date offset (show ValidDate year month 1 from ⟨hm, le_rfl, daysIn_pos _ _ hm⟩)
  simp only [month_lower_eq, Time.year, Time.month, date_offset, h]

/-- The first instant of a year is its own `YEAR.Lower`. -/
theorem year_lower_date (year offset : Int) :
    Granularity.year.lower (date year 1 1 0 0 0 0 offset) = date year 1 1 0 0 0 0 offset := by
  simp only [year_lower_eq, Time.year, date_offset, date_midnight_date offset (validDate_first year)]

theorem month_lower_fields :
    (Granularity.month.lower t).year = t.year ∧ (Granularity.month.lower t).month = t.month ∧
      (Granularity.month.lower t).offset = t.offset := by
  have hm := t.date_spec.1.1
  have h := date_midnight_date t.offset (show ValidDate t.year t.month 1 from
    ⟨hm, le_rfl, daysIn_pos _ _ hm⟩)
  rw [month_lower_eq]
  exact ⟨congrArg (·.1) h, congrArg (·.2.1) h, rfl⟩

theorem year_lower_fields :
    (Granularity.year.lower t).year = t.year ∧ (Granularity.year.lower t).offset = t.offset := by
  rw [year_lower_eq]
  exact ⟨congrArg (·.1) (date_midnight_date t.offset (validDate_first t.year)), rfl⟩

theorem day_lower_lower : Granularity.day.lower (Granularity.day.lower t) = Granularity.day.lower t := by
  rw [day_lower_eq, day_lower_eq]
  refine Time.ext_abs ?_ rfl
  simp only [day24h, secondsPerDay, nanosecondsPerSecond]
  omega

/-- `Lower` is idempotent for `DAY`, `MONTH` and `YEAR`, and the `Upper` of a `Lower` is the
`Upper` of the instant, for `MONTH` and `YEAR`: a period's bounds depend on the period
only. -/
theorem lower_idempotent :
    Granularity.day.lower (Granularity.day.lower t) = Granularity.day.lower t ∧
      Granularity.month.lower (Granularity.month.lower t) = Granularity.month.lower t ∧
      Granularity.year.lower (Granularity.year.lower t) = Granularity.year.lower t ∧
      Granularity.month.upper (Granularity.month.lower t) = Granularity.month.upper t ∧
      Granularity.year.upper (Granularity.year.lower t) = Granularity.year.upper t := by
  obtain ⟨hmy, hmm, hmo⟩ := month_lower_fields t
  obtain ⟨hyy, hyo⟩ := year_lower_fields t
  refine ⟨day_lower_lower t, month_lower_date _ t.date_spec.1.1, year_lower_date _ _, ?_, ?_⟩
  · simp only [Granularity.upper, hmy, hmm, hmo]
  · simp only [Granularity.upper, hyy, hyo]

/-- A period's `Upper` lies in the period, and the nanosecond after it is the `Lower` of a
period, so that the next period starts there: the months and the years follow each other with
no gap and no overlap at every offset, and so do the days at UTC. -/
theorem upper_succ_lower :
    (Granularity.month.lower (Granularity.month.upper t) = Granularity.month.lower t ∧
      Granularity.month.lower ((Granularity.month.upper t).add 1) =
        (Granularity.month.upper t).add 1) ∧
    (Granularity.year.lower (Granularity.year.upper t) = Granularity.year.lower t ∧
      Granularity.year.lower ((Granularity.year.upper t).add 1) =
        (Granularity.year.upper t).add 1) ∧
    (t.offset = 0 →
      Granularity.day.lower (Granularity.day.upper t) = Granularity.day.lower t ∧
      Granularity.day.lower ((Granularity.day.upper t).add 1) =
        (Granularity.day.upper t).add 1) := by
  have hm := t.date_spec.1.1
  have hmb := month_lower_le_le_upper t
  have hyb := year_lower_le_le_upper t
  have hdb := day_lower_le_le_upper t
  refine ⟨⟨(month_lower_eq_iff t (Granularity.month.upper t) rfl).mpr ⟨hmb.1.trans hmb.2, le_rfl⟩, ?_⟩,
    ⟨(year_lower_eq_iff t (Granularity.year.upper t) rfl).mpr ⟨hyb.1.trans hyb.2, le_rfl⟩, ?_⟩,
    fun h0 => ⟨(day_lower_eq_iff_utc t (Granularity.day.upper t) h0 h0).mpr ⟨hdb.1.trans hdb.2, le_rfl⟩, ?_⟩⟩
  · rw [month_upper_eq, Time.add_add, Int.add_left_neg, Time.add_zero, date_normalize]
    exact month_lower_date _ (by omega)
  · rw [year_upper_eq, Time.add_add, Int.add_left_neg, Time.add_zero]
    exact year_lower_date _ _
  · have hu := day_upper_abs t
    rw [h0] at hu
    rw [day_lower_eq]
    refine Time.ext_abs ?_ rfl
    simp only [Time.add_abs, hu, day24h, secondsPerDay, nanosecondsPerSecond]
    omega

/-- Every instant lies between the `Lower` and the `Upper` of its day, its month and its year,
whatever its offset. -/
theorem lower_le_self_le_upper :
    ((Granularity.day.lower t).abs ≤ t.abs ∧ t.abs ≤ (Granularity.day.upper t).abs) ∧
      ((Granularity.month.lower t).abs ≤ t.abs ∧ t.abs ≤ (Granularity.month.upper t).abs) ∧
      ((Granularity.year.lower t).abs ≤ t.abs ∧ t.abs ≤ (Granularity.year.upper t).abs) :=
  ⟨day_lower_le_le_upper t, month_lower_le_le_upper t, year_lower_le_le_upper t⟩

/-- The periods partition the time line and their names tell them apart: at one offset, two
instants get the same `MONTH` name exactly when they share a `MONTH.Lower`, which happens
exactly when the second lies between the `Lower` and the `Upper` of the first, and likewise
for `YEAR`; at UTC, two instants share a `DAY.Lower` exactly when the second lies between the
`DAY.Lower` and the `DAY.Upper` of the first. -/
theorem periods_partition :
    (t'.offset = t.offset →
      (Granularity.month.format t' = Granularity.month.format t ↔
          Granularity.month.lower t' = Granularity.month.lower t) ∧
        (Granularity.month.lower t' = Granularity.month.lower t ↔
          (Granularity.month.lower t).abs ≤ t'.abs ∧ t'.abs ≤ (Granularity.month.upper t).abs) ∧
        (Granularity.year.format t' = Granularity.year.format t ↔
          Granularity.year.lower t' = Granularity.year.lower t) ∧
        (Granularity.year.lower t' = Granularity.year.lower t ↔
          (Granularity.year.lower t).abs ≤ t'.abs ∧ t'.abs ≤ (Granularity.year.upper t).abs)) ∧
      (t.offset = 0 → t'.offset = 0 →
        (Granularity.day.lower t' = Granularity.day.lower t ↔
          (Granularity.day.lower t).abs ≤ t'.abs ∧ t'.abs ≤ (Granularity.day.upper t).abs)) :=
  ⟨fun ho => ⟨month_format_eq_iff t t' ho, month_lower_eq_iff t t' ho, year_format_eq_iff t t' ho,
    year_lower_eq_iff t t' ho⟩, day_lower_eq_iff_utc t t'⟩

end Composition

end EventNative.Drivers
