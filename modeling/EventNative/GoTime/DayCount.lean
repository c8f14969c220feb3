import EventNative.GoTime.Calendar

/-!
# Day counts and calendar dates

`daysSinceEpoch` with the month table and `absDate` are inverse to each other.
Every day count is read as one year, one month in range and one day of that
month, and every such date is read back from the day count `Date` gives it.
The proofs follow Go's cycles of 400, 100, 4 and 1 years: a year is
`400 q + 100 c + 4 k + e + 1` with the cycle indices in range, and the month
table is read month by month.
-/

namespace EventNative.GoTime

/-- The days of `year`. -/
def yearLength (year : Int) : Int := if isLeap year then 366 else 365

/-- `daysIn`: the days of `month` in `year`. -/
def daysIn (month year : Int) : Int :=
  if month = 2 ∧ isLeap year then 29 else daysBefore month.toNat - daysBefore (month - 1).toNat

/-- The days of `year` before the first of `month`, as `Date` counts them. -/
def monthStart (year month : Int) : Int :=
  daysBefore (month - 1).toNat + if isLeap year ∧ month ≥ 3 then 1 else 0

/-- A month in range and a day of that month. -/
def ValidDate (year month day : Int) : Prop :=
  (1 ≤ month ∧ month ≤ 12) ∧ 1 ≤ day ∧ day ≤ daysIn month year

section Years

theorem isLeap_iff (year : Int) :
    isLeap year = true ↔ year % 4 = 0 ∧ (year % 100 ≠ 0 ∨ year % 400 = 0) := by
  simp [isLeap]

theorem daysSinceEpoch_eq (year : Int) :
    daysSinceEpoch year =
      365 * (year - 1) + (year - 1) / 4 - (year - 1) / 100 + (year - 1) / 400 := by
  simp only [daysSinceEpoch, daysPer400Years, daysPer100Years, daysPer4Years]
  omega

theorem daysSinceEpoch_succ (year : Int) :
    daysSinceEpoch (year + 1) = daysSinceEpoch year + yearLength year := by
  rw [daysSinceEpoch_eq, daysSinceEpoch_eq, yearLength, add_sub_cancel_right]
  by_cases h : isLeap year = true
  · rw [if_pos h]; rw [isLeap_iff] at h; omega
  · rw [if_neg h]; rw [isLeap_iff] at h; omega

theorem yearLength_ge (year : Int) : 365 ≤ yearLength year := by
  unfold yearLength; split <;> omega

/-- Day counts of later years start after the whole of earlier ones. -/
theorem daysSinceEpoch_add_le {y y' : Int} (h : y < y') :
    daysSinceEpoch y + yearLength y ≤ daysSinceEpoch y' := by
  obtain ⟨k, rfl⟩ : ∃ k : Nat, y' = y + 1 + k := ⟨(y' - y - 1).toNat, by omega⟩
  clear h
  induction k with
  | zero => simp [daysSinceEpoch_succ]
  | succ k ih =>
      have := yearLength_ge (y + 1 + k)
      rw [Nat.cast_succ, ← add_assoc, daysSinceEpoch_succ]
      omega

/-- The 100-year cycles of a 400-year cycle: three of 36524 days, then one of 36525. -/
private theorem century_split (r : Int) (h0 : 0 ≤ r) (h : r < 146097) :
    0 ≤ r / 36524 - r / 36524 / 4 ∧ r / 36524 - r / 36524 / 4 ≤ 3 ∧
      0 ≤ r - 36524 * (r / 36524 - r / 36524 / 4) ∧
      r - 36524 * (r / 36524 - r / 36524 / 4) ≤ 36524 ∧
      (r - 36524 * (r / 36524 - r / 36524 / 4) = 36524 → r / 36524 - r / 36524 / 4 = 3) := by
  omega

/-- The years of a 4-year cycle: three of 365 days, then one of 366. -/
private theorem year_split (r : Int) (h0 : 0 ≤ r) (h : r < 1461) :
    0 ≤ r / 365 - r / 365 / 4 ∧ r / 365 - r / 365 / 4 ≤ 3 ∧
      0 ≤ r - 365 * (r / 365 - r / 365 / 4) ∧
      r - 365 * (r / 365 - r / 365 / 4) ≤ 365 ∧
      (r - 365 * (r / 365 - r / 365 / 4) = 365 → r / 365 - r / 365 / 4 = 3) := by
  omega

section Cycles

variable (q c k e : Int) (hc : 0 ≤ c ∧ c ≤ 3) (hk : 0 ≤ k ∧ k ≤ 24) (he : 0 ≤ e ∧ e ≤ 3)
include hc hk he

theorem daysSinceEpoch_cycles :
    daysSinceEpoch (400 * q + 100 * c + 4 * k + e + 1) =
      146097 * q + 36524 * c + 1461 * k + 365 * e := by
  simp only [daysSinceEpoch, daysPer400Years, daysPer100Years, daysPer4Years]
  omega

theorem isLeap_cycles :
    isLeap (400 * q + 100 * c + 4 * k + e + 1) = true ↔ e = 3 ∧ (k = 24 → c = 3) := by
  simp only [isLeap, Bool.and_eq_true, Bool.or_eq_true, decide_eq_true_eq]
  omega

end Cycles

/-- `yearDay` cuts a day count into cycles, each index in range. -/
theorem yearDay_cycles (n : Int) : ∃ q c k e : Int,
    yearDay n =
        (400 * q + 100 * c + 4 * k + e + 1, n - (146097 * q + 36524 * c + 1461 * k + 365 * e)) ∧
      (0 ≤ c ∧ c ≤ 3) ∧ (0 ≤ k ∧ k ≤ 24) ∧ (0 ≤ e ∧ e ≤ 3) ∧
      0 ≤ n - (146097 * q + 36524 * c + 1461 * k + 365 * e) ∧
      n - (146097 * q + 36524 * c + 1461 * k + 365 * e) ≤ 365 ∧
      (n - (146097 * q + 36524 * c + 1461 * k + 365 * e) = 365 → e = 3 ∧ (k = 24 → c = 3)) := by
  simp only [yearDay, daysPer400Years, daysPer100Years, daysPer4Years]
  refine ⟨n / 146097, _, _, _, Prod.ext rfl ?_, ?_⟩
  · dsimp only; omega
  generalize hr1 : n - 146097 * (n / 146097) = r1
  obtain ⟨hc0, hc3, hr20, hr2, hr2c⟩ := century_split r1 (by omega) (by omega)
  generalize r1 / 36524 - r1 / 36524 / 4 = c at hc0 hc3 hr20 hr2 hr2c ⊢
  generalize hk : (r1 - 36524 * c) / 1461 = k
  have hk' : 0 ≤ k ∧ k ≤ 24 ∧ 0 ≤ r1 - 36524 * c - 1461 * k ∧
      r1 - 36524 * c - 1461 * k < 1461 ∧
      (k = 24 → r1 - 36524 * c - 1461 * k = r1 - 36524 * c - 35064) := by
    omega
  generalize hr3 : r1 - 36524 * c - 1461 * k = r3 at hk' ⊢
  obtain ⟨he0, he3, hy0, hy, hyc⟩ := year_split r3 hk'.2.2.1 hk'.2.2.2.1
  generalize r3 / 365 - r3 / 365 / 4 = e at he0 he3 hy0 hy hyc ⊢
  omega

/-- The year `yearDay` reads starts at most `yday` days before the count. -/
theorem yearDay_spec (n : Int) :
    daysSinceEpoch (yearDay n).1 + (yearDay n).2 = n ∧ 0 ≤ (yearDay n).2 ∧
      (yearDay n).2 < yearLength (yearDay n).1 := by
  obtain ⟨q, c, k, e, hy, hc, hk, he, h0, h1, hl⟩ := yearDay_cycles n
  rw [hy, daysSinceEpoch_cycles q c k e hc hk he, yearLength]
  split <;> rename_i h <;> simp only [isLeap_cycles q c k e hc hk he] at h <;> omega

theorem yearDay_daysSinceEpoch (year yday : Int) (h0 : 0 ≤ yday) (h1 : yday < yearLength year) :
    yearDay (daysSinceEpoch year + yday) = (year, yday) := by
  obtain ⟨hsum, hlo, hhi⟩ := yearDay_spec (daysSinceEpoch year + yday)
  have hy : (yearDay (daysSinceEpoch year + yday)).1 = year := by
    rcases lt_trichotomy (yearDay (daysSinceEpoch year + yday)).1 year with h | h | h
    · have := daysSinceEpoch_add_le h; omega
    · exact h
    · have := daysSinceEpoch_add_le h; omega
  exact Prod.ext hy (by rw [hy] at hsum; omega)

end Years

section Months

/-- The last lines of `absDate`: month and day of the `day`-th day of a common year. -/
def commonMonthDay (day : Int) : Int × Int :=
  let month := (day / 31).toNat
  let monthEnd := daysBefore (month + 1)
  if day ≥ monthEnd then (month + 2, day - monthEnd + 1)
  else (month + 1, day - daysBefore month + 1)

theorem monthDay_eq (year yday : Int) : monthDay year yday =
    if isLeap year ∧ yday = 31 + 29 - 1 then (2, 29)
    else commonMonthDay (if isLeap year ∧ yday > 31 + 29 - 1 then yday - 1 else yday) := rfl

theorem daysBefore_le {i j : Nat} (hij : i ≤ j) (hj : j ≤ 12) : daysBefore i ≤ daysBefore j := by
  have : ∀ j < 13, ∀ i < j + 1, daysBefore i ≤ daysBefore j := by decide
  exact this j (by omega) i (by omega)

theorem daysBefore_bounds (i : Nat) : 0 ≤ daysBefore i ∧ daysBefore i ≤ 365 := by
  unfold daysBefore; split <;> decide

/-- What the rest of the calendar needs to know of the table, month by month. -/
theorem daysBefore_month (M : Int) (h1 : 1 ≤ M) (h2 : M ≤ 12) :
    daysBefore (M - 1).toNat < daysBefore M.toNat ∧ (3 ≤ M ↔ 59 ≤ daysBefore (M - 1).toNat) ∧
      (M = 2 ↔ daysBefore (M - 1).toNat = 31) ∧ (M ≤ 2 → daysBefore M.toNat ≤ 59) ∧
      (M = 2 → daysBefore M.toNat = 59) := by
  obtain ⟨n, hn, rfl⟩ : ∃ n : Nat, n < 12 ∧ M = n + 1 := ⟨(M - 1).toNat, by omega, by omega⟩
  clear h1 h2
  revert n
  decide

/-- The table against the guess `day / 31` of `absDate`: month `i + 1` starts at most
`31 * i` days into the year, and month `i + 3` at least `31 * (i + 1)`. -/
theorem daysBefore_guess : ∀ i < 12, daysBefore i ≤ 31 * (i : Int) ∧
    (i < 11 → 31 * ((i : Int) + 1) ≤ daysBefore (i + 2)) ∧ (i = 11 → daysBefore (i + 1) = 365) := by
  decide

/-- The guess is the month or the one before it, and the table settles which. -/
theorem commonMonthDay_spec (day : Int) (h0 : 0 ≤ day) (h : day < 365) :
    1 ≤ (commonMonthDay day).1 ∧ (commonMonthDay day).1 ≤ 12 ∧
      daysBefore ((commonMonthDay day).1 - 1).toNat ≤ day ∧
      day < daysBefore (commonMonthDay day).1.toNat ∧
      (commonMonthDay day).2 = day - daysBefore ((commonMonthDay day).1 - 1).toNat + 1 := by
  dsimp only [commonMonthDay]
  generalize hi : (day / 31).toNat = i
  obtain ⟨hlo, hhi, h12⟩ := daysBefore_guess i (by omega)
  split
  · rw [show ((i : Int) + 2 - 1).toNat = i + 1 by omega, show ((i : Int) + 2).toNat = i + 2 by omega]
    omega
  · rw [show ((i : Int) + 1 - 1).toNat = i by omega, show ((i : Int) + 1).toNat = i + 1 by omega]
    omega

theorem commonMonthDay_of_mem (m day : Int) (hm : 1 ≤ m ∧ m ≤ 12)
    (hlo : daysBefore (m - 1).toNat ≤ day) (hhi : day < daysBefore m.toNat) :
    commonMonthDay day = (m, day - daysBefore (m - 1).toNat + 1) := by
  have h0 := (daysBefore_bounds (m - 1).toNat).1
  have h365 := (daysBefore_bounds m.toNat).2
  obtain ⟨h1, h2, h3, h4, h5⟩ := commonMonthDay_spec day (by omega) (by omega)
  have hM : (commonMonthDay day).1 = m := by
    rcases lt_trichotomy (commonMonthDay day).1 m with h | h | h
    · have := daysBefore_le (show (commonMonthDay day).1.toNat ≤ (m - 1).toNat by omega) (by omega)
      omega
    · exact h
    · have := daysBefore_le (show m.toNat ≤ ((commonMonthDay day).1 - 1).toNat by omega) (by omega)
      omega
  rw [← hM, ← h5]

theorem monthDay_spec (year yday : Int) (h0 : 0 ≤ yday) (h1 : yday < yearLength year) :
    ValidDate year (monthDay year yday).1 (monthDay year yday).2 ∧
      monthStart year (monthDay year yday).1 + (monthDay year yday).2 - 1 = yday := by
  rw [monthDay_eq]
  unfold yearLength at h1
  by_cases hl : isLeap year = true
  · rw [if_pos hl] at h1
    simp only [hl, true_and]
    split_ifs with hfeb hlate
    · simp [ValidDate, daysIn, monthStart, hl, daysBefore]; omega
    · obtain ⟨h1, h2, h3, h4, h5⟩ := commonMonthDay_spec (yday - 1) (by omega) (by omega)
      have := daysBefore_month _ h1 h2
      simp only [ValidDate, daysIn, monthStart, hl, and_true, true_and]
      split_ifs <;> omega
    · obtain ⟨h1, h2, h3, h4, h5⟩ := commonMonthDay_spec yday h0 (by omega)
      have := daysBefore_month _ h1 h2
      simp only [ValidDate, daysIn, monthStart, hl, and_true, true_and]
      split_ifs <;> omega
  · rw [if_neg hl] at h1
    rw [Bool.not_eq_true] at hl
    obtain ⟨h1, h2, h3, h4, h5⟩ := commonMonthDay_spec yday h0 h1
    simp only [ValidDate, daysIn, monthStart, hl, Bool.false_eq_true, and_false, false_and,
      if_false]
    omega

theorem monthDay_monthStart (year month day : Int) (hv : ValidDate year month day) :
    monthDay year (monthStart year month + day - 1) = (month, day) := by
  obtain ⟨⟨hm1, hm2⟩, hd1, hd2⟩ := hv
  have hb := daysBefore_month month hm1 hm2
  rw [monthDay_eq]
  unfold monthStart daysIn at *
  by_cases hl : isLeap year = true
  · simp only [hl, true_and, and_true] at hd2 ⊢
    split_ifs at hd2 ⊢ <;> try omega
    on_goal 2 => exact Prod.ext (by omega) (by omega)
    all_goals
      rw [commonMonthDay_of_mem month _ ⟨hm1, hm2⟩ (by omega) (by omega)]
      exact Prod.ext rfl (by omega)
  · rw [Bool.not_eq_true] at hl
    simp only [hl, Bool.false_eq_true, false_and, and_false, if_false] at hd2 ⊢
    rw [commonMonthDay_of_mem month _ ⟨hm1, hm2⟩ (by omega) (by omega)]
    exact Prod.ext rfl (by omega)

theorem daysIn_pos (year month : Int) (hm : 1 ≤ month ∧ month ≤ 12) : 1 ≤ daysIn month year := by
  have := daysBefore_month month hm.1 hm.2
  unfold daysIn; split <;> omega

theorem monthStart_add_daysIn_le (year month : Int) (hm : 1 ≤ month ∧ month ≤ 12) :
    monthStart year month + daysIn month year ≤ yearLength year := by
  have := daysBefore_month month hm.1 hm.2
  have := daysBefore_bounds month.toNat
  unfold monthStart daysIn yearLength
  cases isLeap year
  · simp only [Bool.false_eq_true, and_false, false_and, if_false]
    omega
  · simp only [and_true, true_and, if_true]
    split_ifs <;> omega

/-- The first of the month after `month`, as `Date` normalises month `month + 1`. -/
theorem monthStart_next (year month : Int) (hm : 1 ≤ month ∧ month ≤ 12) :
    daysSinceEpoch (year + month / 12) + monthStart (year + month / 12) (month % 12 + 1) =
      daysSinceEpoch year + monthStart year month + daysIn month year := by
  rcases (show month = 12 ∨ month < 12 by omega) with rfl | hlt
  · rw [show (12 : Int) / 12 = 1 by rfl, show (12 : Int) % 12 + 1 = 1 by rfl, daysSinceEpoch_succ]
    simp only [monthStart, daysIn, yearLength]
    cases isLeap year <;> simp [daysBefore] <;> omega
  · have := daysBefore_month month hm.1 hm.2
    rw [show month / 12 = 0 by omega, show month % 12 = month by omega, add_zero]
    simp only [monthStart, daysIn, add_sub_cancel_right]
    cases isLeap year
    · simp only [Bool.false_eq_true, and_false, false_and, if_false]
      omega
    · simp only [and_true, true_and]
      split_ifs <;> omega

end Months

section Instants

theorem monthStart_nonneg (year month : Int) : 0 ≤ monthStart year month := by
  have := daysBefore_bounds (month - 1).toNat
  unfold monthStart; split <;> omega

@[simp] theorem date_offset (year month day hour min sec nsec offset : Int) :
    (date year month day hour min sec nsec offset).offset = offset := rfl

/-- The instants of the local days from `first` up to `last`, excluded. -/
theorem Time.days_mem_iff (t : Time) (first last : Int) :
    first ≤ t.days ∧ t.days < last ↔
      (first * secondsPerDay - t.offset) * nanosecondsPerSecond ≤ t.abs ∧
        t.abs < (last * secondsPerDay - t.offset) * nanosecondsPerSecond := by
  simp only [Time.days, Time.localSeconds, secondsPerDay, nanosecondsPerSecond]
  omega

/-- A midnight `Date`, its month normalised as `Date` does. -/
theorem date_abs (year month day offset : Int) :
    (date year month day 0 0 0 0 offset).abs =
      ((daysSinceEpoch (year + (month - 1) / 12) +
            monthStart (year + (month - 1) / 12) ((month - 1) % 12 + 1) + day - 1) *
          secondsPerDay - offset) * nanosecondsPerSecond := by
  simp only [date, monthStart]
  ring

/-- The local clock of `Date`, for a month and a nanosecond in range. -/
theorem date_localSeconds (year month day hour min sec nsec offset : Int)
    (hm : 1 ≤ month ∧ month ≤ 12) (hn : 0 ≤ nsec ∧ nsec < nanosecondsPerSecond) :
    (date year month day hour min sec nsec offset).localSeconds =
      (daysSinceEpoch year + monthStart year month + day - 1) * secondsPerDay +
        hour * 3600 + min * 60 + sec := by
  have h1 : (month - 1) / 12 = 0 := by omega
  have h2 : (month - 1) % 12 + 1 = month := by omega
  simp only [date, Time.localSeconds, monthStart, h1, h2, add_zero]
  simp only [nanosecondsPerSecond, secondsPerDay] at *
  omega

section Clock

variable {year month day hour min sec nsec : Int} (offset : Int)
  (hm : 1 ≤ month ∧ month ≤ 12) (hn : 0 ≤ nsec ∧ nsec < nanosecondsPerSecond)
include hm hn

theorem date_days
    (hs : 0 ≤ hour * 3600 + min * 60 + sec ∧ hour * 3600 + min * 60 + sec < secondsPerDay) :
    (date year month day hour min sec nsec offset).days =
      daysSinceEpoch year + monthStart year month + day - 1 := by
  rw [Time.days, date_localSeconds _ _ _ _ _ _ _ _ hm hn]
  simp only [secondsPerDay] at *
  omega

theorem date_clock (hh : 0 ≤ hour ∧ hour < 24) (hmin : 0 ≤ min ∧ min < 60)
    (hsec : 0 ≤ sec ∧ sec < 60) :
    (date year month day hour min sec nsec offset).clock = (hour, min, sec) := by
  simp only [Time.clock, date_localSeconds _ _ _ _ _ _ _ _ hm hn, secondsPerDay, Prod.mk.injEq]
  omega

omit hm in
theorem date_nanosecond : (date year month day hour min sec nsec offset).nanosecond = nsec := by
  simp only [Time.nanosecond, date]
  simp only [nanosecondsPerSecond] at *
  omega

end Clock

/-- `Date()` reads a year, a month in range and a day of it from every instant. -/
theorem Time.date_spec (t : Time) :
    ValidDate t.year t.month t.day ∧
      daysSinceEpoch t.year + monthStart t.year t.month + t.day - 1 = t.days := by
  obtain ⟨hsum, h0, h1⟩ := yearDay_spec t.days
  obtain ⟨hv, hs⟩ := monthDay_spec _ _ h0 h1
  exact ⟨hv, by simp only [Time.year, Time.month, Time.day, Time.date]; omega⟩

/-- `Date()` gives back every valid date from its day count. -/
theorem Time.date_of_days (t : Time) {year month day : Int} (hv : ValidDate year month day)
    (h : t.days = daysSinceEpoch year + monthStart year month + day - 1) :
    t.date = (year, month, day) := by
  have := monthStart_add_daysIn_le year month hv.1
  have := monthStart_nonneg year month
  have hy : t.days = daysSinceEpoch year + (monthStart year month + day - 1) := by omega
  have hd := hv.2
  simp only [Time.date, hy,
    yearDay_daysSinceEpoch year (monthStart year month + day - 1) (by omega) (by omega),
    monthDay_monthStart _ _ _ hv]

theorem date_date {year month day hour min sec nsec : Int} (offset : Int)
    (hv : ValidDate year month day) (hn : 0 ≤ nsec ∧ nsec < nanosecondsPerSecond)
    (hs : 0 ≤ hour * 3600 + min * 60 + sec ∧ hour * 3600 + min * 60 + sec < secondsPerDay) :
    (date year month day hour min sec nsec offset).date = (year, month, day) :=
  Time.date_of_days _ hv (date_days offset hv.1 hn hs)

/-- `Date` normalises its month into `1..12`, carrying whole years. -/
theorem date_normalize (year month day hour min sec nsec offset : Int) :
    date year month day hour min sec nsec offset =
      date (year + (month - 1) / 12) ((month - 1) % 12 + 1) day hour min sec nsec offset := by
  have e1 : year + (month - 1) / 12 + ((month - 1) % 12 + 1 - 1) / 12 = year + (month - 1) / 12 := by
    omega
  have e2 : ((month - 1) % 12 + 1 - 1) % 12 + 1 = (month - 1) % 12 + 1 := by omega
  simp only [date, e1, e2]

section Midnight

variable {year month day : Int} (offset : Int)

theorem date_midnight_date (hv : ValidDate year month day) :
    (date year month day 0 0 0 0 offset).date = (year, month, day) :=
  date_date offset hv (by decide) (by decide)

theorem date_midnight_clock (hm : 1 ≤ month ∧ month ≤ 12) :
    (date year month day 0 0 0 0 offset).clock = (0, 0, 0) :=
  date_clock offset hm (by decide) (by decide) (by decide) (by decide)

theorem date_midnight_nanosecond : (date year month day 0 0 0 0 offset).nanosecond = 0 :=
  date_nanosecond offset (by decide)

end Midnight

end Instants

end EventNative.GoTime
