import GoCleanArch.GoRuntime
import Mathlib.Data.List.Iterate
import Mathlib.Logic.Function.Iterate

/-!
`TruncateTime` and `GenerateTimeSeries` of pkg/utils (time.go). A `time.Time` in UTC,
or in any zone at a fixed offset, is its civil date and the nanoseconds since
midnight; its instant is the count of nanoseconds from Go's zero time, January 1 of
year 1, in the proleptic Gregorian calendar, as `Before` and `Equal` compare it.
`AddDate` is `time.Date` of the moved fields: a month past December carries into
the year, and a day past the end of its month runs into the next month. Every
`AddDate` made here moves the day at most one past the end of a month, so one
carry settles it. Zones whose offset changes (daylight saving) are not modelled.
The loop runs with a fuel argument: with too little fuel it returns `none`.
-/

namespace GoCleanArch

/-! ### The calendar -/

def isLeap (year : Int) : Bool := year % 4 = 0 ∧ (year % 100 ≠ 0 ∨ year % 400 = 0)

def daysInMonth (leap : Bool) : Nat → Nat
  | 2 => if leap then 29 else 28
  | 4 | 6 | 9 | 11 => 30
  | _ => 31

-- The days of the year before the first of `month`.
def daysBeforeMonth (leap : Bool) (month : Nat) : Nat :=
  (match month with
    | 1 => 0 | 2 => 31 | 3 => 59 | 4 => 90 | 5 => 120 | 6 => 151
    | 7 => 181 | 8 => 212 | 9 => 243 | 10 => 273 | 11 => 304 | _ => 334) +
  if leap && 3 ≤ month then 1 else 0

-- The days from January 1 of year 1 to January 1 of `year`.
def daysBeforeYear (year : Int) : Int :=
  365 * (year - 1) + (year - 1) / 4 - (year - 1) / 100 + (year - 1) / 400

theorem daysInMonth_range (leap : Bool) (month : Nat) :
    28 ≤ daysInMonth leap month ∧ daysInMonth leap month ≤ 31 := by
  unfold daysInMonth
  split <;> (try split) <;> omega

theorem daysInMonth_of_ne_two {month : Nat} (other : month ≠ 2) (leap leap' : Bool) :
    daysInMonth leap month = daysInMonth leap' month := by
  unfold daysInMonth
  split <;> simp_all

theorem daysBeforeMonth_succ : ∀ (leap : Bool) (month : Nat), 1 ≤ month → month ≤ 11 →
    daysBeforeMonth leap (month + 1) = daysBeforeMonth leap month + daysInMonth leap month := by
  decide

@[simp] theorem daysBeforeMonth_one (leap : Bool) : daysBeforeMonth leap 1 = 0 := by
  cases leap <;> rfl

theorem ediv_eq_pred_ediv_add {d : Int} (pos : 0 < d) (y : Int) :
    y / d = (y - 1) / d + if y % d = 0 then 1 else 0 := by
  have parts := Int.emod_add_ediv y d
  have low := Int.emod_nonneg y (Int.ne_of_gt pos)
  have high := Int.emod_lt_of_pos y pos
  split
  · have below := (Int.ediv_emod_unique pos (a := y - 1) (q := y / d - 1) (r := d - 1)).mpr
      ⟨by rw [Int.mul_sub, Int.mul_one]; omega, by omega, by omega⟩
    omega
  · have same := (Int.ediv_emod_unique pos (a := y - 1) (q := y / d) (r := y % d - 1)).mpr
      ⟨by omega, by omega, by omega⟩
    omega

theorem daysBeforeYear_succ (year : Int) :
    daysBeforeYear (year + 1) = daysBeforeYear year + daysBeforeMonth (isLeap year) 12 +
      daysInMonth (isLeap year) 12 := by
  unfold daysBeforeYear
  rw [Int.add_sub_cancel, ediv_eq_pred_ediv_add (d := 4) (by decide),
    ediv_eq_pred_ediv_add (d := 100) (by decide), ediv_eq_pred_ediv_add (d := 400) (by decide)]
  generalize (year - 1) / 4 = a
  generalize (year - 1) / 100 = b
  generalize (year - 1) / 400 = c
  have common : ((daysBeforeMonth false 12 : Nat) : Int) + daysInMonth false 12 = 365 := by decide
  have leap : ((daysBeforeMonth true 12 : Nat) : Int) + daysInMonth true 12 = 366 := by decide
  by_cases four : year % 4 = 0 <;> by_cases hundred : year % 100 = 0 <;>
    by_cases fourHundred : year % 400 = 0 <;>
    simp only [isLeap, four, hundred, fourHundred, if_true, if_false, ne_eq, not_true_eq_false,
      not_false_eq_true, true_and, false_and, or_true, or_false, decide_True, decide_False] <;>
    omega

def nanosPerDay : Int := 86400000000000

/-! ### Civil times -/

@[ext]
structure CivilTime where
  year : Int
  month : Nat
  day : Nat
  nanos : Nat
  month_range : 1 ≤ month ∧ month ≤ 12
  day_range : 1 ≤ day ∧ day ≤ daysInMonth (isLeap year) month
  nanos_range : nanos < 86400000000000
  deriving DecidableEq

namespace CivilTime

-- The days from Go's zero time to the date.
def days (t : CivilTime) : Int :=
  daysBeforeYear t.year + daysBeforeMonth (isLeap t.year) t.month + t.day - 1

def toInstant (t : CivilTime) : Int := t.days * nanosPerDay + t.nanos

-- `t.Before(u)` and `t.Equal(u)`.
def before (t u : CivilTime) : Bool := after u.toInstant t.toInstant

def equal (t u : CivilTime) : Bool := decide (t.toInstant = u.toInstant)

@[simp] theorem before_or_equal (t u : CivilTime) :
    (t.before u || t.equal u) = decide (t.toInstant ≤ u.toInstant) := by
  simp only [before, equal, after, ← Bool.decide_or, Int.le_iff_lt_or_eq]

-- `time.Date(year, month, day, ...)` for a day at most one past the end of a month.
def date (year : Int) (month day nanos : Nat) (month_range : 1 ≤ month ∧ month ≤ 12)
    (day_range : 1 ≤ day ∧ day ≤ 32) (nanos_range : nanos < 86400000000000) : CivilTime :=
  have length := daysInMonth_range (isLeap year) month
  if fits : day ≤ daysInMonth (isLeap year) month then
    ⟨year, month, day, nanos, month_range, ⟨day_range.1, fits⟩, nanos_range⟩
  else if inYear : month < 12 then
    have next := daysInMonth_range (isLeap year) (month + 1)
    ⟨year, month + 1, day - daysInMonth (isLeap year) month, nanos, by omega, by omega, nanos_range⟩
  else
    have next := daysInMonth_range (isLeap (year + 1)) 1
    ⟨year + 1, 1, day - daysInMonth (isLeap year) month, nanos, by decide, by omega, nanos_range⟩

-- `t.AddDate(years, months, 0)`: the month carries into the year first.
def addDate (t : CivilTime) (years months : Int) : CivilTime :=
  have day := t.day_range.2.trans (daysInMonth_range (isLeap t.year) t.month).2
  date (t.year + years + ((t.month : Int) - 1 + months) / 12)
    ((((t.month : Int) - 1 + months) % 12).toNat + 1) t.day t.nanos
    ⟨by omega, by omega⟩ ⟨t.day_range.1, by omega⟩ t.nanos_range

def addDay (t : CivilTime) : CivilTime :=
  have day := t.day_range.2.trans (daysInMonth_range (isLeap t.year) t.month).2
  date t.year t.month (t.day + 1) t.nanos t.month_range ⟨by omega, by omega⟩ t.nanos_range

theorem date_of_fits {year : Int} {month day nanos : Nat} {month_range day_range nanos_range}
    (fits : day ≤ daysInMonth (isLeap year) month) :
    date year month day nanos month_range day_range nanos_range =
      ⟨year, month, day, nanos, month_range, ⟨day_range.1, fits⟩, nanos_range⟩ := by
  simp only [date, dif_pos fits]

theorem date_days (year : Int) (month day nanos : Nat) (month_range day_range nanos_range) :
    (date year month day nanos month_range day_range nanos_range).days =
      daysBeforeYear year + daysBeforeMonth (isLeap year) month + day - 1 := by
  unfold date
  split
  · rfl
  · rename_i over
    split
    · rename_i inYear
      simp only [days, daysBeforeMonth_succ _ month month_range.1 (by omega)]
      omega
    · have december : month = 12 := by omega
      subst december
      simp only [days, daysBeforeYear_succ, daysBeforeMonth_one]
      omega

@[simp] theorem date_nanos (year : Int) (month day nanos : Nat) (month_range day_range nanos_range) :
    (date year month day nanos month_range day_range nanos_range).nanos = nanos := by
  unfold date
  split
  · rfl
  · split <;> rfl

@[simp] theorem addDay_nanos (t : CivilTime) : t.addDay.nanos = t.nanos := by
  simp [addDay]

@[simp] theorem addDate_nanos (t : CivilTime) (years months : Int) :
    (t.addDate years months).nanos = t.nanos := by
  simp [addDate]

theorem addDay_days (t : CivilTime) : t.addDay.days = t.days + 1 := by
  rw [addDay, date_days, days]
  omega

theorem addDate_month_days (t : CivilTime) :
    (t.addDate 0 1).days = t.days + daysInMonth (isLeap t.year) t.month := by
  have month := t.month_range
  rw [addDate, date_days, days]
  by_cases december : t.month = 12
  · have year : t.year + 0 + ((t.month : Int) - 1 + 1) / 12 = t.year + 1 := by omega
    have first : (((t.month : Int) - 1 + 1) % 12).toNat + 1 = 1 := by omega
    have january := daysBeforeMonth_one (isLeap (t.year + 1))
    rw [year, first, january, daysBeforeYear_succ, december]
    omega
  · have year : t.year + 0 + ((t.month : Int) - 1 + 1) / 12 = t.year := by omega
    have next : (((t.month : Int) - 1 + 1) % 12).toNat + 1 = t.month + 1 := by omega
    rw [year, next, daysBeforeMonth_succ _ _ month.1 (by omega)]
    omega

-- Where the day fits the month it lands in, `AddDate` moves only the count of months.
theorem addDate_of_fits (t : CivilTime) (years months : Int)
    (fits : t.day ≤ daysInMonth (isLeap (t.year + years + ((t.month : Int) - 1 + months) / 12))
      ((((t.month : Int) - 1 + months) % 12).toNat + 1)) :
    (t.addDate years months).year * 12 + (t.addDate years months).month =
      (t.year + years) * 12 + t.month + months ∧ (t.addDate years months).day = t.day := by
  have month := t.month_range
  simp only [addDate, date_of_fits fits, and_true]
  omega

theorem eq_of_monthCount {a b : CivilTime} (months : a.year * 12 + a.month = b.year * 12 + b.month)
    (day : a.day = b.day) (nanos : a.nanos = b.nanos) : a = b := by
  have := a.month_range
  have := b.month_range
  ext <;> omega

theorem daysBeforeMonth_le_succ (leap leap' : Bool) (month : Nat) :
    daysBeforeMonth leap month ≤ daysBeforeMonth leap' month + 1 := by
  unfold daysBeforeMonth
  split_ifs <;> omega

theorem addDate_year_days_eq (t : CivilTime) :
    (t.addDate 1 0).days =
      daysBeforeYear (t.year + 1) + daysBeforeMonth (isLeap (t.year + 1)) t.month + t.day - 1 := by
  have month := t.month_range
  have year : t.year + 1 + ((t.month : Int) - 1 + 0) / 12 = t.year + 1 := by omega
  have same : (((t.month : Int) - 1 + 0) % 12).toNat + 1 = t.month := by omega
  rw [addDate, date_days, year, same]

theorem addDate_year_days (t : CivilTime) : t.days + 364 ≤ (t.addDate 1 0).days := by
  have december : 334 ≤ daysBeforeMonth (isLeap t.year) 12 := Nat.le_add_right _ _
  have := daysBeforeMonth_le_succ (isLeap t.year) (isLeap (t.year + 1)) t.month
  have : daysInMonth (isLeap t.year) 12 = 31 := rfl
  rw [addDate_year_days_eq, days, daysBeforeYear_succ]
  omega

end CivilTime

/-! ### The loop -/

-- The \x7b\x7d of the loop body: any other `groupBy` leaves `current` as it is.
def stepBy (groupBy : String) (current : CivilTime) : CivilTime :=
  match groupBy with
  | "day" => current.addDay
  | "month" => current.addDate 0 1
  | "year" => current.addDate 1 0
  | _ => current

def seriesLoop (toTime : CivilTime) (groupBy : String) : Nat → CivilTime → Option (List CivilTime)
  | 0, _ => none
  | fuel + 1, current =>
    if current.before toTime || current.equal toTime then
      (seriesLoop toTime groupBy fuel (stepBy groupBy current)).map (current :: ·)
    else some []

def generateTimeSeries (fromTime toTime : CivilTime) (groupBy : String) (fuel : Nat) :
    Option (List CivilTime) :=
  seriesLoop toTime groupBy fuel fromTime

-- `TruncateTime(t, groupBy)`: midnight of the day, of the first of the month or of
-- January 1; any other `groupBy` keeps `t`.
def truncateTime (t : CivilTime) (groupBy : String) : CivilTime :=
  have length := daysInMonth_range (isLeap t.year) t.month
  have january := daysInMonth_range (isLeap t.year) 1
  match groupBy with
  | "day" => ⟨t.year, t.month, t.day, 0, t.month_range, t.day_range, by decide⟩
  | "month" => ⟨t.year, t.month, 1, 0, t.month_range, ⟨Nat.le_refl 1, by omega⟩, by decide⟩
  | "year" => ⟨t.year, 1, 1, 0, by decide, ⟨Nat.le_refl 1, by omega⟩, by decide⟩
  | _ => t

@[simp] theorem stepBy_day (t : CivilTime) : stepBy "day" t = t.addDay := rfl

@[simp] theorem stepBy_month (t : CivilTime) : stepBy "month" t = t.addDate 0 1 := rfl

@[simp] theorem stepBy_year (t : CivilTime) : stepBy "year" t = t.addDate 1 0 := rfl

theorem stepBy_other {groupBy : String} (other : groupBy ∉ ["day", "month", "year"]) (t : CivilTime) :
    stepBy groupBy t = t := by
  unfold stepBy
  split <;> simp_all

theorem seriesLoop_succ (toTime : CivilTime) (groupBy : String) (fuel : Nat) (current : CivilTime) :
    seriesLoop toTime groupBy (fuel + 1) current =
      if current.toInstant ≤ toTime.toInstant then
        (seriesLoop toTime groupBy fuel (stepBy groupBy current)).map (current :: ·)
      else some [] := by
  simp only [seriesLoop, CivilTime.before_or_equal, decide_eq_true_eq]

theorem stepBy_advances {groupBy : String} (unit : groupBy ∈ ["day", "month", "year"])
    (t : CivilTime) : t.toInstant + nanosPerDay ≤ (stepBy groupBy t).toInstant := by
  have step : t.days + 1 ≤ (stepBy groupBy t).days ∧ (stepBy groupBy t).nanos = t.nanos := by
    simp only [List.mem_cons, List.mem_singleton, List.not_mem_nil, or_false] at unit
    rcases unit with rfl | rfl | rfl
    · exact ⟨(CivilTime.addDay_days t).ge, CivilTime.addDay_nanos t⟩
    · have := daysInMonth_range (isLeap t.year) t.month
      rw [stepBy_month, CivilTime.addDate_month_days]
      exact ⟨by omega, CivilTime.addDate_nanos t 0 1⟩
    · have := CivilTime.addDate_year_days t
      exact ⟨by rw [stepBy_year]; omega, CivilTime.addDate_nanos t 1 0⟩
  simp only [CivilTime.toInstant, nanosPerDay]
  omega

section Walk

variable {groupBy : String}
  (advances : ∀ t : CivilTime, t.toInstant + nanosPerDay ≤ (stepBy groupBy t).toInstant)
include advances

theorem toInstant_iterate_ge (t : CivilTime) (k : Nat) :
    t.toInstant + k * nanosPerDay ≤ ((stepBy groupBy)^[k] t).toInstant := by
  induction k with
  | zero => simp
  | succ k ih =>
    have := advances ((stepBy groupBy)^[k] t)
    rw [Function.iterate_succ_apply']
    unfold nanosPerDay at *
    omega

theorem seriesLoop_late {toTime current : CivilTime} (late : toTime.toInstant < current.toInstant) :
    (∀ k, k < 0 ↔ ((stepBy groupBy)^[k] current).toInstant ≤ toTime.toInstant) ∧
      ∀ fuel, 0 < fuel → seriesLoop toTime groupBy fuel current =
        some (List.iterate (stepBy groupBy) current 0) := by
  refine ⟨fun k => ?_, fun fuel enough => ?_⟩
  · have := toInstant_iterate_ge advances current k
    have : 0 ≤ (k : Int) * nanosPerDay := Int.mul_nonneg (Int.ofNat_nonneg k) (by decide)
    simp only [Nat.not_lt_zero, false_iff, Int.not_le]
    omega
  · obtain ⟨fuel, rfl⟩ : ∃ f, fuel = f + 1 := ⟨fuel - 1, by omega⟩
    rw [seriesLoop_succ, if_neg (Int.not_le.mpr late)]
    rfl

-- Within `bound` days of `toTime`, the loop returns the points of the walk up to it.
theorem seriesLoop_walk (toTime : CivilTime) (bound : Nat) :
    ∀ current : CivilTime, toTime.toInstant - current.toInstant < bound * nanosPerDay →
      ∃ n, (∀ k, k < n ↔ ((stepBy groupBy)^[k] current).toInstant ≤ toTime.toInstant) ∧
        ∀ fuel, n < fuel → seriesLoop toTime groupBy fuel current =
          some (List.iterate (stepBy groupBy) current n) := by
  induction bound with
  | zero =>
    intro current near
    exact ⟨0, seriesLoop_late advances (by unfold nanosPerDay at near; omega)⟩
  | succ bound ih =>
    intro current near
    by_cases due : current.toInstant ≤ toTime.toInstant
    · have := advances current
      obtain ⟨n, points, runs⟩ := ih (stepBy groupBy current) (by
        unfold nanosPerDay at *
        omega)
      refine ⟨n + 1, fun k => ?_, fun fuel enough => ?_⟩
      · cases k with
        | zero => simpa using due
        | succ k => rw [Function.iterate_succ_apply, ← points k]; omega
      · obtain ⟨fuel, rfl⟩ : ∃ f, fuel = f + 1 := ⟨fuel - 1, by omega⟩
        rw [seriesLoop_succ, if_pos due, runs fuel (by omega)]
        rfl
    · exact ⟨0, seriesLoop_late advances (Int.not_le.mp due)⟩

end Walk

-- Any other `groupBy` never moves `current`, so a loop that starts never stops.
theorem seriesLoop_stuck {groupBy : String} (other : groupBy ∉ ["day", "month", "year"])
    {toTime current : CivilTime} (due : current.toInstant ≤ toTime.toInstant) :
    ∀ fuel, seriesLoop toTime groupBy fuel current = none := by
  intro fuel
  induction fuel with
  | zero => rfl
  | succ fuel ih => rw [seriesLoop_succ, if_pos due, stepBy_other other, ih]; rfl

-- `TruncateTime` returns the start of the day, the month or the year that holds `t`.
theorem truncateTime_bounds {groupBy : String} (unit : groupBy ∈ ["day", "month", "year"])
    (t : CivilTime) :
    (truncateTime t groupBy).toInstant ≤ t.toInstant ∧
      t.toInstant < (stepBy groupBy (truncateTime t groupBy)).toInstant := by
  have start : (truncateTime t groupBy).days ≤ t.days ∧
      t.days < (stepBy groupBy (truncateTime t groupBy)).days ∧
      (truncateTime t groupBy).nanos = 0 ∧ (stepBy groupBy (truncateTime t groupBy)).nanos = 0 := by
    have day := t.day_range
    simp only [List.mem_cons, List.mem_singleton, List.not_mem_nil, or_false] at unit
    rcases unit with rfl | rfl | rfl
    · exact ⟨le_rfl, by rw [stepBy_day, CivilTime.addDay_days]; exact Int.lt_succ t.days, rfl,
        CivilTime.addDay_nanos _⟩
    · refine ⟨?_, ?_, rfl, CivilTime.addDate_nanos _ 0 1⟩
      · simp only [truncateTime, CivilTime.days]
        omega
      · rw [stepBy_month, CivilTime.addDate_month_days]
        simp only [truncateTime, CivilTime.days]
        omega
    · have before : ∀ leap month, 1 ≤ month → month ≤ 12 →
          daysBeforeMonth leap month + daysInMonth leap month ≤ daysBeforeMonth leap 12 + 31 := by
        decide
      have := before (isLeap t.year) t.month t.month_range.1 t.month_range.2
      refine ⟨?_, ?_, rfl, CivilTime.addDate_nanos _ 1 0⟩
      · simp only [truncateTime, CivilTime.days, daysBeforeMonth_one]
        omega
      · rw [stepBy_year, CivilTime.addDate_year_days_eq]
        simp only [truncateTime, daysBeforeMonth_one, daysBeforeYear_succ, CivilTime.days]
        have : daysInMonth (isLeap t.year) 12 = 31 := rfl
        omega
  have := t.nanos_range
  simp only [CivilTime.toInstant, nanosPerDay, start.2.2.1, start.2.2.2]
  omega

/-! ### The walk of each unit -/

theorem iterate_day_toInstant (t : CivilTime) (k : Nat) :
    ((stepBy "day")^[k] t).toInstant = t.toInstant + k * nanosPerDay := by
  induction k with
  | zero => simp
  | succ k ih =>
    rw [Function.iterate_succ_apply', stepBy_day]
    simp only [CivilTime.toInstant, CivilTime.addDay_days, CivilTime.addDay_nanos] at ih ⊢
    unfold nanosPerDay at *
    omega

-- A day that every month has never runs over, so `k` one-month steps are one
-- `k`-month step.
theorem iterate_month (t : CivilTime) (early : t.day ≤ 28) (k : Nat) :
    (stepBy "month")^[k] t = t.addDate 0 k := by
  have fits := fun (u : CivilTime) (months : Int) (early : u.day ≤ 28) =>
    u.addDate_of_fits 0 months (early.trans (daysInMonth_range _ _).1)
  induction k with
  | zero =>
    obtain ⟨months, day⟩ := fits t (0 : Nat) early
    rw [Function.iterate_zero_apply]
    exact CivilTime.eq_of_monthCount (by omega) day.symm (CivilTime.addDate_nanos ..).symm
  | succ k ih =>
    rw [Function.iterate_succ_apply', ih, stepBy_month]
    obtain ⟨months, day⟩ := fits t k early
    obtain ⟨months', day'⟩ := fits (t.addDate 0 k) 1 (day ▸ early)
    obtain ⟨months'', day''⟩ := fits t (k + 1 : Nat) early
    exact CivilTime.eq_of_monthCount (by omega) (day'.trans (day.trans day''.symm))
      (by simp only [CivilTime.addDate_nanos])

-- Away from February 29 the day fits its month in every year, so `k` one-year
-- steps are one `k`-year step.
theorem iterate_year (t : CivilTime) (notLeapDay : ¬(t.month = 2 ∧ t.day = 29)) (k : Nat) :
    (stepBy "year")^[k] t = t.addDate k 0 := by
  have fits : ∀ (u : CivilTime) (years : Int), u.month = t.month → u.day = t.day →
      (u.addDate years 0).year * 12 + (u.addDate years 0).month = (u.year + years) * 12 + u.month + 0 ∧
        (u.addDate years 0).day = u.day := by
    intro u years sameMonth sameDay
    have month := u.month_range
    have year : u.year + years + ((u.month : Int) - 1 + 0) / 12 = u.year + years := by omega
    have same : (((u.month : Int) - 1 + 0) % 12).toNat + 1 = u.month := by omega
    have length := daysInMonth_range (isLeap (u.year + years)) u.month
    have day := u.day_range.2
    refine u.addDate_of_fits years 0 ?_
    rw [year, same]
    by_cases february : u.month = 2
    · have short : ∀ leap, 28 ≤ daysInMonth leap 2 ∧ daysInMonth leap 2 ≤ 29 := by decide
      have := short (isLeap u.year)
      have := short (isLeap (u.year + years))
      rw [february] at day ⊢
      omega
    · rwa [daysInMonth_of_ne_two february _ (isLeap u.year)]
  induction k with
  | zero =>
    obtain ⟨months, day⟩ := fits t (0 : Nat) rfl rfl
    rw [Function.iterate_zero_apply]
    exact CivilTime.eq_of_monthCount (by omega) day.symm (CivilTime.addDate_nanos ..).symm
  | succ k ih =>
    rw [Function.iterate_succ_apply', ih, stepBy_year]
    obtain ⟨months, day⟩ := fits t k rfl rfl
    have sameMonth : (t.addDate k 0).month = t.month := by
      have := (t.addDate k 0).month_range
      have := t.month_range
      omega
    obtain ⟨months', day'⟩ := fits (t.addDate k 0) 1 sameMonth day
    obtain ⟨months'', day''⟩ := fits t (k + 1 : Nat) rfl rfl
    exact CivilTime.eq_of_monthCount (by omega) (day'.trans (day.trans day''.symm))
      (by simp only [CivilTime.addDate_nanos])

/-! ### The series -/

-- For a unit, the series is the walk of one-unit steps from `fromTime`, strictly
-- increasing, up to the last point not after `toTime`, and enough fuel returns it. A
-- day step is 24 hours; a month or a year step is `AddDate` of `k` units only while
-- the day fits each month on the way. Any other `groupBy` never stops once it starts.
theorem generate_time_series_walk (fromTime toTime : CivilTime) (groupBy : String) :
    (groupBy ∈ ["day", "month", "year"] →
      (∀ k, ((stepBy groupBy)^[k] fromTime).toInstant <
        ((stepBy groupBy)^[k + 1] fromTime).toInstant) ∧
      ∃ n, (∀ k, k < n ↔ ((stepBy groupBy)^[k] fromTime).toInstant ≤ toTime.toInstant) ∧
        ∀ fuel, n < fuel → generateTimeSeries fromTime toTime groupBy fuel =
          some (List.iterate (stepBy groupBy) fromTime n)) ∧
    (∀ k : Nat, ((stepBy "day")^[k] fromTime).toInstant = fromTime.toInstant + k * nanosPerDay) ∧
    (fromTime.day ≤ 28 → ∀ k : Nat, (stepBy "month")^[k] fromTime = fromTime.addDate 0 k) ∧
    (¬(fromTime.month = 2 ∧ fromTime.day = 29) →
      ∀ k : Nat, (stepBy "year")^[k] fromTime = fromTime.addDate k 0) ∧
    (groupBy ∉ ["day", "month", "year"] → fromTime.toInstant ≤ toTime.toInstant →
      ∀ fuel, generateTimeSeries fromTime toTime groupBy fuel = none) := by
  refine ⟨fun unit => ⟨fun k => ?_, ?_⟩, iterate_day_toInstant fromTime, iterate_month fromTime,
    iterate_year fromTime, fun other due => seriesLoop_stuck other due⟩
  · have := stepBy_advances unit ((stepBy groupBy)^[k] fromTime)
    rw [Function.iterate_succ_apply']
    unfold nanosPerDay at this
    omega
  · refine seriesLoop_walk (stepBy_advances unit) toTime
      ((toTime.toInstant - fromTime.toInstant).toNat + 1) fromTime ?_
    unfold nanosPerDay
    omega

-- By month from January 15 to March 20 2023, enough fuel gives January 15, February 15
-- and March 15.
theorem generate_time_series_walk_by_month :
    ∀ fuel, 3 < fuel →
      generateTimeSeries ⟨2023, 1, 15, 0, by decide, by decide, by decide⟩
          ⟨2023, 3, 20, 0, by decide, by decide, by decide⟩ "month" fuel =
        some [⟨2023, 1, 15, 0, by decide, by decide, by decide⟩,
          ⟨2023, 2, 15, 0, by decide, by decide, by decide⟩,
          ⟨2023, 3, 15, 0, by decide, by decide, by decide⟩] := by
  obtain ⟨n, bound, series⟩ := ((generate_time_series_walk
    ⟨2023, 1, 15, 0, by decide, by decide, by decide⟩
    ⟨2023, 3, 20, 0, by decide, by decide, by decide⟩ "month").1 (by decide)).2
  have three : n = 3 :=
    le_antisymm (not_lt.mp fun past => absurd ((bound 3).mp past) (by decide)) ((bound 2).mpr (by decide))
  subst three
  intro fuel enough
  rw [series fuel enough]
  decide

-- By month from January 31 to March 31 2023 the series is January 31 and March 3, and
-- misses March 31, two months on. By year from February 29 2024 to February 29 2028 it
-- steps to March 1 and misses February 29 2028, four years on. By week a series that
-- starts never stops.
theorem generate_time_series_drifts :
    generateTimeSeries ⟨2023, 1, 31, 0, by decide, by decide, by decide⟩
        ⟨2023, 3, 31, 0, by decide, by decide, by decide⟩ "month" 3 =
      some [⟨2023, 1, 31, 0, by decide, by decide, by decide⟩,
        ⟨2023, 3, 3, 0, by decide, by decide, by decide⟩] ∧
    CivilTime.addDate ⟨2023, 1, 31, 0, by decide, by decide, by decide⟩ 0 2 =
      ⟨2023, 3, 31, 0, by decide, by decide, by decide⟩ ∧
    generateTimeSeries ⟨2024, 2, 29, 0, by decide, by decide, by decide⟩
        ⟨2028, 2, 29, 0, by decide, by decide, by decide⟩ "year" 5 =
      some [⟨2024, 2, 29, 0, by decide, by decide, by decide⟩,
        ⟨2025, 3, 1, 0, by decide, by decide, by decide⟩,
        ⟨2026, 3, 1, 0, by decide, by decide, by decide⟩,
        ⟨2027, 3, 1, 0, by decide, by decide, by decide⟩] ∧
    CivilTime.addDate ⟨2024, 2, 29, 0, by decide, by decide, by decide⟩ 4 0 =
      ⟨2028, 2, 29, 0, by decide, by decide, by decide⟩ ∧
    ∀ fuel, generateTimeSeries ⟨2023, 1, 1, 0, by decide, by decide, by decide⟩
      ⟨2023, 1, 1, 0, by decide, by decide, by decide⟩ "week" fuel = none :=
  ⟨by decide, by decide, by decide, by decide, seriesLoop_stuck (by decide) (Int.le_refl _)⟩

end GoCleanArch
