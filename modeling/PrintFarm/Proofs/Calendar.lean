import Mathlib
import PrintFarm.Timestamp.Basic

/-!
# The order of days

A later day has a later date (`Date.key_ofDays_lt`).  Years begin in March for the count, so a day
is taken apart into an era of 400 years, a year of the era and a day of the year, and each of these
steps keeps the order of days.

* `Date.firstDay_yearOfEra` places a day in its year, century by century.
* `Date.monthKey` is the rest of the date, with January and February behind all other months.
-/

namespace PrintFarm

namespace Date

/-- The date as one number, of which the last four digits are month and day. -/
def key (d : Date) : Int :=
  d.year * 10000 + d.month * 100 + d.day

/-! ## Years -/

/-- The year of an era that a day of the era is in. -/
def yearOfEra (dayOfEra : Int) : Int :=
  (dayOfEra - dayOfEra / 1460 + dayOfEra / 36524 - dayOfEra / 146096) / 365

/-- The first day of a year of an era. -/
def firstDay (year : Int) : Int :=
  365 * year + year / 4 - year / 100

/-- In a century there is a leap day for every four years that are over. -/
theorem firstDay_of_century {day century : Int} (hfirst : 0 ≤ century) (hlast : century < 4)
    (hbegin : 36524 * century ≤ day) (hend : day < 36524 * century + 36524) :
    let year := (day - day / 1460 + century) / 365
    year / 100 = century ∧ firstDay year ≤ day ∧ day ≤ firstDay year + 365 := by
  intro year
  have hyear : 365 * year ≤ day - day / 1460 + century ∧
      day - day / 1460 + century ≤ 365 * year + 364 := by omega
  have hcentury : year / 100 = century := by omega
  have hleap : year / 4 ≤ day / 1460 ∧ day / 1460 ≤ year / 4 + 1 := by omega
  refine ⟨hcentury, ?_, ?_⟩
  · unfold firstDay
    omega
  · unfold firstDay
    omega

/-- A day of an era is within its year. -/
theorem firstDay_yearOfEra {day : Int} (hbegin : 0 ≤ day) (hend : day < 146097) :
    0 ≤ yearOfEra day ∧ yearOfEra day < 400 ∧ firstDay (yearOfEra day) ≤ day ∧
      day ≤ firstDay (yearOfEra day) + 365 := by
  unfold yearOfEra
  by_cases hlast : day = 146096
  · -- the leap day that ends the era
    subst hlast
    decide
  · obtain ⟨hcentury, hfirst, hwithin⟩ := @firstDay_of_century day (day / 36524)
      (by omega) (by omega) (by omega) (by omega)
    rw [(by omega : day / 146096 = 0), Int.sub_zero]
    exact ⟨by omega, by omega, hfirst, hwithin⟩

/-- Later days are not in earlier years. -/
theorem yearOfEra_mono {m n : Int} (h : m ≤ n) : yearOfEra m ≤ yearOfEra n := by
  have hnext : ∀ day, yearOfEra day ≤ yearOfEra (day + 1) := fun day =>
    Int.ediv_le_ediv (by decide) (by omega)
  exact monotone_int_of_le_succ hnext h

/-! ## Months -/

/-- Month and day as one number, counted from the beginning of the year before January. -/
def monthKey (dayOfYear : Int) : Int :=
  let month := (5 * dayOfYear + 2) / 153
  (month + 3 + if month < 10 then 0 else 88) * 100 +
    (dayOfYear - (153 * month + 2) / 5 + 1)

/-- Months have at most 31 days. -/
theorem dayOfMonth_bounds (day : Int) :
    1 ≤ day - (153 * ((5 * day + 2) / 153) + 2) / 5 + 1 ∧
      day - (153 * ((5 * day + 2) / 153) + 2) / 5 + 1 ≤ 31 := by
  omega

theorem monthKey_bounds {day : Int} (hbegin : 0 ≤ day) (hend : day ≤ 365) :
    301 ≤ monthKey day ∧ monthKey day ≤ 10231 := by
  have hday := dayOfMonth_bounds day
  have hmonth : 0 ≤ (5 * day + 2) / 153 ∧ (5 * day + 2) / 153 ≤ 11 := by omega
  dsimp only [monthKey]
  split <;> omega

theorem monthKey_lt {m n : Int} (h : m < n) : monthKey m < monthKey n := by
  have hm := dayOfMonth_bounds m
  have hn := dayOfMonth_bounds n
  have hmonths : (5 * m + 2) / 153 ≤ (5 * n + 2) / 153 := Int.ediv_le_ediv (by decide) (by omega)
  dsimp only [monthKey]
  by_cases hmonth : (5 * m + 2) / 153 = (5 * n + 2) / 153
  · rw [hmonth]
    omega
  · split <;> split <;> omega

/-! ## Dates -/

/-- The date of a day in a year that begins in March. -/
def ofDayOfYear (year dayOfYear : Int) : Date :=
  let monthFromMarch := (5 * dayOfYear + 2) / 153
  let month := if monthFromMarch < 10 then monthFromMarch + 3 else monthFromMarch - 9
  ⟨year + (if month ≤ 2 then 1 else 0), month.toNat,
    (dayOfYear - (153 * monthFromMarch + 2) / 5 + 1).toNat⟩

theorem ofDays_eq (days : Int) :
    let day := (days + daysToEpoch) % daysPerEra
    ofDays days = ofDayOfYear (yearOfEra day + (days + daysToEpoch) / daysPerEra * 400)
      (day - firstDay (yearOfEra day)) :=
  rfl

/-- The months of a date are at most twelve, and its days at most 31. -/
theorem ofDayOfYear_bounds (year : Int) {day : Int} (hbegin : 0 ≤ day) (hend : day ≤ 365) :
    1 ≤ (ofDayOfYear year day).month ∧ (ofDayOfYear year day).month ≤ 12 ∧
      1 ≤ (ofDayOfYear year day).day ∧ (ofDayOfYear year day).day ≤ 31 := by
  have hday := dayOfMonth_bounds day
  have hmonth : 0 ≤ (5 * day + 2) / 153 ∧ (5 * day + 2) / 153 ≤ 11 := by omega
  dsimp only [ofDayOfYear]
  split <;> omega

theorem key_ofDayOfYear (year : Int) {day : Int} (hbegin : 0 ≤ day) (hend : day ≤ 365) :
    (ofDayOfYear year day).key = year * 10000 + monthKey day := by
  have hday := dayOfMonth_bounds day
  have hmonth : 0 ≤ (5 * day + 2) / 153 ∧ (5 * day + 2) / 153 ≤ 11 := by omega
  dsimp only [ofDayOfYear, key, monthKey]
  by_cases hspring : (5 * day + 2) / 153 < 10
  · rw [if_pos hspring, if_pos hspring, if_neg (by omega)]
    omega
  · rw [if_neg hspring, if_neg hspring, if_pos (by omega)]
    omega

theorem ofDays_bounds (days : Int) : (ofDays days).month ≤ 12 ∧ (ofDays days).day ≤ 31 := by
  obtain ⟨-, -, hfirst, hlast⟩ := firstDay_yearOfEra
    (Int.emod_nonneg (days + daysToEpoch) (by decide : daysPerEra ≠ 0))
    (Int.emod_lt_of_pos (days + daysToEpoch) (by decide : 0 < daysPerEra))
  obtain ⟨-, hmonth, -, hday⟩ := ofDayOfYear_bounds
    (yearOfEra ((days + daysToEpoch) % daysPerEra) + (days + daysToEpoch) / daysPerEra * 400)
    (Int.sub_nonneg_of_le hfirst) (Int.sub_left_le_of_le_add hlast)
  exact ⟨hmonth, hday⟩

/-- A later day has a later date. -/
theorem key_ofDays_lt {m n : Int} (h : m < n) : (ofDays m).key < (ofDays n).key := by
  have hbounds : ∀ days : Int, 0 ≤ (days + daysToEpoch) % daysPerEra ∧
      (days + daysToEpoch) % daysPerEra < 146097 :=
    fun days => ⟨Int.emod_nonneg _ (by decide), Int.emod_lt_of_pos _ (by decide)⟩
  have hm := firstDay_yearOfEra (hbounds m).1 (hbounds m).2
  have hn := firstDay_yearOfEra (hbounds n).1 (hbounds n).2
  have hera : (m + daysToEpoch) / daysPerEra ≤ (n + daysToEpoch) / daysPerEra :=
    Int.ediv_le_ediv (by decide) (by omega)
  have hsame : (m + daysToEpoch) / daysPerEra = (n + daysToEpoch) / daysPerEra →
      (m + daysToEpoch) % daysPerEra < (n + daysToEpoch) % daysPerEra := by
    unfold daysPerEra daysToEpoch
    omega
  rw [ofDays_eq, ofDays_eq, key_ofDayOfYear _ (by omega) (by omega),
    key_ofDayOfYear _ (by omega) (by omega)]
  generalize (m + daysToEpoch) % daysPerEra = a at *
  generalize (n + daysToEpoch) % daysPerEra = b at *
  generalize (m + daysToEpoch) / daysPerEra = e at *
  generalize (n + daysToEpoch) / daysPerEra = f at *
  have hkey := @monthKey_bounds (a - firstDay (yearOfEra a)) (by omega) (by omega)
  have hkey' := @monthKey_bounds (b - firstDay (yearOfEra b)) (by omega) (by omega)
  by_cases hyears : yearOfEra a + e * 400 = yearOfEra b + f * 400
  · -- one year, so the day of the year is later
    obtain rfl : e = f := by omega
    have hyear : yearOfEra a = yearOfEra b := by omega
    have hlt := hsame rfl
    have hmonth := @monthKey_lt (a - firstDay (yearOfEra a)) (b - firstDay (yearOfEra b))
      (by rw [hyear]; omega)
    omega
  · have hmono : e = f → yearOfEra a ≤ yearOfEra b := fun h => yearOfEra_mono (hsame h).le
    omega

end Date

end PrintFarm
