/-
Dates and their numbers.

Years and months are counted from March here, so that a leap day is the
last of its year: then a year has a place in its cycle of 400 years, and a
day one in its year, which do not depend on each other. Both are read off
the number again (`yearOfCycle_eq`, `monthOfDay_eq`), so the date of a
date's number is that date (`ofNumber?_number`). The years of a cycle follow
each other without gaps, and so do the months of a year: no number is left
out (`exists_number`).
-/
import Mathlib.Order.Monotone.Basic
import Mathlib.Tactic.IntervalCases
import ParamQuery.Calendar.Date

namespace ParamQuery.Calendar.Date

/-! ## Years of a cycle -/

/-- The days of a cycle that come before its year `y`. -/
def daysBefore (y : Nat) : Nat := 365 * y + y / 4 - y / 100

/-- The last day of the year `y` of a cycle, counted from zero. It is the 29th of February if the
year that has begun in January is a leap year. -/
def lastDay (y : Nat) : Nat := if isLeap (y + 1) then 365 else 364

theorem monotone_yearOfCycle : Monotone yearOfCycle := by
  refine monotone_nat_of_le_succ fun n => Nat.div_le_div_right ?_
  omega

/-- The first and the last day of each year of a cycle are in that year and in the cycle. -/
theorem yearOfCycle_ends :
    ∀ y < 400, yearOfCycle (daysBefore y) = y ∧ yearOfCycle (daysBefore y + lastDay y) = y ∧
      daysBefore y + lastDay y < 146097 := by
  decide +kernel

/-- So all days of a year are in that year. -/
theorem yearOfCycle_eq {y n : Nat} (hy : y < 400) (hn : n ≤ lastDay y) :
    yearOfCycle (daysBefore y + n) = y := by
  obtain ⟨hfirst, hlast, -⟩ := yearOfCycle_ends y hy
  have hbelow : yearOfCycle (daysBefore y) ≤ yearOfCycle (daysBefore y + n) :=
    monotone_yearOfCycle (by omega)
  have habove : yearOfCycle (daysBefore y + n) ≤ yearOfCycle (daysBefore y + lastDay y) :=
    monotone_yearOfCycle (by omega)
  omega

/-! ## Days of a year -/

/-- The first day of the month `m` in its year. -/
def firstOfMonth (m : Nat) : Nat := (153 * m + 2) / 5

theorem monthOfDay_eq {m k : Nat} (h : k < firstOfMonth (m + 1) - firstOfMonth m) :
    (5 * (firstOfMonth m + k) + 2) / 153 = m := by
  unfold firstOfMonth at *
  omega

/-! ## The parts of a date -/

/-- The year, counted from March. -/
def marchYear (d : Date) : Int := if d.month ≤ 2 then d.year - 1 else d.year

/-- The month, counted from March and from zero. -/
def marchMonth (d : Date) : Nat := if d.month ≤ 2 then d.month + 9 else d.month - 3

/-- The place of the year in its cycle. -/
def placeOfYear (d : Date) : Nat := (d.marchYear % 400).toNat

/-- The day within the year, counted from zero. -/
def dayOfYear (d : Date) : Nat := firstOfMonth d.marchMonth + (d.day - 1)

theorem make?_parts (d : Date) : make? d.year d.month d.day = .some d := dif_pos d.is_day

theorem bounds (d : Date) :
    firstYear ≤ d.year ∧ d.year ≤ lastYear ∧ 1 ≤ d.day ∧ d.day ≤ daysIn d.year d.month := by
  simpa [isDay, and_assoc] using d.is_day

theorem month_bounds (d : Date) : 1 ≤ d.month ∧ d.month ≤ 12 := by
  obtain ⟨-, -, hfirst, hlast⟩ := d.bounds
  unfold daysIn at hlast
  split at hlast <;> omega

theorem day_bounds (d : Date) : d.day ≤ 31 := by
  obtain ⟨-, -, -, hlast⟩ := d.bounds
  unfold daysIn at hlast
  split at hlast
  · split at hlast <;> omega
  all_goals omega

theorem coe_placeOfYear (d : Date) : (d.placeOfYear : Int) = d.marchYear % 400 :=
  Int.toNat_of_nonneg (Int.emod_nonneg _ (by decide))

theorem isLeap_emod (y : Int) : isLeap (y % 400 + 1) = isLeap (y + 1) := by
  have h4 : (y % 400 + 1) % 4 = (y + 1) % 4 := by omega
  have h100 : (y % 400 + 1) % 100 = (y + 1) % 100 := by omega
  have h400 : (y % 400 + 1) % 400 = (y + 1) % 400 := by omega
  simp only [isLeap, h4, h100, h400]

theorem le_lastDay (y : Nat) : 364 ≤ lastDay y := by
  unfold lastDay
  split <;> omega

/-- A day comes before the first of the next month, and before the first of March. -/
theorem day_le (d : Date) :
    d.day ≤ firstOfMonth (d.marchMonth + 1) - firstOfMonth d.marchMonth ∧
      d.dayOfYear ≤ lastDay d.placeOfYear := by
  obtain ⟨-, -, hfirst, hlast⟩ := d.bounds
  have hleast := le_lastDay d.placeOfYear
  unfold daysIn at hlast
  split at hlast
  case h_1 _ hmonth =>
    have hyear : d.marchYear + 1 = d.year := by simp [marchYear, hmonth]
    have hlastDay : lastDay d.placeOfYear = if isLeap d.year then 365 else 364 := by
      rw [lastDay, coe_placeOfYear, isLeap_emod, hyear]
    simp only [dayOfYear, marchMonth, hmonth, firstOfMonth, hlastDay, Nat.le_refl, if_true]
    by_cases hleap : isLeap d.year = true
    · rw [if_pos hleap] at hlast ⊢
      omega
    · rw [if_neg hleap] at hlast ⊢
      omega
  case h_13 => omega
  -- In every other month the 29th of February is still to come.
  all_goals
    rename_i hmonth
    simp only [dayOfYear, marchMonth, hmonth, firstOfMonth]
    split <;> omega

/-! ## Numbers -/

theorem number_add_march0 (d : Date) :
    d.number + march0 = (daysBefore d.placeOfYear + d.dayOfYear : Nat) + d.marchYear / 400 * 146097 := by
  have hnumber : d.number = 365 * d.marchYear + d.marchYear / 4 - d.marchYear / 100 + d.marchYear / 400 +
      (firstOfMonth d.marchMonth + d.day - 1 : Nat) - march0 := rfl
  have hplace := d.coe_placeOfYear
  have hday := d.bounds.2.2.1
  rw [hnumber, dayOfYear, daysBefore]
  omega

/-- **The date of a date's number.** -/
theorem ofNumber?_number (d : Date) : ofNumber? d.number = .some d := by
  have hplace := d.coe_placeOfYear
  have hyear : d.placeOfYear < 400 := by omega
  obtain ⟨hday, hlast⟩ := d.day_le
  obtain ⟨-, -, hcycle⟩ := yearOfCycle_ends _ hyear
  have hfirst := d.bounds.2.2.1
  have hrest : (d.number + march0) % 146097 = (daysBefore d.placeOfYear + d.dayOfYear : Nat) := by
    rw [number_add_march0]
    omega
  have hwhole : (d.number + march0) / 146097 = d.marchYear / 400 := by
    rw [number_add_march0]
    omega
  have hmonth : (5 * d.dayOfYear + 2) / 153 = d.marchMonth := monthOfDay_eq (by omega)
  have hyears : yearOfCycle (daysBefore d.placeOfYear + d.dayOfYear) = d.placeOfYear :=
    yearOfCycle_eq hyear hlast
  have hdays : daysBefore d.placeOfYear + d.dayOfYear -
      (365 * d.placeOfYear + d.placeOfYear / 4 - d.placeOfYear / 100) = d.dayOfYear := by
    unfold daysBefore
    omega
  have hcalendar : (if d.marchMonth < 10 then d.marchMonth + 3 else d.marchMonth - 9) = d.month := by
    have hmonths := d.month_bounds
    unfold marchMonth
    split <;> split <;> omega
  have hdate : (d.placeOfYear : Int) + d.marchYear / 400 * 400 + (if d.month ≤ 2 then 1 else 0) = d.year := by
    rw [hplace]
    unfold marchYear
    split <;> omega
  have hdayOf : d.dayOfYear - (153 * d.marchMonth + 2) / 5 + 1 = d.day := by
    simp only [dayOfYear, firstOfMonth]
    omega
  simp only [ofNumber?, hrest, hwhole, Int.toNat_natCast, hyears, hdays, hmonth, hcalendar, hdate, hdayOf]
  exact d.make?_parts

/-- A date lies in the cycle of its year. -/
theorem number_in_cycle (d : Date) :
    d.marchYear / 400 * 146097 ≤ d.number + march0 ∧ d.number + march0 < (d.marchYear / 400 + 1) * 146097 := by
  have hnumber := d.number_add_march0
  obtain ⟨-, hlast⟩ := d.day_le
  obtain ⟨-, -, hcycle⟩ := yearOfCycle_ends d.placeOfYear (by have := d.coe_placeOfYear; omega)
  omega

theorem marchYear_cases (d : Date) : d.marchYear = d.year - 1 ∨ d.marchYear = d.year := by
  unfold marchYear
  split <;> omega

/-- No date is a hundred million days away from 2000. -/
theorem number_bounds (d : Date) : -100000000 < d.number ∧ d.number < 100000000 := by
  have hcycle := d.number_in_cycle
  have hyear := d.marchYear_cases
  obtain ⟨hleast, hgreatest, -⟩ := d.bounds
  unfold firstYear at hleast
  unfold lastYear at hgreatest
  unfold march0 at hcycle
  omega

/-! ## Days without gaps -/

theorem daysBefore_succ : ∀ y < 399, daysBefore (y + 1) = daysBefore y + lastDay y + 1 := by decide +kernel

/-- A day up to the end of a year is a day of that year or of one before it. -/
theorem exists_daysBefore {n y : Nat} (hy : y < 400) (h : n ≤ daysBefore y + lastDay y) :
    ∃ y < 400, ∃ k ≤ lastDay y, n = daysBefore y + k := by
  induction y with
  | zero =>
    have hfirst : daysBefore 0 = 0 := rfl
    exact ⟨0, hy, n, by omega, by omega⟩
  | succ y ih =>
    have hnext := daysBefore_succ y (by omega)
    by_cases hbefore : n < daysBefore (y + 1)
    · exact ih (by omega) (by omega)
    · exact ⟨y + 1, hy, n - daysBefore (y + 1), by omega, by omega⟩

theorem exists_firstOfMonth {k : Nat} (hk : k ≤ 365) :
    ∃ m ≤ 11, firstOfMonth m ≤ k ∧ k < firstOfMonth (m + 1) := by
  refine ⟨(5 * k + 2) / 153, ?_⟩
  unfold firstOfMonth
  omega

theorem daysIn_behindMarch (year : Int) {m : Nat} (hm : m < 10) :
    daysIn year (m + 3) = firstOfMonth (m + 1) - firstOfMonth m := by
  interval_cases m <;> rfl

/-- Every day of a year, counted from March, is that of a date. -/
theorem exists_dayOfYear {year : Int} (hyear : firstYear ≤ year ∧ year < lastYear) {k : Nat}
    (hk : k ≤ lastDay (year % 400).toNat) : ∃ d : Date, d.marchYear = year ∧ d.dayOfYear = k := by
  have hplace : ((year % 400).toNat : Int) = year % 400 := Int.toNat_of_nonneg (Int.emod_nonneg _ (by decide))
  rw [lastDay, hplace, isLeap_emod] at hk
  obtain ⟨m, hmonth, hfirst, hnext⟩ := exists_firstOfMonth (k := k) (by split at hk <;> omega)
  have hday {y : Int} {month : Nat} (hy : firstYear ≤ y ∧ y ≤ lastYear)
      (hlast : k - firstOfMonth m + 1 ≤ daysIn y month) : isDay y month (k - firstOfMonth m + 1) = true := by
    simp only [isDay, Bool.and_eq_true, decide_eq_true_eq]
    omega
  obtain hautumn | rfl | rfl : m < 10 ∨ m = 10 ∨ m = 11 := by omega
  · have hdays := daysIn_behindMarch year hautumn
    refine ⟨⟨year, m + 3, _, hday ⟨hyear.1, hyear.2.le⟩ (by omega)⟩, by simp [marchYear], ?_⟩
    have hmarch : (if m + 3 ≤ 2 then m + 3 + 9 else m + 3 - 3) = m := by
      split <;> omega
    simp only [dayOfYear, marchMonth, hmarch]
    omega
  · -- January
    have hdays : daysIn (year + 1) 1 = firstOfMonth (10 + 1) - firstOfMonth 10 := rfl
    refine ⟨⟨year + 1, 1, _, hday ⟨by omega, hyear.2⟩ (by omega)⟩, by simp [marchYear], ?_⟩
    show firstOfMonth 10 + (k - firstOfMonth 10 + 1 - 1) = k
    omega
  · -- February
    have hdays : daysIn (year + 1) 2 = if isLeap (year + 1) then 29 else 28 := rfl
    have hmarch : firstOfMonth 11 = 337 := rfl
    refine ⟨⟨year + 1, 2, _, hday ⟨by omega, hyear.2⟩ ?_⟩, by simp [marchYear], ?_⟩
    · rw [hdays]
      by_cases hleap : isLeap (year + 1) = true
      · rw [if_pos hleap] at hk ⊢
        omega
      · rw [if_neg hleap] at hk ⊢
        omega
    · show firstOfMonth 11 + (k - firstOfMonth 11 + 1 - 1) = k
      omega

/-- **Every number of a day near 2000 is that of a date**, where near means ninety million days. -/
theorem exists_number {n : Int} (h : -90000000 ≤ n ∧ n ≤ 90000000) : ∃ d : Date, d.number = n := by
  have hrest : (((n + march0) % 146097).toNat : Int) = (n + march0) % 146097 :=
    Int.toNat_of_nonneg (Int.emod_nonneg _ (by decide))
  have hend : daysBefore 399 + lastDay 399 = 146096 := by decide
  obtain ⟨y, hy, k, hk, hday⟩ :=
    exists_daysBefore (by omega : 399 < 400) (by omega : ((n + march0) % 146097).toNat ≤ daysBefore 399 + lastDay 399)
  have hplace : ((y + (n + march0) / 146097 * 400) % 400).toNat = y := by omega
  have hyear : firstYear ≤ y + (n + march0) / 146097 * 400 ∧ y + (n + march0) / 146097 * 400 < lastYear := by
    unfold firstYear lastYear march0
    omega
  obtain ⟨d, hmarch, hdays⟩ := exists_dayOfYear hyear (hplace.symm ▸ hk)
  refine ⟨d, ?_⟩
  have hnumber := d.number_add_march0
  rw [placeOfYear, hmarch, hplace, hdays, ← hday] at hnumber
  omega

end ParamQuery.Calendar.Date
