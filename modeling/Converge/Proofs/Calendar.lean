import Converge.Time
import Mathlib.Tactic.IntervalCases

/-!
# The calendar

Days and dates are two names of the same thing.

* `Instant.CycleDay` is a day of the 400 years after which the calendar repeats itself, by century, leap cycle, year and day of
  the year.
* `dateOf_index`, `daysOf_index`: both directions, on such a day.
* `dateOf_spec`: the date of a day is a date of the calendar, and that date's day is the day again.
-/

namespace Converge.Instant

set_option autoImplicit false

/-! ## Cycles of 400 years -/

/-- A day of a cycle of 400 years that begin in March: century, cycle of four years, year and day of the year. The last day
of a leap year is its 365th. -/
structure CycleDay where
  century : Nat
  four : Nat
  year : Nat
  day : Nat
  century_lt : century < 4
  four_lt : four < 25
  year_lt : year < 4
  day_le : day < 365 ∨ day = 365 ∧ year = 3 ∧ (four < 24 ∨ century = 3)

namespace CycleDay

def index (d : CycleDay) : Nat := 36524 * d.century + 1461 * d.four + 365 * d.year + d.day

def yearOfEra (d : CycleDay) : Nat := 100 * d.century + 4 * d.four + d.year

theorem exists_index_eq (n : Nat) (h : n < 146097) : ∃ d : CycleDay, d.index = n := by
  obtain ⟨c, hc⟩ : ∃ c, c = min (n / 36524) 3 := ⟨_, rfl⟩
  obtain ⟨r, hr⟩ : ∃ r, r = n - 36524 * c := ⟨_, rfl⟩
  obtain ⟨q, hq⟩ : ∃ q, q = r / 1461 := ⟨_, rfl⟩
  obtain ⟨s, hs⟩ : ∃ s, s = r - 1461 * q := ⟨_, rfl⟩
  obtain ⟨t, ht⟩ : ∃ t, t = min (s / 365) 3 := ⟨_, rfl⟩
  refine ⟨⟨c, q, t, s - 365 * t, by omega, by omega, by omega, by omega⟩, ?_⟩
  simp only [index]
  omega

theorem index_lt (d : CycleDay) : d.index < 146097 := by
  obtain ⟨c, q, t, u, hc, hq, ht, hu⟩ := d
  simp only [index]
  omega

/-- How often 1460 days fit: once for each four years, and once more at the end of a leap year. -/
theorem index_div (d : CycleDay) : ∃ extra, d.index / 1460 = 25 * d.century + d.four + extra ∧ extra ≤ d.day ∧
    d.day - extra < 365 := by
  obtain ⟨c, q, t, u, hc, hq, ht, hu⟩ := d
  simp only [index]
  by_cases h : 1460 ≤ 24 * c + q + 365 * t + u
  · exact ⟨1, by omega, by omega, by omega⟩
  · exact ⟨0, by omega, by omega, by omega⟩

theorem yearOfEra_eq (d : CycleDay) :
    (d.index - d.index / 1460 + d.index / 36524 - d.index / 146096) / 365 = d.yearOfEra := by
  obtain ⟨extra, h₁, he, hx⟩ := d.index_div
  obtain ⟨c, q, t, u, hc, hq, ht, hu⟩ := d
  simp only [index, yearOfEra] at *
  by_cases last : c = 3 ∧ q = 24 ∧ t = 3 ∧ u = 365
  · obtain ⟨rfl, rfl, rfl, rfl⟩ := last
    decide
  · have h₂ : (36524 * c + 1461 * q + 365 * t + u) / 36524 = c := by omega
    have h₃ : (36524 * c + 1461 * q + 365 * t + u) / 146096 = 0 := by omega
    rw [h₁, h₂, h₃]
    clear h₁ h₂ h₃ last hu
    omega

theorem dayOfYear_eq (d : CycleDay) :
    d.index - (365 * d.yearOfEra + d.yearOfEra / 4 - d.yearOfEra / 100) = d.day ∧
    365 * d.yearOfEra + d.yearOfEra / 4 - d.yearOfEra / 100 + d.day = d.index := by
  obtain ⟨c, q, t, u, hc, hq, ht, hu⟩ := d
  simp only [index, yearOfEra]
  interval_cases c <;> omega

/-- The month of the day, counted from March. -/
def month (d : CycleDay) : Nat := (5 * d.day + 2) / 153

theorem day_le' (d : CycleDay) : d.day ≤ 365 := by
  have := d.day_le
  omega

end CycleDay

/-! ## Dates -/

/-- The date of a day of a cycle. -/
theorem dateOf_index (era : Int) (d : CycleDay) : dateOf (era * 146097 + d.index - 719468) =
    (d.yearOfEra + era * 400 + (if (if d.month < 10 then d.month + 3 else d.month - 9) ≤ 2 then 1 else 0),
      if d.month < 10 then d.month + 3 else d.month - 9, d.day - (153 * d.month + 2) / 5 + 1) := by
  have hlt := d.index_lt
  have hera : (era * 146097 + d.index - 719468 + 719468).fdiv 146097 = era := by
    rw [Int.fdiv_eq_ediv_of_nonneg _ (by decide)]
    omega
  have hdoe : (era * 146097 + d.index - 719468 + 719468 - era * 146097).toNat = d.index := by omega
  unfold dateOf
  simp only [hera, hdoe, d.yearOfEra_eq, d.dayOfYear_eq.1]
  rfl

theorem exists_cycleDay (days : Int) : ∃ (era : Int) (d : CycleDay), days = era * 146097 + d.index - 719468 := by
  obtain ⟨d, hd⟩ := CycleDay.exists_index_eq ((days + 719468) % 146097).toNat (by omega)
  exact ⟨(days + 719468) / 146097, d, by omega⟩

theorem CycleDay.yearOfEra_lt (d : CycleDay) : d.yearOfEra < 400 := by
  obtain ⟨c, q, t, u, hc, hq, ht, hu⟩ := d
  simp only [yearOfEra]
  omega

theorem CycleDay.month_le (d : CycleDay) : d.month ≤ 11 := by
  have := d.day_le'
  unfold month
  omega

/-- A year that ends with a leap day is a leap year. -/
theorem CycleDay.isLeap_of_day (d : CycleDay) (h : d.day = 365) (era : Int) : isLeap (d.yearOfEra + era * 400 + 1) = true := by
  obtain ⟨c, q, t, u, hc, hq, ht, hu⟩ := d
  simp only [yearOfEra] at *
  simp only [isLeap, Bool.and_eq_true, Bool.or_eq_true, beq_iff_eq, bne_iff_ne]
  omega

theorem daysOf_index (era : Int) (d : CycleDay) {year : Int} {month day : Nat}
    (hyear : (if month ≤ 2 then year - 1 else year) = d.yearOfEra + era * 400) (hmonth : (month + 9) % 12 = d.month)
    (hday : (153 * d.month + 2) / 5 + day - 1 = d.day) : daysOf year month day = era * 146097 + d.index - 719468 := by
  have hlt := d.yearOfEra_lt
  have hera : (d.yearOfEra + era * 400 : Int).fdiv 400 = era := by
    rw [Int.fdiv_eq_ediv_of_nonneg _ (by decide)]
    omega
  have hyoe : (d.yearOfEra + era * 400 - era * 400 : Int).toNat = d.yearOfEra := by omega
  unfold daysOf
  simp only [hyear, hera, hyoe, hmonth, hday]
  have := d.dayOfYear_eq.2
  omega

/-- **The date of a day is a date of the calendar, and that day.** -/
theorem dateOf_spec (days : Int) {year : Int} {month day : Nat} (h : dateOf days = (year, month, day)) :
    1 ≤ month ∧ month ≤ 12 ∧ 1 ≤ day ∧ day ≤ monthLength year month ∧ daysOf year month day = days := by
  obtain ⟨era, d, rfl⟩ := exists_cycleDay days
  rw [dateOf_index] at h
  obtain ⟨rfl, rfl, rfl⟩ : _ ∧ _ ∧ _ := ⟨(Prod.mk.inj h).1, (Prod.mk.inj (Prod.mk.inj h).2).1, (Prod.mk.inj (Prod.mk.inj h).2).2⟩
  have hm := d.month_le
  have hd := d.day_le'
  have hu : d.month = (5 * d.day + 2) / 153 := rfl
  -- the months from March to December belong to the year in which they are counted, the other two to the next one
  by_cases h10 : d.month < 10
  · have hlate : ¬ d.month + 3 ≤ 2 := by omega
    simp only [if_pos h10, if_neg hlate]
    refine ⟨by omega, by omega, by omega, ?_, daysOf_index era d (by rw [if_neg hlate]; omega) (by omega) (by omega)⟩
    generalize (d.yearOfEra + era * 400 + 0 : Int) = year
    interval_cases d.month <;> simp only [monthLength] <;> simp <;> omega
  · have hearly : d.month - 9 ≤ 2 := by omega
    simp only [if_neg h10, if_pos hearly]
    refine ⟨by omega, by omega, by omega, ?_, daysOf_index era d (by rw [if_pos hearly]; omega) (by omega) (by omega)⟩
    obtain hjan | hfeb : d.month = 10 ∨ d.month = 11 := by omega
    · simp only [hjan, monthLength]
      simp
      omega
    · by_cases hleap : d.day = 365
      · simp [hfeb, monthLength, d.isLeap_of_day hleap, hleap]
      · simp only [hfeb, monthLength]
        simp
        split <;> omega

end Converge.Instant
