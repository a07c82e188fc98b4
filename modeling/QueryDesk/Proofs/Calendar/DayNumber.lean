import Mathlib.Tactic.ByContra
import QueryDesk.Calendar.Date

/-!
# Day numbers and dates

`Date.number` counts the days of the calendar without gaps: `ofNumber?_eq_some_iff` says that a
number is read back as the date it came from, and `exists_ofNumber?` that every number between those
of two dates is read.  So going back `n` days (`minusDays?`) lowers the number by `n`, and fails
exactly before the first day (`minusDays?_eq_none_iff`).
-/

namespace QueryDesk.Calendar

/-! ## Months inside a year -/

theorem daysBeforeMonth_succ (y : Int) {m : Nat} (hm : 1 ≤ m) :
    daysBeforeMonth y (m + 1) = daysBeforeMonth y m + daysInMonth y m := by
  obtain ⟨k, rfl⟩ : ∃ k, m = k + 1 := ⟨m - 1, by omega⟩
  rfl

theorem daysBeforeMonth_mono (y : Int) {m m' : Nat} (h : m ≤ m') :
    daysBeforeMonth y m ≤ daysBeforeMonth y m' := by
  induction h with
  | refl => exact Nat.le_refl _
  | @step k hk ih =>
    rcases Nat.eq_zero_or_pos k with rfl | hpos
    · simpa [daysBeforeMonth] using ih
    · rw [Nat.succ_eq_add_one, daysBeforeMonth_succ y hpos]
      omega

/-- A month and a later one: the whole of the first lies before the second. -/
theorem daysBeforeMonth_lt (y : Int) {m m' : Nat} (hm : 1 ≤ m) (h : m < m') :
    daysBeforeMonth y m + daysInMonth y m ≤ daysBeforeMonth y m' := by
  rw [← daysBeforeMonth_succ y hm]
  exact daysBeforeMonth_mono y h

/-- The day of a year determines its month and its day in the month. -/
theorem monthDay_unique (y : Int) {m m' d e : Nat} (hm : 1 ≤ m) (hm' : 1 ≤ m')
    (hd : d < daysInMonth y m) (he : e < daysInMonth y m')
    (h : daysBeforeMonth y m + d = daysBeforeMonth y m' + e) : m = m' ∧ d = e := by
  rcases Nat.lt_trichotomy m m' with hlt | rfl | hgt
  · have := daysBeforeMonth_lt y hm hlt
    omega
  · exact ⟨rfl, by omega⟩
  · have := daysBeforeMonth_lt y hm' hgt
    omega

/-! ## Years -/

/-- A year is as long as its twelve months. -/
theorem daysBeforeYear_succ (y : Int) :
    daysBeforeYear (y + 1) = daysBeforeYear y + daysBeforeMonth y 13 := by
  have hmonths : daysBeforeMonth y 13 = if isLeap y then 366 else 365 := by
    simp only [daysBeforeMonth, daysInMonth]
    split <;> rfl
  rw [hmonths]
  simp only [daysBeforeYear, isLeap, Bool.and_eq_true, Bool.or_eq_true, beq_iff_eq, bne_iff_ne]
  split <;> omega

theorem daysBeforeYear_mono {y y' : Int} (h : y ≤ y') : daysBeforeYear y ≤ daysBeforeYear y' := by
  simp only [daysBeforeYear]
  omega

/-- A day number lies in one year only. -/
theorem year_unique {n y y' : Int} (hlow : daysBeforeYear y ≤ n)
    (hhigh : n < daysBeforeYear (y + 1)) (hlow' : daysBeforeYear y' ≤ n)
    (hhigh' : n < daysBeforeYear (y' + 1)) : y = y' := by
  rcases Int.lt_trichotomy y y' with h | h | h
  · have := daysBeforeYear_mono (show y + 1 ≤ y' by omega)
    omega
  · exact h
  · have := daysBeforeYear_mono (show y' + 1 ≤ y by omega)
    omega

end QueryDesk.Calendar

namespace QueryDesk.Date

open Calendar

/-- The year found for a day number is the one the day lies in: the average length of a year puts
the first guess at most one year off. -/
theorem yearOf_spec (n : Int) :
    daysBeforeYear (yearOf n) ≤ n ∧ n < daysBeforeYear (yearOf n + 1) := by
  have hbelow : daysBeforeYear (n * 400 / 146097 + 1 - 1) ≤ n := by
    simp only [daysBeforeYear]
    omega
  have habove : n < daysBeforeYear (n * 400 / 146097 + 1 + 1 + 1) := by
    simp only [daysBeforeYear]
    omega
  by_cases hlow : n < daysBeforeYear (n * 400 / 146097 + 1)
  · rw [show yearOf n = n * 400 / 146097 + 1 - 1 from if_pos hlow]
    exact ⟨hbelow, by rwa [Int.sub_add_cancel]⟩
  by_cases hhigh : daysBeforeYear (n * 400 / 146097 + 1 + 1) ≤ n
  · rw [show yearOf n = n * 400 / 146097 + 1 + 1 from (if_neg hlow).trans (if_pos hhigh)]
    exact ⟨hhigh, habove⟩
  · rw [show yearOf n = n * 400 / 146097 + 1 from (if_neg hlow).trans (if_neg hhigh)]
    exact ⟨Int.not_lt.mp hlow, Int.not_le.mp hhigh⟩

/-- The month and day found for the `n`-th day after the start of a month. -/
theorem monthDay_spec (y : Int) (months : Nat) : ∀ (month n : Nat), 1 ≤ month →
    n + daysBeforeMonth y month < daysBeforeMonth y (month + months + 1) →
    ∃ m d, monthDay y month n months = (m, d + 1) ∧ month ≤ m ∧ m ≤ month + months ∧
      d < daysInMonth y m ∧ daysBeforeMonth y m + d = daysBeforeMonth y month + n := by
  induction months with
  | zero =>
    intro month n hmonth hn
    rw [Nat.add_zero, daysBeforeMonth_succ y hmonth] at hn
    exact ⟨month, n, rfl, Nat.le_refl _, Nat.le_refl _, by omega, rfl⟩
  | succ months ih =>
    intro month n hmonth hn
    rw [monthDay]
    split
    · exact ⟨month, n, rfl, Nat.le_refl _, by omega, by omega, rfl⟩
    · have hstep := daysBeforeMonth_succ y hmonth
      obtain ⟨m, d, heq, hlow, hhigh, hd, hsum⟩ :=
        ih (month + 1) (n - daysInMonth y month) (by omega)
          (by rw [show month + 1 + months + 1 = month + (months + 1) + 1 by omega]; omega)
      exact ⟨m, d, heq, by omega, by omega, hd, by omega⟩

/-- The month and day found for a day of a year. -/
theorem monthDay_of_lt {y : Int} {n : Nat} (h : n < daysBeforeMonth y 13) :
    ∃ m d, monthDay y 1 n 11 = (m, d + 1) ∧ 1 ≤ m ∧ m ≤ 12 ∧ d < daysInMonth y m ∧
      daysBeforeMonth y m + d = n := by
  obtain ⟨m, d, heq, hlow, hhigh, hd, hsum⟩ := monthDay_spec y 11 1 n (Nat.le_refl 1) h
  exact ⟨m, d, heq, hlow, hhigh, hd, hsum.trans (Nat.zero_add n)⟩

/-- Where a date stands in its year. -/
theorem number_bounds (d : Date) :
    daysBeforeYear d.year ≤ d.number ∧ d.number < daysBeforeYear (d.year + 1) := by
  obtain ⟨_, _, hm, hm', hd, hd'⟩ := d.valid
  have hlast := daysBeforeMonth_lt d.year hm (show d.month < 13 by omega)
  rw [daysBeforeYear_succ]
  unfold number
  omega

/-- The date found for a number has that number. -/
theorem number_of_ofNumber? {n : Int} {d : Date} (h : ofNumber? n = some d) : d.number = n := by
  obtain ⟨hlow, hhigh⟩ := yearOf_spec n
  rw [daysBeforeYear_succ] at hhigh
  obtain ⟨m, k, heq, _, _, _, hsum⟩ :=
    monthDay_of_lt (y := yearOf n) (n := (n - daysBeforeYear (yearOf n)).toNat) (by omega)
  simp only [ofNumber?, heq, of?] at h
  split at h
  · obtain rfl := Option.some.inj h
    simp only [number]
    omega
  · simp at h

theorem ofNumber?_number (d : Date) : ofNumber? d.number = some d := by
  obtain ⟨hlow, hhigh⟩ := d.number_bounds
  have hyear : yearOf d.number = d.year :=
    year_unique (yearOf_spec _).1 (yearOf_spec _).2 hlow hhigh
  rw [daysBeforeYear_succ] at hhigh
  obtain ⟨m, k, heq, hm, _, hk, hsum⟩ :=
    monthDay_of_lt (y := d.year) (n := (d.number - daysBeforeYear d.year).toNat) (by omega)
  obtain ⟨_, _, hm', _, hd, hd'⟩ := d.valid
  obtain ⟨rfl, hday⟩ := monthDay_unique d.year (e := d.day - 1) hm hm' hk (by omega)
    (by rw [hsum]; unfold number; omega)
  have hk' : k + 1 = d.day := by omega
  simp only [ofNumber?, hyear, heq, hk', of?, dif_pos d.valid]

/-- A number belongs to the date that has it. -/
theorem ofNumber?_eq_some_iff {n : Int} {d : Date} : ofNumber? n = some d ↔ d.number = n :=
  ⟨number_of_ofNumber?, fun h => h ▸ d.ofNumber?_number⟩

theorem number_injective {d e : Date} (h : d.number = e.number) : d = e := by
  have hd := d.ofNumber?_number
  rw [h, e.ofNumber?_number] at hd
  exact (Option.some.inj hd).symm

/-- A date is not before the first day of its month. -/
theorem firstOfMonth_le (d : Date) : d.firstOfMonth.number ≤ d.number := by
  obtain ⟨_, _, _, _, hday, _⟩ := d.valid
  simp only [number, firstOfMonth]
  omega

/-- A date is not before the first day of its year. -/
theorem firstOfYear_le (d : Date) : d.firstOfYear.number ≤ d.number := by
  obtain ⟨_, _, hmonth, _, hday, _⟩ := d.valid
  have hmonths := daysBeforeMonth_mono d.year hmonth
  simp only [number, firstOfYear]
  omega

/-! ## The ends of the calendar -/

theorem number_first : first.number = daysBeforeYear firstYear := by
  simp [first, number, daysBeforeMonth]

/-- No date comes before the first day. -/
theorem first_le (d : Date) : first.number ≤ d.number := by
  rw [number_first]
  exact Int.le_trans (daysBeforeYear_mono d.valid.1) d.number_bounds.1

/-- Every number from the first day's to a date's is a date's. -/
theorem exists_ofNumber? {n : Int} {d : Date} (hlow : first.number ≤ n) (hhigh : n ≤ d.number) :
    ∃ e, ofNumber? n = some e := by
  obtain ⟨hylow, hyhigh⟩ := yearOf_spec n
  rw [number_first] at hlow
  have hyear : firstYear ≤ yearOf n := by
    by_contra h
    have := daysBeforeYear_mono (show yearOf n + 1 ≤ firstYear by omega)
    omega
  have hyear' : yearOf n ≤ lastYear := by
    by_contra h
    have hd := d.number_bounds.2
    have := d.valid.2.1
    have := daysBeforeYear_mono (show d.year + 1 ≤ yearOf n by omega)
    omega
  rw [daysBeforeYear_succ] at hyhigh
  obtain ⟨m, k, heq, hm, hm', hk, _⟩ :=
    monthDay_of_lt (y := yearOf n) (n := (n - daysBeforeYear (yearOf n)).toNat) (by omega)
  have hvalid : Exists (yearOf n) m (k + 1) := ⟨hyear, hyear', hm, hm', by omega, hk⟩
  exact ⟨⟨yearOf n, m, k + 1, hvalid⟩, by simp only [ofNumber?, heq, of?, dif_pos hvalid]⟩

/-! ## Going back -/

theorem minusDays?_eq_some_iff {d e : Date} {n : Nat} :
    d.minusDays? n = some e ↔ e.number = d.number - n := by
  unfold minusDays?
  exact ofNumber?_eq_some_iff

/-- Going back fails exactly when it would lead before the first day. -/
theorem minusDays?_eq_none_iff {d : Date} {n : Nat} :
    d.minusDays? n = none ↔ d.number - n < first.number := by
  constructor
  · intro h
    by_contra hlow
    obtain ⟨e, he⟩ := exists_ofNumber? (Int.not_lt.mp hlow) (show d.number - n ≤ d.number by omega)
    have he : d.minusDays? n = some e := minusDays?_eq_some_iff.mpr (ofNumber?_eq_some_iff.mp he)
    exact Option.some_ne_none e (he.symm.trans h)
  · intro h
    cases he : d.minusDays? n with
    | none => rfl
    | some e =>
      have := minusDays?_eq_some_iff.mp he
      have := e.first_le
      omega

/-- Every day but the first has a day before it. -/
theorem exists_yesterday {d : Date} (h : d ≠ first) : ∃ e, d.minusDays? 1 = some e := by
  cases he : d.minusDays? 1 with
  | some e => exact ⟨e, rfl⟩
  | none =>
    have hlt := minusDays?_eq_none_iff.mp he
    have hle := d.first_le
    exact absurd (number_injective (show d.number = first.number by omega)) h

end QueryDesk.Date
