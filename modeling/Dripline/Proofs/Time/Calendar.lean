import Dripline.Time.Calendar
import Mathlib.Algebra.GroupWithZero.Nat
import Mathlib.Data.List.Basic

/-!
# Dates and day numbers

The date of a day number is a date of the calendar, and leads back to that day number:

* `daysBeforeYear_cycles`: where a year begins, by cycles of 400, 100, 4 and 1 years;
* `ofDays_year`: the day of a year that a day number falls on, which is within that year;
* `monthDay_spec`: the month and the day of a day of the year, for any list of lengths;
* **`days_ofDays`**, **`isDate_ofDays`**: the date of a day number.
-/

namespace Dripline.Calendar

/-- The number of days of a year. -/
def yearLength (year : Nat) : Nat := if isLeap year then 366 else 365

/-- A date that exists. -/
structure Date.IsDate (d : Date) : Prop where
  year : 1 ≤ d.year
  month : 1 ≤ d.month ∧ d.month ≤ 12
  day : 1 ≤ d.day ∧ d.day ≤ daysInMonth d.year d.month

/-! ## 1. Years -/

/-- Where a year begins, whose number is taken apart into cycles of 400, 100, 4 and 1 years. -/
theorem daysBeforeYear_cycles {a b c d : Nat} (hb : b ≤ 3) (hc : c ≤ 24) (hd : d ≤ 3) :
    daysBeforeYear (a * 400 + b * 100 + c * 4 + d + 1) =
      a * 146097 + b * 36524 + c * 1461 + d * 365 := by
  unfold daysBeforeYear
  dsimp only
  omega

/-- A year is a leap year when it is the last of four, unless that is the last of a hundred and not
    the last of four hundred. -/
theorem isLeap_cycles {a b c d : Nat} (hb : b ≤ 3) (hc : c ≤ 24) (hd : d ≤ 3) :
    isLeap (a * 400 + b * 100 + c * 4 + d + 1) = true ↔ d = 3 ∧ (c ≠ 24 ∨ b = 3) := by
  unfold isLeap
  simp only [Bool.and_eq_true, Bool.or_eq_true, beq_iff_eq, bne_iff_ne, ne_eq]
  omega

/-- **The year of a day number**, and the day of that year. -/
theorem ofDays_year (n : Nat) :
    ∃ day, day < yearLength (ofDays n).year ∧ daysBeforeYear (ofDays n).year + day = n ∧
      1 ≤ (ofDays n).year ∧
      ((ofDays n).month, (ofDays n).day) = monthDay 1 day (monthLengths (isLeap (ofDays n).year)) := by
  -- the cycles, each with what it leaves of the one before
  obtain ⟨a, ha⟩ : ∃ a, a = n / 146097 := ⟨_, rfl⟩
  obtain ⟨ra, hra⟩ : ∃ ra, ra = n % 146097 := ⟨_, rfl⟩
  obtain ⟨b, hb⟩ : ∃ b, b = min (ra / 36524) 3 := ⟨_, rfl⟩
  obtain ⟨rb, hrb⟩ : ∃ rb, rb = ra - b * 36524 := ⟨_, rfl⟩
  obtain ⟨c, hc⟩ : ∃ c, c = rb / 1461 := ⟨_, rfl⟩
  obtain ⟨rc, hrc⟩ : ∃ rc, rc = rb % 1461 := ⟨_, rfl⟩
  obtain ⟨d, hd⟩ : ∃ d, d = min (rc / 365) 3 := ⟨_, rfl⟩
  have hyear : (ofDays n).year = a * 400 + b * 100 + c * 4 + d + 1 := by
    rw [hd, hrc, hc, hrb, hb, hra, ha]
    rfl
  have hmonth : ((ofDays n).month, (ofDays n).day) =
      monthDay 1 (rc - d * 365) (monthLengths (isLeap (ofDays n).year)) := by
    rw [hyear, hd, hrc, hc, hrb, hb, hra, ha]
    rfl
  have hn : n = a * 146097 + ra ∧ ra < 146097 := by omega
  have hcentury : ra = b * 36524 + rb ∧ b ≤ 3 ∧ (rb < 36524 ∨ b = 3 ∧ rb = 36524) := by omega
  have hfour : rb = c * 1461 + rc ∧ c ≤ 24 ∧ rc < 1461 ∧ (c = 24 → b ≠ 3 → rc < 1460) := by omega
  have hone : d ≤ 3 ∧ d * 365 ≤ rc ∧ (rc - d * 365 < 365 ∨ d = 3 ∧ rc = 1460) := by omega
  have hleap := isLeap_cycles (a := a) hcentury.2.1 hfour.2.1 hone.1
  refine ⟨rc - d * 365, ?_, ?_, by omega, hmonth⟩
  · unfold yearLength
    rw [hyear]
    by_cases h : d = 3 ∧ (c ≠ 24 ∨ b = 3)
    · rw [if_pos (hleap.mpr h)]
      omega
    · rw [if_neg (mt hleap.mp h)]
      omega
  · rw [hyear, daysBeforeYear_cycles hcentury.2.1 hfour.2.1 hone.1]
    omega

/-! ## 2. Months -/

theorem sum_monthLengths (year : Nat) : (monthLengths (isLeap year)).sum = yearLength year := by
  unfold yearLength
  cases isLeap year <;> rfl

/-- **The month and the day of a day of the year**: the days before that month and the days before that
    day make up the day of the year. -/
theorem monthDay_spec (lengths : List Nat) :
    ∀ first day, day < lengths.sum →
      ∃ k len, lengths[k]? = some len ∧ (monthDay first day lengths).1 = first + k ∧
        1 ≤ (monthDay first day lengths).2 ∧ (monthDay first day lengths).2 ≤ len ∧
        (lengths.take k).sum + ((monthDay first day lengths).2 - 1) = day := by
  induction lengths with
  | nil => exact fun _ _ h => absurd h (Nat.not_lt_zero _)
  | cons len rest ih =>
    intro first day hday
    rw [List.sum_cons] at hday
    unfold monthDay
    by_cases hlen : day < len
    · rw [if_pos (by simp [hlen])]
      refine ⟨0, len, rfl, rfl, Nat.le_add_left _ _, hlen, ?_⟩
      rw [List.take_zero, List.sum_nil, Nat.zero_add, Nat.add_sub_cancel]
    · have hrest : rest.isEmpty = false := by
        cases rest with
        | nil => exact absurd hday (by simpa using hlen)
        | cons => rfl
      rw [if_neg (by simp [hlen, hrest])]
      obtain ⟨k, len', hk, hmonth, hpos, hle, hsum⟩ := ih (first + 1) (day - len) (by omega)
      refine ⟨k + 1, len', hk, by omega, hpos, hle, ?_⟩
      rw [List.take_succ_cons, List.sum_cons]
      omega

theorem daysInMonth_le (year month : Nat) : daysInMonth year month ≤ 31 := by
  unfold daysInMonth
  cases month with
  | zero => exact Nat.zero_le _
  | succ m =>
    have hall : ∀ len ∈ monthLengths (isLeap year), len ≤ 31 := by
      cases isLeap year <;> decide
    dsimp only
    cases h : (monthLengths (isLeap year))[m]? with
    | none => exact Nat.zero_le _
    | some len => exact hall len (List.mem_of_getElem? h)

theorem daysBeforeMonth_eq (year month : Nat) :
    daysBeforeMonth year month = ((monthLengths (isLeap year)).take (month - 1)).sum := by
  unfold daysBeforeMonth
  rw [List.sum_eq_foldl]

/-! ## 3. Dates -/

/-- **The date of a day number** has that day number, and it exists. -/
theorem ofDays_spec (n : Nat) : (ofDays n).days = n ∧ (ofDays n).IsDate := by
  obtain ⟨day, hlt, hn, hyear, hmonth⟩ := ofDays_year n
  rw [← sum_monthLengths] at hlt
  obtain ⟨k, len, hk, hfst, hpos, hle, hsum⟩ := monthDay_spec _ 1 day hlt
  rw [← hmonth] at hfst hpos hle hsum
  dsimp only at hfst hpos hle hsum
  have hlength : (monthLengths (isLeap (ofDays n).year)).length = 12 := rfl
  have hk12 : k < 12 := hlength ▸ (List.getElem?_eq_some_iff.mp hk).1
  have hin : daysInMonth (ofDays n).year (ofDays n).month = len := by
    rw [hfst, Nat.add_comm]
    show ((monthLengths (isLeap (ofDays n).year))[k]?).getD 0 = len
    rw [hk, Option.getD_some]
  refine ⟨?_, hyear, ⟨by omega, by omega⟩, hpos, hin ▸ hle⟩
  have hbefore : daysBeforeMonth (ofDays n).year (ofDays n).month =
      ((monthLengths (isLeap (ofDays n).year)).take k).sum := by
    rw [daysBeforeMonth_eq, hfst, Nat.add_sub_cancel_left]
  show daysBeforeYear (ofDays n).year + daysBeforeMonth (ofDays n).year (ofDays n).month +
    ((ofDays n).day - 1) = n
  rw [hbefore, Nat.add_assoc, hsum, hn]

theorem days_ofDays (n : Nat) : (ofDays n).days = n := (ofDays_spec n).1

theorem isDate_ofDays (n : Nat) : (ofDays n).IsDate := (ofDays_spec n).2

/-- The days of the calendar lie in its years. -/
theorem year_ofDays_le {n : Nat} (h : n < totalDays) : (ofDays n).year ≤ lastYear := by
  obtain ⟨day, _, hn, _, _⟩ := ofDays_year n
  unfold totalDays at h
  unfold daysBeforeYear at h hn
  unfold lastYear at h ⊢
  dsimp only at h hn
  omega

end Dripline.Calendar
