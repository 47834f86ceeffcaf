import Mathlib
import SubscriptionBilling.Instant.Basic
/-!
# Days and dates

Every day has one date.  `yearOf` guesses the year of a day from the mean length
of a year; `daysBefore_yearOf` says that the guess, put right by one at most, is
the year that holds the day.  `monthOf_spec` does the same for the months of a
year, and both together give `Date.day_ofDay`: the day of the date of a day is
that day.  The dates of the range of instants lie in the years of the range
(`date_year`).
-/

namespace SubscriptionBilling.Instant

/-! ## Years -/

/-- A year holds the days from its first up to the first of the next. -/
theorem daysBefore_yearOf (day : Int) :
    daysBefore (yearOf day) ≤ day ∧ day < daysBefore (yearOf day + 1) := by
  unfold yearOf
  generalize hguess : 400 * day / 146097 = guess
  -- Four hundred years have 146097 days, so the guess misses by one year at most.
  have hlow : daysBefore (guess - 1) ≤ day := by
    unfold daysBefore
    omega
  have hhigh : day < daysBefore (guess + 1 + 1) := by
    unfold daysBefore
    omega
  dsimp only
  split
  · rename_i hbefore
    rw [sub_add_cancel]
    exact ⟨hlow, hbefore⟩
  · rename_i hfrom
    split
    · rename_i hbefore
      exact ⟨not_lt.mp hfrom, hbefore⟩
    · rename_i hfrom'
      exact ⟨not_lt.mp hfrom', hhigh⟩

/-- From the beginning of a year to that of the next one there are the days of this
year. -/
theorem daysBefore_succ (year : Int) :
    daysBefore (year + 1) = daysBefore year + if isLeap year then 366 else 365 := by
  unfold daysBefore isLeap
  by_cases h4 : year % 4 = 0
  · by_cases h100 : year % 100 = 0
    · by_cases h400 : year % 400 = 0
      · simp [h4, h100, h400]
        omega
      · simp [h4, h100, h400]
        omega
    · simp [h4, h100]
      omega
  · have h100 : year % 100 ≠ 0 := by omega
    simp [h4, h100]
    omega

/-- The months of a year have the days of the year, in a leap year and in every other.
-/
theorem sum_monthLengths (leap : Bool) :
    (monthLengths leap).sum = if leap then 366 else 365 := by
  cases leap <;> rfl

/-! ## Months -/

/-- No month has more than thirty-one days. -/
theorem monthLength_le (leap : Bool) (month : Nat) : monthLength leap month ≤ 31 := by
  have hall : ∀ length ∈ monthLengths leap, length ≤ 31 := by
    cases leap <;> decide
  rw [monthLength]
  split
  · exact Nat.zero_le 31
  · cases hmonth : (monthLengths leap)[month - 1]? with
    | none => exact Nat.zero_le 31
    | some length => exact hall length (List.mem_of_getElem? hmonth)

/-- Counting through the months finds the one that holds a day: the months before
it and the days of it make up the count. -/
theorem monthOf_spec (first : Nat) {lengths : List Nat} {day : Nat} (h : day < lengths.sum) :
    ∃ i dayOfMonth, monthOf first lengths day = (first + i, dayOfMonth) ∧ 1 ≤ dayOfMonth ∧
      (∃ length, lengths[i]? = some length ∧ dayOfMonth ≤ length) ∧
      (lengths.take i).sum + dayOfMonth = day + 1 := by
  induction lengths generalizing first day with
  | nil => simp at h
  | cons length rest ih =>
      rw [List.sum_cons] at h
      rw [monthOf]
      split
      · rename_i hday
        refine ⟨0, day + 1, rfl, Nat.le_add_left 1 day, ⟨length, rfl, hday⟩, ?_⟩
        rw [List.take_zero, List.sum_nil, zero_add]
      · rename_i hday
        have hrest : day - length < rest.sum := by omega
        obtain ⟨i, dayOfMonth, hmonth, hpositive, hlength, hsum⟩ :=
          ih (first + 1) hrest
        refine ⟨i + 1, dayOfMonth, ?_, hpositive, hlength, ?_⟩
        · rw [hmonth, Nat.add_right_comm, Nat.add_assoc]
        · rw [List.take_succ_cons, List.sum_cons]
          omega

namespace Date

/-- The year of the date is the year that holds the day. -/
theorem year_ofDay (n : Int) : (ofDay n).year = yearOf (n + epoch) := rfl

/-- The date of a day: a day of one of the twelve months, with as many days before
it as the day has. -/
theorem ofDay_spec (n : Int) :
    (ofDay n).Valid ∧ 1 ≤ (ofDay n).month ∧ (ofDay n).month ≤ 12 ∧ (ofDay n).day = n := by
  obtain ⟨hfrom, hbefore⟩ := daysBefore_yearOf (n + epoch)
  rw [daysBefore_succ, ← Nat.cast_ofNat (n := 366), ← Nat.cast_ofNat (n := 365),
    ← Nat.cast_ite, ← sum_monthLengths] at hbefore
  generalize hyear : yearOf (n + epoch) = year at hfrom hbefore
  have hcount : (n + epoch - daysBefore year).toNat < (monthLengths (isLeap year)).sum := by omega
  obtain ⟨i, dayOfMonth, hmonth, hpositive, ⟨length, hlength, hle⟩, hsum⟩ := monthOf_spec 1 hcount
  have hdate : ofDay n = ⟨year, 1 + i, dayOfMonth⟩ := by
    rw [ofDay, hyear]
    dsimp only
    rw [hmonth]
  have hi : i < 12 := (List.getElem?_eq_some_iff.mp hlength).1
  rw [hdate]
  refine ⟨⟨hpositive, ?_⟩, Nat.le_add_right 1 i, by dsimp only; omega, ?_⟩
  · have hpositive' : 1 + i ≠ 0 := by omega
    rw [monthLength, if_neg hpositive', Nat.add_sub_cancel_left, hlength]
    exact hle
  · have hmonths : daysBeforeMonth (isLeap year) (1 + i) =
        ((monthLengths (isLeap year)).take i).sum := by
      rw [daysBeforeMonth, Nat.add_sub_cancel_left]
      rfl
    rw [day, hmonths]
    dsimp only
    omega

/-- The date that a day falls on leads back to the day. -/
theorem day_ofDay (n : Int) : (ofDay n).day = n := (ofDay_spec n).2.2.2

/-- Days between the first of one year and the last of another have years between
these. -/
theorem year_bounds {n : Int} {low high : Int} (hlow : daysBefore low - epoch ≤ n)
    (hhigh : n < daysBefore (high + 1) - epoch) :
    low ≤ (ofDay n).year ∧ (ofDay n).year ≤ high := by
  rw [year_ofDay]
  obtain ⟨hfrom, hbefore⟩ := daysBefore_yearOf (n + epoch)
  have hmono : ∀ {a b : Int}, a ≤ b → daysBefore a ≤ daysBefore b := by
    intro a b hab
    unfold daysBefore
    omega
  constructor
  · by_contra hearly
    have := hmono (a := yearOf (n + epoch) + 1) (b := low) (by omega)
    omega
  · by_contra hlate
    have := hmono (a := high + 1) (b := yearOf (n + epoch)) (by omega)
    omega

end Date

/-- The date of an instant. -/
def date (i : Instant) : Date := Date.ofDay (i.second / secondsPerDay)

/-- The dates of the range of instants lie in the years of the range. -/
theorem date_year (i : Instant) : -262143 ≤ i.date.year ∧ i.date.year ≤ 262142 := by
  obtain ⟨hearliest, hlatest, -⟩ := i.valid
  have hday : Date.day ⟨-262143, 1, 1⟩ = daysBefore (-262143) - epoch := by decide
  have hlast : Date.day ⟨262142, 12, 31⟩ = daysBefore (262142 + 1) - epoch - 1 := by decide
  rw [earliest, hday] at hearliest
  rw [latest, hlast] at hlatest
  rw [secondsPerDay] at hearliest hlatest
  rw [date, secondsPerDay]
  exact Date.year_bounds (by omega) (by omega)

/-- The date of an instant is a date. -/
theorem date_valid (i : Instant) : i.date.Valid ∧ 1 ≤ i.date.month ∧ i.date.month ≤ 12 := by
  obtain ⟨hvalid, hmonth, hmonth', -⟩ := Date.ofDay_spec (i.second / secondsPerDay)
  exact ⟨hvalid, hmonth, hmonth'⟩

end SubscriptionBilling.Instant
