/-!
# The calendar

Days are numbered from 1 January 1970.  `Date.ofDay` finds the date of a day in
the Gregorian calendar, extended to all years, and `Date.day` the day of a
date.  A year begins after as many days as `daysBefore` counts, and a month
after the lengths of the months before it.
-/

namespace SubscriptionBilling.Instant

/-- A year, a month from 1 to 12 and a day of the month from 1. -/
structure Date where
  year : Int
  month : Nat
  dayOfMonth : Nat
deriving DecidableEq, Repr

/-- Years with a 29 February. -/
def isLeap (year : Int) : Bool :=
  year % 4 == 0 && (year % 100 != 0 || year % 400 == 0)

/-- The days from 1 January of year 0 to 1 January of a year. -/
def daysBefore (year : Int) : Int :=
  365 * year + (year + 3) / 4 - (year + 99) / 100 + (year + 399) / 400

/-- The number of days from 1 January of year 0 to the day with number zero. -/
def epoch : Int := daysBefore 1970

/-- The lengths of the months of a year. -/
def monthLengths (leap : Bool) : List Nat :=
  [31, if leap then 29 else 28, 31, 30, 31, 30, 31, 31, 30, 31, 30, 31]

/-- The month and day of the month of a day counted from the first of a year,
given the lengths of the months from the given one on. -/
def monthOf (month : Nat) : List Nat → Nat → Nat × Nat
  | [], day => (month, day + 1)
  | length :: rest, day =>
    if day < length then (month, day + 1) else monthOf (month + 1) rest (day - length)

/-- The number of days of a year before a month. -/
def daysBeforeMonth (leap : Bool) (month : Nat) : Nat :=
  ((monthLengths leap).take (month - 1)).foldr (· + ·) 0

/-- The length of a month; zero for a number that is no month. -/
def monthLength (leap : Bool) (month : Nat) : Nat :=
  if month = 0 then 0 else ((monthLengths leap)[month - 1]?).getD 0

/-- The year that holds a day counted from 1 January of year 0. -/
def yearOf (day : Int) : Int :=
  let guess := 400 * day / 146097
  if day < daysBefore guess then guess - 1
  else if day < daysBefore (guess + 1) then guess
  else guess + 1

namespace Date

/-- The date of a day. -/
def ofDay (day : Int) : Date :=
  let n := day + epoch
  let year := yearOf n
  let (month, dayOfMonth) :=
    monthOf 1 (monthLengths (isLeap year)) (n - daysBefore year).toNat
  ⟨year, month, dayOfMonth⟩

/-- The day of a date. -/
def day (date : Date) : Int :=
  daysBefore date.year + daysBeforeMonth (isLeap date.year) date.month
    + date.dayOfMonth - 1 - epoch

/-- The month has such a day. -/
def Valid (date : Date) : Prop :=
  1 ≤ date.dayOfMonth ∧ date.dayOfMonth ≤ monthLength (isLeap date.year) date.month

instance (date : Date) : Decidable date.Valid := by
  unfold Valid
  infer_instance

end Date

end SubscriptionBilling.Instant
