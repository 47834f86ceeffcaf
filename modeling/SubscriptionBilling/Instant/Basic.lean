import SubscriptionBilling.Instant.Calendar
/-!
# Instants

An instant is a number of seconds since the beginning of 1970, always in
universal time, and a number of nanoseconds.  A leap second is the last second
of a minute with a second more of nanoseconds, so that it lies between that
second and the next.  The seconds range over the years -262143 to 262142.

* instants are ordered by their seconds, then by their nanoseconds;
* `Instant.add?` moves an instant by whole seconds and leaves a leap second
  towards the side it moves to;
* `Instant.addDays?` and `Instant.addDays` move it by days, and differ in what
  they say when the days or the result are out of bounds.
-/

namespace SubscriptionBilling

/-- The seconds of a day. -/
def Instant.secondsPerDay : Int := 86400

/-- The first second of the range. -/
def Instant.earliest : Int := (Instant.Date.day ⟨-262143, 1, 1⟩) * Instant.secondsPerDay

/-- The last second of the range. -/
def Instant.latest : Int :=
  (Instant.Date.day ⟨262142, 12, 31⟩) * Instant.secondsPerDay + (Instant.secondsPerDay - 1)

/-- What the parts of an instant have to satisfy. -/
def Instant.Valid (second : Int) (nano : Nat) : Prop :=
  Instant.earliest ≤ second ∧ second ≤ Instant.latest ∧ nano < 2000000000
    ∧ (nano < 1000000000 ∨ second % 60 = 59)

instance (second : Int) (nano : Nat) : Decidable (Instant.Valid second nano) := by
  unfold Instant.Valid
  infer_instance

/-- A point in time. -/
structure Instant where
  second : Int
  nano : Nat
  valid : Instant.Valid second nano
deriving DecidableEq

namespace Instant

/-- The instant of its parts, if there is one. -/
def of? (second : Int) (nano : Nat) : Option Instant :=
  if h : Valid second nano then some ⟨second, nano, h⟩ else none

instance : Inhabited Instant := ⟨⟨0, 0, by decide⟩⟩

/-- The instant lies inside a leap second. -/
def isLeapSecond (i : Instant) : Bool := 1000000000 ≤ i.nano

/-- One instant is earlier than another. -/
def before (a b : Instant) : Bool :=
  a.second < b.second || (a.second == b.second && a.nano < b.nano)

/-- One instant is later than another. -/
def after (a b : Instant) : Bool := b.before a

/-- The order of two instants. -/
def order (a b : Instant) : Ordering :=
  if a.before b then .lt else if b.before a then .gt else .eq

/-- The largest number of milliseconds in a length of time. -/
def largestSpan : Int := 9223372036854775807

/-- The seconds of a number of days, if it is a length of time at all. -/
def secondsOf? (days : Int) : Option Int :=
  if -largestSpan ≤ days * secondsPerDay * 1000 ∧ days * secondsPerDay * 1000 ≤ largestSpan then
    some (days * secondsPerDay)
  else none

/-- The instant so many seconds later; nothing outside the range.  A leap second
is left by moving: forwards it counts as the second it extends, backwards as
the second that follows. -/
def add? (i : Instant) (seconds : Int) : Option Instant :=
  if i.isLeapSecond then
    if 0 < seconds then of? (i.second + seconds) (i.nano - 1000000000)
    else if seconds < 0 then of? (i.second + 1 + seconds) (i.nano - 1000000000)
    else some i
  else of? (i.second + seconds) i.nano

/-- The instant so many days later, if there is one. -/
def addDays? (i : Instant) (days : Int) : Option Instant := (secondsOf? days).bind i.add?

/-- Why an instant cannot be moved: the days are no length of time, or they lead
out of the range. -/
inductive Overflow where
  | span
  | instant
deriving DecidableEq

/-- The instant so many days later, or what went over its bound. -/
def addDays (i : Instant) (days : Int) : Except Overflow Instant :=
  match secondsOf? days with
  | none => .error .span
  | some seconds =>
    match i.add? seconds with
    | none => .error .instant
    | some j => .ok j

end Instant

end SubscriptionBilling
