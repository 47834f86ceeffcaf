import SubscriptionBilling.Subscription.Terms
/-!
# Adding days to an instant

Days are added in exact arithmetic: outside a leap second the sum is the instant
so many days of 86400 seconds later, and there is none exactly if that lies
outside the range (`addDays?_eq_some_iff`, `addDays?_eq_none_iff`).  A leap second
counts as the second that it extends as soon as any days are added to it
(`addDays?_forward_iff`), and so it is the exception to `before_addDays?`.

Both ways to say that there is no sum say it of the same sums
(`addDays?_eq_none_iff_addDays`), the days that are no length of time among them
(`addDays_eq_span_iff`).
-/

namespace SubscriptionBilling

namespace Instant

variable {i j stop stop' : Instant} {days days' second : Int} {nano : Nat}

/-! ## Order and range -/

/-- One instant is before another by its second, or by its nanosecond in the same
second. -/
theorem before_iff :
    i.before j = true ↔ i.second < j.second ∨ i.second = j.second ∧ i.nano < j.nano := by
  simp [before]

/-- There are instants in this second. -/
def InRange (second : Int) : Prop := earliest ≤ second ∧ second ≤ latest

theorem inRange (i : Instant) : InRange i.second := ⟨i.valid.1, i.valid.2.1⟩

theorem earliest_eq : earliest = -8334601228800 := by decide

theorem latest_eq : latest = 8210266876799 := by decide

/-- An instant is in a leap second just if its nanoseconds reach a whole second. -/
theorem isLeapSecond_eq_false_iff : i.isLeapSecond = false ↔ i.nano < 1000000000 := by
  simp [isLeapSecond]

/-- An instant of a second and a nanosecond has these two, and there is no other that
has. -/
theorem of?_eq_some_iff : of? second nano = some i ↔ i.second = second ∧ i.nano = nano := by
  unfold of?
  constructor
  · intro h
    split at h
    · cases h
      exact ⟨rfl, rfl⟩
    · cases h
  · rintro ⟨rfl, rfl⟩
    exact dif_pos i.valid

/-- There is no instant of a second just if the second is out of range, as long as the
nanoseconds are fewer than a second. -/
theorem of?_eq_none_iff (h : nano < 1000000000) : of? second nano = none ↔ ¬ InRange second := by
  have hvalid : Valid second nano ↔ InRange second :=
    ⟨fun hv => ⟨hv.1, hv.2.1⟩, fun hr => ⟨hr.1, hr.2, by omega, .inl h⟩⟩
  rw [← hvalid, of?, dite_eq_right_iff]
  simp

/-! ## Lengths of time -/

/-- A number of days is no span of time just if its milliseconds do not fit 64 bits. -/
theorem secondsOf?_eq_none_iff :
    secondsOf? days = none ↔ ¬ (-largestSpan ≤ days * secondsPerDay * 1000 ∧
      days * secondsPerDay * 1000 ≤ largestSpan) := by
  unfold secondsOf?
  split <;> simp [*]

/-- Days that lead from one second of the range to another are a length of time. -/
theorem secondsOf?_of_inRange (hstart : InRange second)
    (hstop : InRange (second + days * secondsPerDay)) :
    secondsOf? days = some (days * secondsPerDay) := by
  have hearliest := earliest_eq
  have hlatest := latest_eq
  unfold InRange at hstart hstop
  unfold secondsOf? largestSpan
  rw [if_pos]
  omega

/-- The span of some days is that many times the seconds of a day. -/
theorem eq_of_secondsOf?_eq_some {seconds : Int} (h : secondsOf? days = some seconds) :
    days * secondsPerDay = seconds := by
  unfold secondsOf? at h
  split at h
  · exact Option.some.inj h
  · cases h

/-! ## The sum -/

/-- If the seconds of the days are added exactly, the days are. -/
theorem addDays?_eq_some_iff_of_add?
    (h : i.add? (days * secondsPerDay) = of? (i.second + days * secondsPerDay) nano) :
    i.addDays? days = some stop ↔
      stop.second = i.second + days * secondsPerDay ∧ stop.nano = nano := by
  constructor
  · intro hsum
    obtain ⟨seconds, hseconds, hstop⟩ := Option.bind_eq_some_iff.mp hsum
    rw [← eq_of_secondsOf?_eq_some hseconds, h] at hstop
    exact of?_eq_some_iff.mp hstop
  · rintro ⟨hsecond, hnano⟩
    have hspan := secondsOf?_of_inRange i.inRange (hsecond ▸ stop.inRange)
    rw [addDays?, hspan, Option.bind_some, h]
    exact of?_eq_some_iff.mpr ⟨hsecond, hnano⟩

/-- No instant lies some days on just if the second that many days on is out of range;
that the days might be no span of time never matters, since they are out of range
before. -/
theorem addDays?_eq_none_iff_of_add?
    (h : i.add? (days * secondsPerDay) = of? (i.second + days * secondsPerDay) nano)
    (hnano : nano < 1000000000) :
    i.addDays? days = none ↔ ¬ InRange (i.second + days * secondsPerDay) := by
  by_cases hrange : InRange (i.second + days * secondsPerDay)
  · rw [addDays?, secondsOf?_of_inRange i.inRange hrange, Option.bind_some, h,
      of?_eq_none_iff hnano]
  · cases hseconds : secondsOf? days with
    | none =>
        rw [addDays?, hseconds]
        simp [hrange]
    | some seconds =>
        rw [addDays?, hseconds, Option.bind_some, ← eq_of_secondsOf?_eq_some hseconds, h,
          of?_eq_none_iff hnano]

/-- Outside of leap seconds, seconds are added to the second and the nanosecond stays.
-/
theorem add?_of_not_leap (h : i.isLeapSecond = false) (seconds : Int) :
    i.add? seconds = of? (i.second + seconds) i.nano := by
  rw [add?, h]
  rfl

/-- Going forward, a leap second is the second that it extends. -/
theorem add?_forward (i : Instant) {seconds : Int} (h : 0 < seconds) :
    i.add? seconds = of? (i.second + seconds) (i.nano % 1000000000) := by
  have hbound := i.valid.2.2.1
  cases hleap : i.isLeapSecond with
  | false =>
      rw [add?_of_not_leap hleap, Nat.mod_eq_of_lt (isLeapSecond_eq_false_iff.mp hleap)]
  | true =>
      have hnano : i.nano - 1000000000 = i.nano % 1000000000 := by
        have hlarge : 1000000000 ≤ i.nano := by simpa [isLeapSecond] using hleap
        omega
      rw [add?, hleap, if_pos rfl, if_pos h, hnano]

/-- Outside a leap second, the sum is exact. -/
theorem addDays?_eq_some_iff (h : i.isLeapSecond = false) :
    i.addDays? days = some stop ↔
      stop.second = i.second + days * secondsPerDay ∧ stop.nano = i.nano :=
  addDays?_eq_some_iff_of_add? (add?_of_not_leap h _)

/-- Outside of leap seconds there is no instant some days on just if the second that
many days on is out of range. -/
theorem addDays?_eq_none_iff (h : i.isLeapSecond = false) :
    i.addDays? days = none ↔ ¬ InRange (i.second + days * secondsPerDay) :=
  addDays?_eq_none_iff_of_add? (add?_of_not_leap h _) (isLeapSecond_eq_false_iff.mp h)

theorem seconds_pos (h : 0 < days) : 0 < days * secondsPerDay := by
  rw [secondsPerDay]
  omega

/-- Going forward, the sum is exact but for a leap second. -/
theorem addDays?_forward_iff (h : 0 < days) :
    i.addDays? days = some stop ↔
      stop.second = i.second + days * secondsPerDay ∧ stop.nano = i.nano % 1000000000 :=
  addDays?_eq_some_iff_of_add? (i.add?_forward (seconds_pos h))

/-- Some days on, also from within a leap second, there is no instant just if the second
that many days on is out of range. -/
theorem addDays?_forward_none_iff (h : 0 < days) :
    i.addDays? days = none ↔ ¬ InRange (i.second + days * secondsPerDay) :=
  addDays?_eq_none_iff_of_add? (i.add?_forward (seconds_pos h)) (Nat.mod_lt _ (by decide))

/-- No days on is the same instant, also in a leap second. -/
theorem addDays?_zero (i : Instant) : i.addDays? 0 = some i := by
  have hstay : i.add? 0 = some i := by
    cases hleap : i.isLeapSecond with
    | false =>
        rw [add?_of_not_leap hleap, of?_eq_some_iff]
        exact ⟨(Int.add_zero _).symm, rfl⟩
    | true =>
        rw [add?, hleap]
        rfl
  exact hstay

/-! ## Both ways to add -/

/-- Where there is an instant, the variant that otherwise says why there is none comes
back with the same one. -/
theorem addDays_eq_ok_iff : i.addDays days = .ok stop ↔ i.addDays? days = some stop := by
  unfold addDays addDays?
  cases secondsOf? days with
  | none => simp
  | some seconds =>
      dsimp only [Option.bind_some]
      cases i.add? seconds <;> simp

/-- There is no sum exactly if adding the days goes over a bound. -/
theorem addDays?_eq_none_iff_addDays :
    i.addDays? days = none ↔ ∃ overflow, i.addDays days = .error overflow := by
  cases hsum : i.addDays days with
  | error overflow =>
      have hnone : i.addDays? days = none := by
        rw [Option.eq_none_iff_forall_ne_some]
        intro stop hstop
        rw [addDays_eq_ok_iff.mpr hstop] at hsum
        cases hsum
      simp [hnone]
  | ok stop => simp [addDays_eq_ok_iff.mp hsum]

/-- The days go over their bound if their milliseconds do. -/
theorem addDays_eq_span_iff :
    i.addDays days = .error .span ↔ ¬ (-largestSpan ≤ days * secondsPerDay * 1000 ∧
      days * secondsPerDay * 1000 ≤ largestSpan) := by
  rw [← secondsOf?_eq_none_iff]
  unfold addDays
  cases secondsOf? days with
  | none => simp
  | some seconds =>
      dsimp only
      cases i.add? seconds <;> simp

/-! ## Order of sums -/

/-- Of two instants outside leap seconds, the later one stays the later one. -/
theorem before_addDays? (hi : i.isLeapSecond = false) (hj : j.isLeapSecond = false)
    (h : i.before j = true) (hstop : i.addDays? days = some stop)
    (hstop' : j.addDays? days = some stop') : stop.before stop' = true := by
  obtain ⟨hsecond, hnano⟩ := (addDays?_eq_some_iff hi).mp hstop
  obtain ⟨hsecond', hnano'⟩ := (addDays?_eq_some_iff hj).mp hstop'
  rw [before_iff] at h ⊢
  rw [hsecond, hsecond', hnano, hnano']
  omega

/-- More days lead further. -/
theorem before_of_more_days (hdays : 0 ≤ days) (h : days < days')
    (hstop : i.addDays? days = some stop) (hstop' : i.addDays? days' = some stop') :
    stop.before stop' = true := by
  obtain ⟨hsecond', -⟩ := (addDays?_forward_iff (by omega)).mp hstop'
  have hsecond : stop.second = i.second + days * secondsPerDay := by
    rcases Int.le_iff_eq_or_lt.mp hdays with hzero | hpositive
    · rw [← hzero, addDays?_zero] at hstop
      cases hstop
      rw [← hzero, Int.zero_mul, Int.add_zero]
    · exact ((addDays?_forward_iff hpositive).mp hstop).1
  rw [before_iff, hsecond, hsecond', secondsPerDay]
  omega

end Instant

end SubscriptionBilling
