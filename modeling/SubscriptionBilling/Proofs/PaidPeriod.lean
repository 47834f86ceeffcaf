import SubscriptionBilling.Proofs.Days
import SubscriptionBilling.Proofs.Payment
import SubscriptionBilling.Proofs.Refusal
import SubscriptionBilling.Settings.Basic
/-!
# Paid periods

The end of a paid period is so many days after its beginning, and it is refused
only where there is no such instant.  Settings that were found valid ask for a
year and a day at most, and for a day at least.  So unless time itself is about to
run out, no paid invoice is refused for its period, and what it renews or creates
is paid for at the reading of the clock that it began with (`paid_periods`).

What a delivery renews or creates is told from its calls (`Journal.Writes`), as
it may break off half way.  `Trial.PaidIn` says of two moments that whatever was
written between them is paid until the same instant; one turn keeps it
(`paidIn_turn`), and with it a pass and the whole delivery (`pays_renew`).
-/

namespace SubscriptionBilling

/-! ## The end of a period -/

namespace Terms

variable {terms terms' : Terms} {start later stop stop' : Instant}

/-- The length of a period in seconds. -/
def seconds (terms : Terms) : Int := terms.periodDays.toNat * Instant.secondsPerDay

/-- The end of a period fails just where the instant that many days on is out of range,
and always with the failure that names the days. -/
theorem periodEnd_eq_error_iff {failure : Failure} :
    terms.periodEnd start = .error failure ↔
      start.addDays? terms.periodDays.toNat = none ∧ failure = terms.outOfRange := by
  cases hsum : start.addDays? terms.periodDays.toNat with
  | none => simp [periodEnd_of_none hsum, eq_comm]
  | some stop => simp [periodEnd_of_some hsum]

/-- A period is refused with a failure that names its length. -/
theorem outOfRange_field (terms : Terms) :
    terms.outOfRange.code = .validationFailed ∧
      terms.outOfRange.details.find? "field" = some "period_days" :=
  ⟨rfl, rfl⟩

/-- How a period that does not begin in a leap second can end. -/
structure EndsExactly (terms : Terms) (start : Instant) : Prop where
  ends : ∀ stop, terms.periodEnd start = .ok stop ↔
    stop.second = start.second + terms.seconds ∧ stop.nano = start.nano
  inRange : (∃ stop, terms.periodEnd start = .ok stop) ↔
    Instant.InRange (start.second + terms.seconds)
  outOfRange : ∀ failure, terms.periodEnd start = .error failure ↔
    ¬ Instant.InRange (start.second + terms.seconds) ∧ failure = terms.outOfRange

/-- Outside of leap seconds a period ends exactly its days later, to the nanosecond. -/
theorem endsExactly (terms : Terms) (h : start.isLeapSecond = false) :
    terms.EndsExactly start where
  ends stop := by
    rw [periodEnd_eq_ok_iff]
    exact Instant.addDays?_eq_some_iff h
  inRange := by
    have hnone : start.addDays? terms.periodDays.toNat = none ↔
        ¬ Instant.InRange (start.second + terms.seconds) := Instant.addDays?_eq_none_iff h
    simp only [periodEnd_eq_ok_iff]
    rw [← Option.ne_none_iff_exists', ne_eq, hnone, not_not]
  outOfRange failure := by
    rw [periodEnd_eq_error_iff, Instant.addDays?_eq_none_iff h]
    rfl

/-- A longer period ends later, from the same start, wherever both of them end in range.
-/
theorem before_of_longer (h : terms.periodDays < terms'.periodDays)
    (hstop : terms.periodEnd start = .ok stop) (hstop' : terms'.periodEnd start = .ok stop') :
    stop.before stop' = true := by
  have hdays : terms.periodDays.toNat < terms'.periodDays.toNat := UInt32.lt_iff_toNat_lt.mp h
  rw [periodEnd_eq_ok_iff] at hstop hstop'
  exact Instant.before_of_more_days (by omega) (by omega) hstop hstop'

end Terms

/-! ## Valid settings -/

namespace Settings.Billing

/-- Valid settings have a period of one day up to 366. -/
theorem period_of_validate {b : Billing} (h : b.validate = .ok ()) :
    1 ≤ b.terms.periodDays.toNat ∧ b.terms.periodDays.toNat ≤ 366 := by
  unfold validate at h
  split at h
  · cases h
  · rename_i hperiod
    rw [not_or, UInt32.not_lt] at hperiod
    have hpositive : b.periodDays.toNat ≠ 0 := fun hzero =>
      hperiod.1 (UInt32.toNat_inj.mp hzero)
    have hlongest : b.periodDays.toNat ≤ 366 := UInt32.le_iff_toNat_le.mp hperiod.2
    exact ⟨Nat.one_le_iff_ne_zero.mpr hpositive, hlongest⟩

/-- A valid period fits in before the last year of the range, and ends after it
began. -/
theorem exists_periodEnd {b : Billing} (h : b.validate = .ok ()) {now : Instant}
    (hroom : now.second + 366 * Instant.secondsPerDay ≤ Instant.latest) :
    ∃ periodEnd, b.terms.periodEnd now = .ok periodEnd ∧ now.before periodEnd = true := by
  obtain ⟨hlow, hhigh⟩ := period_of_validate h
  have hforward : (0 : Int) < b.terms.periodDays.toNat := by omega
  have hrange : Instant.InRange
      (now.second + b.terms.periodDays.toNat * Instant.secondsPerDay) := by
    have hnow := now.inRange.1
    rw [Instant.secondsPerDay] at hroom ⊢
    exact ⟨by omega, by omega⟩
  cases hsum : now.addDays? b.terms.periodDays.toNat with
  | none => exact absurd hrange ((Instant.addDays?_forward_none_iff hforward).mp hsum)
  | some stop =>
      obtain ⟨hsecond, -⟩ := (Instant.addDays?_forward_iff hforward).mp hsum
      have hlength := Instant.seconds_pos hforward
      refine ⟨stop, Terms.periodEnd_of_some hsum, Instant.before_iff.mpr (.inl ?_)⟩
      omega

end Settings.Billing

/-- A subscription is paid for up to an instant: not expired before, and expired
from then on. -/
structure Subscription.PaidFrom (s : Subscription) (now periodEnd : Instant) : Prop where
  expiresAt : s.expiresAt = periodEnd
  unexpired : s.isExpiredAt now = false
  expired : ∀ later : Instant, later.before periodEnd = false → s.isExpiredAt later = true

/-- A subscription that expires at the end of a period which is still to come is not
expired now, and is from that end on. -/
theorem Subscription.paidFrom_of_expiresAt {s : Subscription} {now periodEnd : Instant}
    (h : s.expiresAt = periodEnd) (hbefore : now.before periodEnd = true) :
    s.PaidFrom now periodEnd := by
  have hexpired : ∀ instant, s.isExpiredAt instant = !instant.before periodEnd := by
    intro instant
    rw [isExpiredAt, Instant.after, h]
  refine ⟨h, ?_, ?_⟩
  · rw [hexpired, hbefore]
    rfl
  · intro later hlater
    rw [hexpired, hlater]
    rfl

/-! ## What a delivery writes -/

/-- A subscription was written: an update of it was let through, or it was saved. -/
def Journal.Writes (j : Journal) (id : SubscriptionId) : Prop :=
  (.modifySubscription id, none) ∈ j ∨
    ∃ s : Subscription, s.id = id ∧ (.saveSubscription s, none) ∈ j

/-- Calls one after the other write what the first ones write and what the later ones
write. -/
theorem Journal.writes_append {j k : Journal} {id : SubscriptionId} :
    Journal.Writes (j ++ k) id ↔ j.Writes id ∨ k.Writes id := by
  unfold Writes
  simp only [List.mem_append]
  constructor
  · rintro ((h | h) | ⟨s, hid, h | h⟩)
    · exact .inl (.inl h)
    · exact .inr (.inl h)
    · exact .inl (.inr ⟨s, hid, h⟩)
    · exact .inr (.inr ⟨s, hid, h⟩)
  · rintro ((h | ⟨s, hid, h⟩) | (h | ⟨s, hid, h⟩))
    · exact .inl (.inl h)
    · exact .inr ⟨s, hid, .inl h⟩
    · exact .inl (.inr h)
    · exact .inr ⟨s, hid, .inr h⟩

namespace Trial

/-- The subscriptions that were written are paid until an instant, as far as they
are stored, and all others are as they were. -/
structure Wrote (periodEnd : Instant) (store : SubscriptionStore) (new : Journal)
    (store' : SubscriptionStore) : Prop where
  written : ∀ id s, new.Writes id → store'.find? id = some s → s.expiresAt = periodEnd
  kept : ∀ id, ¬ new.Writes id → store'.find? id = store.find? id

/-- What was written between two moments is paid until an instant. -/
def PaidIn (periodEnd : Instant) (t t' : Trial World) : Prop :=
  ∃ new, t'.journal = t.journal ++ new ∧
    Wrote periodEnd t.state.subscriptions new t'.state.subscriptions

variable {plan : Plan} {periodEnd : Instant} {t t' t'' : Trial World}

/-- Calls that write nothing leave nothing to be paid for, as long as the store is as
before. -/
theorem paidIn_of_kept {new : Journal} (hjournal : t'.journal = t.journal ++ new)
    (hstore : t'.state.subscriptions = t.state.subscriptions) (hquiet : ∀ id, ¬ new.Writes id) :
    PaidIn periodEnd t t' := by
  refine ⟨new, hjournal, ?_, ?_⟩
  · intro id s hwrites
    exact absurd hwrites (hquiet id)
  · intro id _
    rw [hstore]

theorem paidIn_refl (t : Trial World) : PaidIn periodEnd t t :=
  paidIn_of_kept (List.append_nil _).symm rfl (by simp [Journal.Writes])

/-- What was written on the first part of a way has the end of the period still, or was
written again on the second part. -/
theorem PaidIn.trans (h : PaidIn periodEnd t t') (h' : PaidIn periodEnd t' t'') :
    PaidIn periodEnd t t'' := by
  obtain ⟨new, hnew, hwrote⟩ := h
  obtain ⟨new', hnew', hwrote'⟩ := h'
  refine ⟨new ++ new', by rw [hnew', hnew, List.append_assoc], ?_, ?_⟩
  · intro id s hwrites hfind
    by_cases hlater : new'.Writes id
    · exact hwrote'.written id s hlater hfind
    · have hearlier := (Journal.writes_append.mp hwrites).resolve_right hlater
      rw [hwrote'.kept id hlater] at hfind
      exact hwrote.written id s hearlier hfind
  · intro id hquiet
    rw [Journal.writes_append, not_or] at hquiet
    rw [hwrote'.kept id hquiet.2, hwrote.kept id hquiet.1]

/-- One subscription is written with the end of the period, and the calls say that it
was this one and no other. -/
theorem paidIn_set {new : Journal} {id : SubscriptionId} {s : Subscription}
    (hjournal : t'.journal = t.journal ++ new)
    (hstore : t'.state.subscriptions = t.state.subscriptions.set id s)
    (hpaid : s.expiresAt = periodEnd) (hwrites : ∀ other, new.Writes other ↔ other = id) :
    PaidIn periodEnd t t' := by
  refine ⟨new, hjournal, ?_, ?_⟩
  · intro other s' hother hfind
    rw [hstore, OrderedMap.find?_set, if_pos ((hwrites other).mp hother).symm] at hfind
    cases hfind
    exact hpaid
  · intro other hother
    rw [hwrites] at hother
    rw [hstore, OrderedMap.find?_set, if_neg (Ne.symm hother)]

theorem paidIn_noted (t : Trial World) (c : Call) (failure : Failure) :
    PaidIn periodEnd t (t.noted c (some failure)) :=
  paidIn_of_kept rfl rfl (by simp [Journal.Writes])

/-- A turn of a renewal pays for its subscription, if it is stored. -/
theorem paidIn_turn (plan : Plan) (periodEnd : Instant) (id : SubscriptionId) (t : Trial World) :
    PaidIn periodEnd t (turn plan (.renewal periodEnd) id t).2 := by
  have hturn := turn_cases plan (.renewal periodEnd) id t
  generalize turn plan (.renewal periodEnd) id t = x at hturn ⊢
  obtain ⟨result, t'⟩ := x
  dsimp only at hturn ⊢
  have hpaid : ∀ {now s tr s'}, Update.renewal periodEnd now s = .ok (tr, s') →
      s'.expiresAt = periodEnd := by
    intro now s tr s' hupdate
    have hrenewed : s.renew periodEnd now = (tr, s') := Except.ok.inj hupdate
    have hend := (s.renew_paidUntil periodEnd now).expiresAt
    rwa [hrenewed] at hend
  cases hturn with
  | blocked failure => exact paidIn_noted t _ failure
  | missing hcall hfind =>
      -- The update was let through, and there was nothing to write to.
      refine ⟨[(.modifySubscription id, none)], rfl, ?_, fun _ _ => rfl⟩
      intro other s hother hfound
      have hid : other = id := by simpa [Journal.Writes] using hother
      have hnone : t.state.subscriptions.find? other = none := hid ▸ hfind
      cases hnone.symm.trans hfound
  | refused s failure hcall hfind hupdate => cases hupdate
  | silent s s' tr hcall hfind hupdate hsame =>
      exact paidIn_set rfl rfl (hpaid hupdate) (by simp [Journal.Writes])
  | answered s s' tr answer hcall hfind hupdate hchanged hanswer =>
      refine paidIn_set ((journal_handing t id s' (tr, s') answer).trans
        (List.append_assoc _ _ _)) rfl (hpaid hupdate) ?_
      simp [Journal.Writes]

/-- A pass writes one subscription after the other, each with the end of the period. -/
theorem paidIn_pass (plan : Plan) (periodEnd : Instant) (ids : List SubscriptionId)
    (t : Trial World) : PaidIn periodEnd t (pass plan (.renewal periodEnd) ids t).2 :=
  related_pass (PaidIn periodEnd) paidIn_refl (fun h h' => h.trans h')
    (fun id (_ : id ∈ ids) t => paidIn_turn plan periodEnd id t) t

/-- A first subscription is saved with the end of the period. -/
theorem paidIn_save (plan : Plan) (t : Trial World) {s : Subscription}
    (h : s.expiresAt = periodEnd) : PaidIn periodEnd t (save plan t s).2 := by
  rw [save]
  cases plan t.journal (.saveSubscription s) with
  | some failure => exact paidIn_noted t _ failure
  | none => exact paidIn_set rfl rfl h (by simp [Journal.Writes, eq_comm])

/-! ## Why a delivery fails -/

/-- The last call of a delivery met a failure: the call was not let through, or it
was an update of what is not stored. -/
inductive MetBy (failure : Failure) (w : World) : Call × Option Failure → Prop
  | refused (c : Call) : MetBy failure w (c, some failure)
  | missing (id : SubscriptionId) (hfind : w.subscriptions.find? id = none)
      (hfailure : failure = SubscriptionStore.missing id) :
      MetBy failure w (.modifySubscription id, none)

/-- A failure that ends a pass was met by its last call: the plan refused that call, or
it was the modification of what is not stored. -/
theorem EndsAt.metBy {failure : Failure} {w : World} {last : Call × Option Failure}
    (h : EndsAt failure w last) : MetBy failure w last := by
  cases h with
  | blocked id => exact .refused _
  | missing id hfind hfailure => exact .missing id hfind hfailure
  | unheard e => exact .refused _

/-- A paid invoice pays for what it writes, and fails only with a call. -/
structure Pays (periodEnd : Instant) (t : Trial World) (r : Except Failure Unit × Trial World) :
    Prop where
  paidIn : PaidIn periodEnd t r.2
  failed : ∀ failure, r.1 = .error failure →
    ∃ front last, r.2.journal = front ++ [last] ∧ MetBy failure r.2.state last

theorem pays_noted (t : Trial World) (c : Call) (failure : Failure) :
    Pays periodEnd t (.error failure, t.noted c (some failure)) := by
  refine ⟨paidIn_noted t c failure, ?_⟩
  intro _ herror
  cases herror
  exact ⟨_, _, rfl, .refused c⟩

theorem pays_refl (t : Trial World) : Pays periodEnd t (.ok (), t) := by
  refine ⟨paidIn_refl t, ?_⟩
  intro _ herror
  cases herror

/-- What came before a payment may have written too, as long as it wrote the end of the
period. -/
theorem Pays.after {r : Except Failure Unit × Trial World} (h : Pays periodEnd t' r)
    (hbefore : PaidIn periodEnd t t') : Pays periodEnd t r :=
  ⟨hbefore.trans h.paidIn, h.failed⟩

/-- A pass pays for each subscription that it gets to, and where it fails it does so at
its last call. -/
theorem pays_pass (plan : Plan) (periodEnd : Instant) (ids : List SubscriptionId)
    (t : Trial World) : Pays periodEnd t (pass plan (.renewal periodEnd) ids t) := by
  refine ⟨paidIn_pass plan periodEnd ids t, ?_⟩
  intro failure herror
  obtain ⟨front, last, hjournal, hends⟩ := ended_pass (Update.renewal_total periodEnd) ids herror
  exact ⟨front, last, hjournal, hends.metBy⟩

/-- To save a first subscription pays for it, or fails and writes nothing. -/
theorem pays_save (plan : Plan) (t : Trial World) {s : Subscription}
    (h : s.expiresAt = periodEnd) : Pays periodEnd t (save plan t s) := by
  refine ⟨paidIn_save plan t h, ?_⟩
  intro failure herror
  rw [save] at herror ⊢
  cases hcall : plan t.journal (.saveSubscription s) with
  | some refusal =>
      rw [hcall] at herror
      cases herror
      exact ⟨_, _, rfl, .refused _⟩
  | none =>
      rw [hcall] at herror
      cases herror

/-- The listing of a customer, the clock and the UUIDs write nothing. -/
theorem paidIn_listing (periodEnd : Instant) (customer : Customer) (t : Trial World) :
    PaidIn periodEnd t (t.listing customer) ∧
      PaidIn periodEnd t (t.listing customer).drawn.ticked :=
  ⟨paidIn_of_kept rfl rfl (by simp [Journal.Writes]),
    paidIn_of_kept rfl rfl (by simp [Journal.Writes])⟩

/-- A renewal whose period has an end pays until then: it creates a first subscription
that ends there, or goes over all of them. -/
theorem pays_renewal (plan : Plan) (terms : Terms) (data : Json) (customer : Customer)
    (periodEnd : Instant) (t : Trial World) :
    Pays periodEnd t (renewal plan terms data customer (.ok periodEnd) t) := by
  obtain ⟨hlisting, hdrawn⟩ := paidIn_listing periodEnd customer t
  unfold renewal
  dsimp only
  cases plan t.journal (.listSubscriptions customer.id) with
  | some failure => exact pays_noted t _ failure
  | none =>
      dsimp only
      cases SubscriptionStore.ofCustomer t.state.subscriptions customer.id with
      | nil =>
          have hpaid : (firstOf terms customer data periodEnd
              (t.listing customer).state).expiresAt = periodEnd := rfl
          exact (pays_save plan _ hpaid).after hdrawn
      | cons s rest => exact (pays_pass plan periodEnd _ _).after hlisting

variable {H : Type}

/-- Looking for a customer writes nothing, so that nothing has to be paid for. -/
theorem Looked.paidIn (h : Looked t t') (periodEnd : Instant) : PaidIn periodEnd t t' := by
  rcases h with rfl | ⟨providerId, rfl⟩
  · exact paidIn_refl _
  · exact paidIn_of_kept rfl rfl (by simp [Journal.Writes])

/-- A trial that only looked somebody up has the stores and the clock that it had. -/
theorem Looked.state (h : Looked t t') : t'.state = t.state := by
  rcases h with rfl | ⟨providerId, rfl⟩
  · rfl
  · rfl

/-- **A paid invoice** whose period has an end pays until then, whoever is meant by it:
somebody with subscriptions, somebody without, or nobody. -/
theorem pays_renew (plan : Plan) {terms : Terms} (data : Json) {t : Trial World}
    (hperiod : terms.periodEnd t.state.clock = .ok periodEnd) :
    Pays periodEnd t (run plan (Routes.renew terms data : Service H Unit) t) := by
  rw [Routes.renew]
  rcases customerOf_looked (H := H) plan t data Routes.invoicePaidType with
    ⟨providerId, failure, -, hrun⟩ | ⟨t', hlooked, hrun⟩
  · rw [run_forCustomer_error hrun]
    exact pays_noted t _ failure
  · have hbefore := hlooked.paidIn periodEnd
    cases hknown : CustomerStore.ofBody? t.state.customers data with
    | none =>
        rw [run_forCustomer_none (hknown ▸ hrun)]
        exact (pays_refl t').after hbefore
    | some customer =>
        rw [run_forCustomer_some (hknown ▸ hrun), run_renewAll, hlooked.state, hperiod]
        have hticked : PaidIn periodEnd t' t'.ticked :=
          paidIn_of_kept (List.append_nil _).symm rfl (by simp [Journal.Writes])
        exact (pays_renewal plan terms data customer periodEnd t'.ticked).after
          (hbefore.trans hticked)

/-- A delivery of a paid invoice is its service, whose failures come back
unaltered. -/
theorem run_receive_paid (plan : Plan) (t : Trial World) {payload : String} {webhook : Webhook}
    (hparse : Webhook.parse payload = .ok webhook) (hpaid : webhook.type = Routes.invoicePaidType)
    (terms : Terms) {error : WebhookError}
    (herror : (run plan (Intake.receive ⟨Routes.standard terms⟩ payload :
      ExceptT WebhookError (Activity H World) Intake.Receipt) t).1 = .error error) :
    ∃ failure, error = .failed failure ∧
      (run plan (Routes.renew terms webhook.data : Service H Unit) t).1 = .error failure := by
  rw [run_receive plan t hparse, Routes.service, if_pos hpaid, map_eq_error_iff] at herror
  cases hresult : (run plan (Routes.renew terms webhook.data : Service H Unit) t).1 with
  | ok a =>
      rw [hresult] at herror
      cases herror
  | error failure =>
      rw [hresult] at herror
      exact ⟨failure, (Except.error.inj herror).symm, rfl⟩

end Trial

/-- What a delivery of a paid invoice comes to, if its period has an end. -/
structure PaidDelivery (periodEnd : Instant) (t : Trial World)
    (r : Except WebhookError Intake.Receipt × Trial World) : Prop where
  /-- It fails only with the last of its calls, which met the failure. -/
  failed : ∀ error, r.1 = .error error → ∃ failure front last, error = .failed failure ∧
    r.2.journal = front ++ [last] ∧ Trial.MetBy failure r.2.state last
  /-- What it renews or creates is paid for from the reading of the clock that it
  began with until the end of the period, and nothing else is written. -/
  paid : ∃ new, r.2.journal = t.journal ++ new ∧
    (∀ id s, new.Writes id → r.2.state.subscriptions.find? id = some s →
      s.PaidFrom t.state.clock periodEnd) ∧
    ∀ id, ¬ new.Writes id →
      r.2.state.subscriptions.find? id = t.state.subscriptions.find? id

/-- **The delivery of a paid invoice.** What it writes is paid for until the end of the
period, and all else stays; where it fails, its last call met the failure. That the
payload reads and that the period ends in range, behind the reading of the clock, is all
that is asked for. -/
theorem paidDelivery {H : Type} (plan : Plan) {terms : Terms} {t : Trial World}
    {payload : String} {webhook : Webhook} {periodEnd : Instant}
    (hparse : Webhook.parse payload = .ok webhook) (hpaid : webhook.type = Routes.invoicePaidType)
    (hperiod : terms.periodEnd t.state.clock = .ok periodEnd)
    (hbefore : t.state.clock.before periodEnd = true) :
    PaidDelivery periodEnd t (Trial.run plan (Intake.receive ⟨Routes.standard terms⟩ payload :
      ExceptT WebhookError (Activity H World) Intake.Receipt) t) := by
  have hpays := Trial.pays_renew (H := H) plan webhook.data hperiod
  have hservice : (Trial.run plan (Intake.receive ⟨Routes.standard terms⟩ payload :
      ExceptT WebhookError (Activity H World) Intake.Receipt) t).2 =
        (Trial.run plan (Routes.renew terms webhook.data : Service H Unit) t).2 :=
    Trial.receive_paid plan t hparse hpaid terms
  refine ⟨?_, ?_⟩
  · intro error herror
    obtain ⟨failure, rfl, hfailed⟩ := Trial.run_receive_paid plan t hparse hpaid terms herror
    obtain ⟨front, last, hjournal, hmet⟩ := hpays.failed failure hfailed
    rw [hservice]
    exact ⟨failure, front, last, rfl, hjournal, hmet⟩
  · obtain ⟨new, hjournal, hwrote⟩ := hpays.paidIn
    rw [hservice]
    refine ⟨new, hjournal, ?_, hwrote.kept⟩
    intro id s hwrites hfind
    exact s.paidFrom_of_expiresAt (hwrote.written id s hwrites hfind) hbefore

/-- **Paid periods.**  A period ends exactly so many days after it began, outside
leap seconds, and is refused exactly where there is no such instant; both ways of
adding days agree on every number of days; later beginnings and longer periods
end later.  So with valid settings, and more than a year before time runs out, no
paid invoice fails for its period, and all that it writes is paid for. -/
theorem paid_periods {H : Type} :
    (∀ (terms : Terms) (start : Instant), start.isLeapSecond = false →
      terms.EndsExactly start ∧ terms.outOfRange.code = .validationFailed ∧
        terms.outOfRange.details.find? "field" = some "period_days") ∧
    (∀ (start : Instant) (days : Int),
      (start.addDays? days = none ↔ ∃ overflow, start.addDays days = .error overflow) ∧
      (∀ stop, start.addDays? days = some stop ↔ start.addDays days = .ok stop) ∧
      (start.addDays days = .error .span ↔
        ¬ (-Instant.largestSpan ≤ days * Instant.secondsPerDay * 1000 ∧
          days * Instant.secondsPerDay * 1000 ≤ Instant.largestSpan))) ∧
    (∀ (terms : Terms) (start later stop stop' : Instant), start.isLeapSecond = false →
      later.isLeapSecond = false → start.before later = true →
      terms.periodEnd start = .ok stop → terms.periodEnd later = .ok stop' →
      stop.before stop' = true) ∧
    (∀ (terms terms' : Terms) (start stop stop' : Instant),
      terms.periodDays < terms'.periodDays →
      terms.periodEnd start = .ok stop → terms'.periodEnd start = .ok stop' →
      stop.before stop' = true) ∧
    ∀ (billing : Settings.Billing) (plan : Plan) (t : Trial World) (payload : String)
      (webhook : Webhook), billing.validate = .ok () →
      Webhook.parse payload = .ok webhook → webhook.type = Routes.invoicePaidType →
      t.state.clock.second + 366 * Instant.secondsPerDay ≤ Instant.latest →
      ∃ periodEnd, billing.terms.periodEnd t.state.clock = .ok periodEnd ∧
        PaidDelivery periodEnd t
          (Trial.run plan (Intake.receive ⟨Routes.standard billing.terms⟩ payload :
            ExceptT WebhookError (Activity H World) Intake.Receipt) t) := by
  refine ⟨?_, ?_, ?_, ?_, ?_⟩
  · intro terms start hleap
    exact ⟨terms.endsExactly hleap, terms.outOfRange_field⟩
  · intro start days
    exact ⟨Instant.addDays?_eq_none_iff_addDays, fun stop => Instant.addDays_eq_ok_iff.symm,
      Instant.addDays_eq_span_iff⟩
  · intro terms start later stop stop' hstart hlater hbefore hstop hstop'
    rw [Terms.periodEnd_eq_ok_iff] at hstop hstop'
    exact Instant.before_addDays? hstart hlater hbefore hstop hstop'
  · intro terms terms' start stop stop' hdays hstop hstop'
    exact Terms.before_of_longer hdays hstop hstop'
  · intro billing plan t payload webhook hvalid hparse hpaid hroom
    obtain ⟨periodEnd, hperiod, hbefore⟩ := Settings.Billing.exists_periodEnd hvalid hroom
    exact ⟨periodEnd, hperiod, paidDelivery plan hparse hpaid hperiod hbefore⟩

/-- Thirty days under the default settings. -/
theorem paid_periods_default :
    Settings.Billing.default.validate = .ok () ∧
      ∃ periodEnd : Instant, periodEnd.second = Sample.world.clock.second + 30 * 86400 ∧
        PaidDelivery periodEnd (.new Sample.world)
          (Trial.run .smooth
            (Intake.receive ⟨Routes.standard Settings.Billing.default.terms⟩ Sample.paid :
              ExceptT WebhookError (Activity Unit World) Intake.Receipt) (.new Sample.world)) := by
  have hvalid : Settings.Billing.default.validate = .ok () := by cbv
  obtain ⟨-, -, -, -, hdelivery⟩ := paid_periods (H := Unit)
  obtain ⟨periodEnd, hperiod, hpaid⟩ := hdelivery .default .smooth (.new Sample.world) Sample.paid
    _ hvalid Sample.parse_paid rfl (by decide)
  refine ⟨hvalid, periodEnd, ?_, hpaid⟩
  have hsum := Terms.periodEnd_eq_ok_iff.mp hperiod
  exact ((Instant.addDays?_forward_iff (by decide)).mp hsum).1

end SubscriptionBilling
