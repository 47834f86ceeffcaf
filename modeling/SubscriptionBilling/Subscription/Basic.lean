import SubscriptionBilling.Identifier
import SubscriptionBilling.Instant.Text
import SubscriptionBilling.Json.Record
import SubscriptionBilling.Subscription.Status
/-!
# Subscriptions

A subscription belongs to a customer, is on a plan, is paid up to an instant and
has a status.  Every operation is given the reading of the clock that it would
leave in `updatedAt`, and leaves it there exactly when something changed.

* `Subscription.perform` moves the status by an action and tells the
  `Transition` it made;
* `Subscription.renew` activates and moves the end of the paid period;
* `Subscription.restore` rebuilds a subscription from what was kept of it.
-/

namespace SubscriptionBilling

/-- The statuses before and after an operation. -/
structure Transition where
  source : Status
  target : Status
deriving DecidableEq

/-- The status was replaced by another one. -/
def Transition.changed (t : Transition) : Bool := t.source != t.target

/-- A customer's subscription to a plan. -/
structure Subscription where
  id : SubscriptionId
  customer : CustomerId
  plan : String
  expiresAt : Instant
  status : Status
  updatedAt : Instant
deriving DecidableEq

namespace Subscription

/-- A new subscription is active. -/
def new (id : SubscriptionId) (customer : CustomerId) (plan : String) (expiresAt now : Instant) :
    Subscription :=
  ⟨id, customer, plan, expiresAt, .active, now⟩

/-- A subscription from what was kept of it, its status as a word. -/
def restore (id : SubscriptionId) (customer : CustomerId) (plan : String) (expiresAt : Instant)
    (token : String) (updatedAt : Instant) : Except StatusError Subscription :=
  (Status.parse token).map fun status => ⟨id, customer, plan, expiresAt, status, updatedAt⟩

/-- The paid period has ended. -/
def isExpiredAt (s : Subscription) (now : Instant) : Bool := !s.expiresAt.after now

/-- Replaces the status, and notes the time if that changes anything. -/
def replaceStatus (s : Subscription) (next : Status) (now : Instant) :
    Transition × Subscription :=
  let transition : Transition := ⟨s.status, next⟩
  (transition, if transition.changed then { s with status := next, updatedAt := now } else s)

theorem replaceStatus_self (s : Subscription) (now : Instant) :
    s.replaceStatus s.status now = (⟨s.status, s.status⟩, s) := by
  simp [replaceStatus, Transition.changed]

theorem replaceStatus_of_ne {s : Subscription} {next : Status} (h : s.status ≠ next)
    (now : Instant) :
    s.replaceStatus next now =
      (⟨s.status, next⟩, { s with status := next, updatedAt := now }) := by
  simp [replaceStatus, Transition.changed, h]

theorem replaceStatus_status (s : Subscription) (next : Status) (now : Instant) :
    (s.replaceStatus next now).2.status = next := by
  by_cases hsame : s.status = next
  · subst hsame
    rw [replaceStatus_self]
  · rw [replaceStatus_of_ne hsame]

theorem replaceStatus_expiresAt (s : Subscription) (next : Status) (now : Instant) :
    (s.replaceStatus next now).2.expiresAt = s.expiresAt := by
  unfold replaceStatus
  dsimp only
  split <;> rfl

/-- Cancels; never refused. -/
def cancel (s : Subscription) (now : Instant) : Transition × Subscription :=
  s.replaceStatus s.status.cancel now

/-- Activates; never refused. -/
def activate (s : Subscription) (now : Instant) : Transition × Subscription :=
  s.replaceStatus s.status.activate now

/-- Notes a failed payment; refused for a cancelled subscription. -/
def markPastDue (s : Subscription) (now : Instant) :
    Except StatusError (Transition × Subscription) :=
  s.status.markPastDue.map fun next => s.replaceStatus next now

/-- Performs an action. -/
def perform (s : Subscription) (action : Action) (now : Instant) :
    Except StatusError (Transition × Subscription) :=
  (s.status.apply action).map fun next => s.replaceStatus next now

/-- Activates and moves the end of the paid period. -/
def renew (s : Subscription) (periodEnd now : Instant) : Transition × Subscription :=
  let (transition, s) := s.activate now
  (transition,
    if s.expiresAt = periodEnd then s else { s with expiresAt := periodEnd, updatedAt := now })

/-- Moves the end of the paid period, and notes the time if that changes
anything. -/
def extended (s : Subscription) (periodEnd now : Instant) : Subscription :=
  if s.expiresAt = periodEnd then s else { s with expiresAt := periodEnd, updatedAt := now }

/-- A renewal is two operations, each of which may be the one that is noted. -/
theorem renew_eq (s : Subscription) (periodEnd now : Instant) :
    s.renew periodEnd now = ((s.activate now).1, (s.activate now).2.extended periodEnd now) :=
  rfl

/-- If each of the two reads the clock for itself, only the later reading that was
noted is left. -/
theorem extended_activate (s : Subscription) (periodEnd first second : Instant) :
    ((s.activate first).1, (s.activate first).2.extended periodEnd second) =
      s.renew periodEnd (if s.expiresAt = periodEnd then first else second) := by
  have hkept : ∀ now, (s.activate now).2.expiresAt = s.expiresAt := fun now =>
    s.replaceStatus_expiresAt .active now
  by_cases hend : s.expiresAt = periodEnd
  · rw [if_pos hend, renew_eq, extended, extended, hkept, if_pos hend, if_pos hend]
  · rw [if_neg hend, renew_eq, extended, extended, hkept, hkept, if_neg hend, if_neg hend]
    by_cases hactive : s.status = .active
    · simp [activate, Status.activate, ← hactive, replaceStatus_self]
    · simp [activate, Status.activate, replaceStatus_of_ne hactive]

/-- A subscription in a document. -/
def schema : Json.Schema Subscription :=
  .record "Subscription"
    (.cons (.required "id" SubscriptionId.schema)
      (.cons (.required "customer_id" CustomerId.schema)
        (.cons (.required "plan_id" .string)
          (.cons (.required "expires_at" Instant.schema)
            (.cons (.required "status" Status.schema)
              (.cons (.required "updated_at" Instant.schema) .nil))))))
    (fun s => (s.id, s.customer, s.plan, s.expiresAt, s.status, s.updatedAt, ()))
    (fun (id, customer, plan, expiresAt, status, updatedAt, ()) =>
      ⟨id, customer, plan, expiresAt, status, updatedAt⟩)

end Subscription

end SubscriptionBilling
