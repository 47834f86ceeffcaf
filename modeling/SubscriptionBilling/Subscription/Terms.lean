import SubscriptionBilling.Failure
import SubscriptionBilling.Instant.Text
import SubscriptionBilling.Json.Record
/-!
# Billing terms

How long a paid period lasts, and the plan of a customer who names none.
`Terms.periodEnd` is refused only when the end lies outside the range of
instants.
-/

namespace SubscriptionBilling

/-- The terms on which a subscription is paid for. -/
structure Terms where
  periodDays : UInt32
  defaultPlan : String
deriving DecidableEq

namespace Terms

instance : Inhabited Terms := ⟨⟨30, "basic"⟩⟩

/-- A period runs past the range of instants. -/
def outOfRange (terms : Terms) : Failure :=
  .validation "period_days" s!"Billing period of {terms.periodDays.toNat} days is out of range"

/-- The end of a period that begins at an instant. -/
def periodEnd (terms : Terms) (start : Instant) : Except Failure Instant :=
  (start.addDays? terms.periodDays.toNat).elim (.error terms.outOfRange) .ok

theorem periodEnd_of_some {terms : Terms} {start stop : Instant}
    (h : start.addDays? terms.periodDays.toNat = some stop) : terms.periodEnd start = .ok stop := by
  rw [periodEnd, h]
  rfl

theorem periodEnd_of_none {terms : Terms} {start : Instant}
    (h : start.addDays? terms.periodDays.toNat = none) :
    terms.periodEnd start = .error terms.outOfRange := by
  rw [periodEnd, h]
  rfl

theorem periodEnd_eq_ok_iff {terms : Terms} {start stop : Instant} :
    terms.periodEnd start = .ok stop ↔ start.addDays? terms.periodDays.toNat = some stop := by
  refine ⟨fun h => ?_, periodEnd_of_some⟩
  cases hend : start.addDays? terms.periodDays.toNat with
  | none =>
    rw [periodEnd_of_none hend] at h
    cases h
  | some instant =>
    rw [periodEnd_of_some hend] at h
    rw [Except.ok.inj h]

/-- Terms in a document. -/
def schema : Json.Schema Terms :=
  .record "BillingTerms"
    (.cons (.required "period_days" .word32) (.cons (.required "default_plan_id" .string) .nil))
    (fun t => (t.periodDays, t.defaultPlan, ())) (fun (days, plan, ()) => ⟨days, plan⟩)

end Terms

end SubscriptionBilling
