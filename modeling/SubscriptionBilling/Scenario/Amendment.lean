import SubscriptionBilling.Store
/-!
# Amending stored subscriptions

An update of a stored subscription as a script gives it: some actions one after
another, something appended to the plan, and a failure at the end.  Whatever
fails, the stored subscription keeps its old contents.
-/

namespace SubscriptionBilling.Scenario

/-- An update of a subscription. -/
structure Amendment where
  actions : List Action
  planSuffix : String
  failure : Option Failure

/-- Performs actions one after another, up to the first that is refused. -/
def performAll (now : Instant) (s : Subscription) : List Action → Except Failure Subscription
  | [] => .ok s
  | action :: rest =>
    match s.perform action now with
    | .error e => .error e.toFailure
    | .ok (_, s) => performAll now s rest

namespace Amendment

/-- What an amendment makes of a subscription. -/
def apply (a : Amendment) (now : Instant) (s : Subscription) :
    Except Failure (Unit × Subscription) := do
  let s ← performAll now s a.actions
  match a.failure with
  | some failure => throw failure
  | none => return ((), { s with plan := s.plan ++ a.planSuffix })

/-- Amends a stored subscription. -/
def perform {H : Type} (a : Amendment) (id : SubscriptionId) : Service H Subscription := do
  let (_, s) ← Subscriptions.modify id a.apply
  return s

end Amendment

end SubscriptionBilling.Scenario
