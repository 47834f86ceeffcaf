import SubscriptionBilling.Store
/-!
# Changing the status of a subscription

One action on one stored subscription, and the announcement of the change if the
status was replaced at all.  `announcement` makes it; the webhook routes use it
too.
-/

namespace SubscriptionBilling.StatusChange

variable {H : Type}

/-- What came of an action: the status afterwards, and whether it is another. -/
structure Report where
  subscription : SubscriptionId
  status : Status
  changed : Bool
deriving DecidableEq

/-- The announcement of the change that an operation made, if it made one.  Only
then a new identifier is taken. -/
def announcement (s : Subscription) (t : Transition) : Service H (Option StatusChanged) := do
  if t.changed then
    let id ← Service.freshUuid
    return StatusChanged.ofTransition (.ofUuid id) s t
  else return none

/-- Performs an action on a stored subscription. -/
def perform (id : SubscriptionId) (action : Action) : Service H Report := do
  let (t, s) ← Subscriptions.modify id fun now s =>
    (s.perform action now).mapError StatusError.toFailure
  Service.tell .info "Subscription action applied"
    [("subscription_id", .text id.text), ("action", .text action.name),
      ("status", .text s.status.token), ("changed", .truth t.changed)]
  if let some event ← announcement s t then
    Service.publishEvent event
  return ⟨s.id, s.status, t.changed⟩

end SubscriptionBilling.StatusChange
