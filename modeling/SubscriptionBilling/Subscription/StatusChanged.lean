import SubscriptionBilling.Envelope
import SubscriptionBilling.Subscription.Basic
/-!
# The announcement of a changed status

Published when a subscription's status was replaced by another.
`StatusChanged.ofTransition` makes none for an operation that left it alone.
-/

namespace SubscriptionBilling

/-- A subscription's status was replaced. -/
structure StatusChanged where
  id : EventId
  subscription : SubscriptionId
  customer : CustomerId
  source : Status
  target : Status
  occurredAt : Instant
deriving DecidableEq

namespace StatusChanged

/-- The announcement of what an operation did to a subscription. -/
def ofTransition (id : EventId) (s : Subscription) (t : Transition) : Option StatusChanged :=
  if t.changed then some ⟨id, s.id, s.customer, t.source, t.target, s.updatedAt⟩ else none

/-- An announcement in a document. -/
def schema : Json.Schema StatusChanged :=
  .record "SubscriptionStatusChanged"
    (.cons (.required "event_id" EventId.schema)
      (.cons (.required "subscription_id" SubscriptionId.schema)
        (.cons (.required "customer_id" CustomerId.schema)
          (.cons (.required "from" Status.schema)
            (.cons (.required "to" Status.schema)
              (.cons (.required "occurred_at" Instant.schema) .nil))))))
    (fun e => (e.id, e.subscription, e.customer, e.source, e.target, e.occurredAt, ()))
    (fun (id, subscription, customer, source, target, occurredAt, ()) =>
      ⟨id, subscription, customer, source, target, occurredAt⟩)

instance : DomainEvent StatusChanged where
  topic := ⟨"billing.subscription.status_changed.v1"⟩
  schemaVersion := 1
  aggregateType := "Subscription"
  aggregateId e := e.subscription.text
  occurredAt e := e.occurredAt
  id e := e.id
  write e := .ok (schema.value e)

/-- The announcement on its way. -/
def envelope (c : StatusChanged) : Envelope :=
  ⟨c.id, ⟨"billing.subscription.status_changed.v1"⟩, 1, c.subscription.text, "Subscription",
    c.occurredAt, schema.value c, .none⟩

/-- An announcement can always be wrapped. -/
theorem ofEvent_eq (c : StatusChanged) : Envelope.ofEvent c = .ok c.envelope := rfl

end StatusChanged

end SubscriptionBilling
