import SubscriptionBilling.Envelope
/-!
# Users and customers

A user signs up (`UserCreated`), and billing keeps a `Customer` under the same
UUID, linked to the payment provider by the provider's own identifier.
`CustomerCreated` tells that the customer now exists.
-/

namespace SubscriptionBilling

/-- A billing customer. -/
structure Customer where
  id : CustomerId
  email : String
  displayName : Option String
  providerId : Option String
deriving DecidableEq

/-- A customer in a document. -/
def Customer.schema : Json.Schema Customer :=
  .record "CustomerRecord"
    (.cons (.required "id" CustomerId.schema)
      (.cons (.required "email" .string)
        (.cons (.required "display_name" Json.Schema.string.optional)
          (.cons (.required "stripe_customer_id" Json.Schema.string.optional) .nil))))
    (fun c => (c.id, c.email, c.displayName, c.providerId, ()))
    (fun (id, email, displayName, providerId, ()) => ⟨id, email, displayName, providerId⟩)

/-- A user signed up. -/
structure UserCreated where
  id : EventId
  user : UserId
  email : String
  displayName : Option String
  occurredAt : Instant
deriving DecidableEq

namespace UserCreated

/-- A sign-up in a document; the name may be left out anywhere. -/
def schema : Json.Schema UserCreated :=
  .record "UserCreated"
    (.cons (.required "event_id" EventId.schema)
      (.cons (.required "user_id" UserId.schema)
        (.cons (.required "email" .string)
          (.cons ⟨"display_name", Json.Schema.string.optional, some none, Option.isNone⟩
            (.cons (.required "occurred_at" Instant.schema) .nil)))))
    (fun e => (e.id, e.user, e.email, e.displayName, e.occurredAt, ()))
    (fun (id, user, email, displayName, occurredAt, ()) =>
      ⟨id, user, email, displayName, occurredAt⟩)

instance : DomainEvent UserCreated where
  topic := ⟨"user.created.v1"⟩
  schemaVersion := 1
  aggregateType := "User"
  aggregateId e := e.user.text
  occurredAt e := e.occurredAt
  id e := e.id
  write e := .ok (schema.value e)

end UserCreated

/-- A billing customer was created for a user. -/
structure CustomerCreated where
  id : EventId
  customer : CustomerId
  user : UserId
  email : String
  occurredAt : Instant
deriving DecidableEq

namespace CustomerCreated

/-- The creation of a customer in a document. -/
def schema : Json.Schema CustomerCreated :=
  .record "CustomerCreated"
    (.cons (.required "event_id" EventId.schema)
      (.cons (.required "customer_id" CustomerId.schema)
        (.cons (.required "user_id" UserId.schema)
          (.cons (.required "email" .string)
            (.cons (.required "occurred_at" Instant.schema) .nil)))))
    (fun e => (e.id, e.customer, e.user, e.email, e.occurredAt, ()))
    (fun (id, customer, user, email, occurredAt, ()) => ⟨id, customer, user, email, occurredAt⟩)

instance : DomainEvent CustomerCreated where
  topic := ⟨"billing.customer.created.v1"⟩
  schemaVersion := 1
  aggregateType := "Customer"
  aggregateId e := e.customer.text
  occurredAt e := e.occurredAt
  id e := e.id
  write e := .ok (schema.value e)

end CustomerCreated

end SubscriptionBilling
