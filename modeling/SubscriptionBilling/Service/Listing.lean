import SubscriptionBilling.Store
/-!
# Listing the subscriptions of a customer

A customer who is not stored is refused; a stored one gets the `View` of every
subscription, oldest first.
-/

namespace SubscriptionBilling.Listing

/-- What a customer is shown of a subscription. -/
structure View where
  subscription : SubscriptionId
  customer : CustomerId
  plan : String
  status : Status
  expiresAt : Instant
deriving DecidableEq

/-- The view of a subscription. -/
def View.of (s : Subscription) : View := ⟨s.id, s.customer, s.plan, s.status, s.expiresAt⟩

/-- A view in a document. -/
def View.schema : Json.Schema View :=
  .record "SubscriptionView"
    (.cons (.required "subscription_id" SubscriptionId.schema)
      (.cons (.required "customer_id" CustomerId.schema)
        (.cons (.required "plan_id" .string)
          (.cons (.required "status" Status.schema)
            (.cons (.required "expires_at" Instant.schema) .nil)))))
    (fun v => (v.subscription, v.customer, v.plan, v.status, v.expiresAt, ()))
    (fun (subscription, customer, plan, status, expiresAt, ()) =>
      ⟨subscription, customer, plan, status, expiresAt⟩)

/-- The customer is not stored. -/
def unknown (customer : CustomerId) : Failure :=
  .new .customerNotFound s!"Customer {customer.text} not found"

/-- The views of a customer's subscriptions. -/
def subscriptions {H : Type} (customer : CustomerId) : Service H (List View) := do
  if ← Customers.exists? customer then
    return (← Subscriptions.ofCustomer customer).map View.of
  else throw (unknown customer)

end SubscriptionBilling.Listing
