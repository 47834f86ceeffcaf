import SubscriptionBilling.Service.StatusChange
import SubscriptionBilling.Subscription.Terms
import SubscriptionBilling.Webhook.Router
/-!
# The standard routes

* a paid invoice renews every subscription of the customer, or creates the
  first one;
* a subscription deleted at the provider cancels every subscription of the
  customer;
* everything else is acknowledged.

A webhook that refers to nobody known is acknowledged as well: delivering it
again would not help.  Changes of status are announced one by one, each before
the next subscription is looked at.
-/

namespace SubscriptionBilling.Routes

variable {H : Type}

/-- The type of a webhook about a paid invoice. -/
def invoicePaidType : String := "invoice.paid"

/-- The type of a webhook about a subscription that ended at the provider. -/
def subscriptionDeletedType : String := "customer.subscription.deleted"

/-- The customer whom a body refers to, if it is a known one. -/
def customerOf (data : Json) (type : String) : Service H (Option Customer) := do
  match Webhook.customerReference data with
  | none =>
    Service.tell .warn "Webhook event has no customer reference, acknowledging"
      [("event_type", .text type)]
    return none
  | some providerId =>
    let customer ← Customers.findLinked? providerId
    if customer.isNone then
      Service.tell .info "No billing customer for webhook event, acknowledging"
        [("event_type", .text type), ("stripe_customer_id", .text providerId)]
    return customer

/-- Publishes the change that an operation made, if it made one. -/
def publishChange (s : Subscription) (t : Transition) : Service H Unit := do
  match ← StatusChange.announcement s t with
  | some event => Service.publish (← Envelope.ofEvent event)
  | none => return ()

/-- Creates the first subscription of a customer. -/
def subscribe (terms : Terms) (customer : Customer) (data : Json) (periodEnd : Instant) :
    Service H Unit := do
  let id ← Service.freshUuid
  let now ← Service.now
  let plan := (Webhook.planReference data).getD terms.defaultPlan
  let s := Subscription.new ⟨id⟩ customer.id plan periodEnd now
  Subscriptions.save s
  Service.tell .info "Subscription created from paid invoice"
    [("subscription_id", .text s.id.text), ("customer_id", .text customer.id.text),
      ("plan_id", .text s.plan)]

/-- Renews one subscription of a customer. -/
def renewOne (customer : Customer) (periodEnd : Instant) (id : SubscriptionId) :
    Service H Unit := do
  let (t, s) ← Subscriptions.modify id fun now s => .ok (s.renew periodEnd now)
  Service.tell .info "Subscription renewed after paid invoice"
    [("subscription_id", .text s.id.text), ("customer_id", .text customer.id.text),
      ("status", .text s.status.token)]
  publishChange s t

/-- Cancels one subscription of a customer. -/
def cancelOne (customer : Customer) (id : SubscriptionId) : Service H Unit := do
  let (t, s) ← Subscriptions.modify id fun now s => .ok (s.cancel now)
  Service.tell .info "Subscription cancelled by provider"
    [("subscription_id", .text id.text), ("customer_id", .text customer.id.text),
      ("changed", .truth t.changed)]
  publishChange s t

/-- Does the same for each subscription, up to the first failure. -/
def each (act : SubscriptionId → Service H Unit) : List Subscription → Service H Unit
  | [] => return ()
  | s :: rest => do
    act s.id
    each act rest

/-- Works for the customer whom a body refers to, if it is a known one. -/
def forCustomer (data : Json) (type : String) (work : Customer → Service H Unit) :
    Service H Unit := do
  match ← customerOf data type with
  | none => return ()
  | some customer => work customer

/-- Renews the subscriptions of a customer, or creates the first. -/
def renewAll (terms : Terms) (data : Json) (customer : Customer) : Service H Unit := do
  let periodEnd ← terms.periodEnd (← Service.now)
  let existing ← Subscriptions.ofCustomer customer.id
  if existing.isEmpty then subscribe terms customer data periodEnd
  else each (renewOne customer periodEnd) existing

/-- Cancels the subscriptions of a customer. -/
def cancelAll (customer : Customer) : Service H Unit := do
  each (cancelOne customer) (← Subscriptions.ofCustomer customer.id)

/-- Handles a paid invoice. -/
def renew (terms : Terms) (data : Json) : Service H Unit :=
  forCustomer data invoicePaidType (renewAll terms data)

/-- Handles a subscription deleted at the provider. -/
def cancel (data : Json) : Service H Unit :=
  forCustomer data subscriptionDeletedType cancelAll

/-- Acknowledges. -/
def acknowledge (data : Json) : Service H Unit :=
  Service.tell .debug "Unhandled webhook event acknowledged"
    [("has_object", .truth (data.member? "object").isSome)]

/-- A service that handles a body, as the handling of a route. -/
def handling (service : Json → Service H Unit) (data : Json) :
    ExceptT WebhookError (Activity H World) Unit :=
  ExceptT.mk do return (← (service data).run).mapError WebhookError.failed

/-- The route of paid invoices. -/
def invoicePaid (terms : Terms) : Route H World :=
  ⟨"InvoicePaidStrategy", (· == invoicePaidType), handling (renew terms)⟩

/-- The route of subscriptions deleted at the provider. -/
def subscriptionDeleted : Route H World :=
  ⟨"SubscriptionDeletedStrategy", (· == subscriptionDeletedType), handling cancel⟩

/-- The route of everything else. -/
def catchAll : Route H World := ⟨"DefaultStrategy", fun _ => true, handling acknowledge⟩

/-- The standard router. -/
def standard (terms : Terms) : Router H World :=
  ⟨[invoicePaid terms, subscriptionDeleted, catchAll]⟩

end SubscriptionBilling.Routes
