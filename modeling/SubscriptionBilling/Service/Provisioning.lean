import SubscriptionBilling.Store
/-!
# Provisioning customers

Makes a billing customer of every user who signs up: an account at the payment
provider first, keyed by the user, then the stored customer linked to it, then
the announcement.  A user who already has a customer is left alone, so a
sign-up may be delivered any number of times.
-/

namespace SubscriptionBilling.Provisioning

variable {H : Type}

/-- The topic under which sign-ups arrive. -/
def topic : Topic := ⟨"user.created"⟩

/-- The name of the handler. -/
def name : String := "ProvisionCustomerHandler"

/-- The sign-up inside an envelope. -/
def signUp (e : Envelope) : Except Failure UserCreated :=
  (e.content UserCreated.schema).mapError fun m => .new .validationFailed m.message

/-- The announcement of a new customer, going back to the sign-up. -/
def announcement (cause : Envelope) (created : CustomerCreated) : Except Failure Envelope := do
  let e ← Envelope.ofEvent created
  let e := e.causedBy cause.id.text
  match cause.lineage.correlation with
  | some correlation => return e.correlatedWith correlation
  | none => return e

/-- Stores a customer; false if another one took the identifier. -/
def store (customer : Customer) (user : UserId) : Service H Bool :=
  tryCatch (do
    Customers.insert customer
    return true) fun failure => do
    if failure.code = .alreadyExists then
      Service.tell .debug "Customer created concurrently, ignoring" [("user_id", .text user.text)]
      return false
    else throw failure

/-- Provisions the customer of a sign-up. -/
def handle (e : Envelope) : Service H Unit := do
  let user ← signUp e
  let customer := CustomerId.ofUser user.user
  if ← Customers.exists? customer then
    Service.tell .debug "Customer already exists, ignoring" [("user_id", .text user.user.text)]
    return ()
  let account ← Accounts.create (.forUser user.user user.email user.displayName)
  if ← store ⟨customer, user.email, user.displayName, some account.id⟩ user.user then
    Service.tell .info "Customer provisioned"
      [("user_id", .text user.user.text), ("customer_id", .text customer.text),
        ("stripe_customer_id", .text account.id)]
    let id ← Service.freshUuid
    let now ← Service.now
    let announced ← announcement e ⟨.ofUuid id, customer, user.user, user.email, now⟩
    Service.publish announced

end SubscriptionBilling.Provisioning
