import SubscriptionBilling.World
/-!
# The stores and the publisher

The operations over the state kept in memory.  Each first asks whether the
call is to fail, and then has no effect at all; a service that uses them stops
at the first failure.

* customers are kept under their identifiers, `Customers.insert` never replaces;
* subscriptions are kept under the identifiers they were first saved with, in
  that order, and `Subscriptions.modify` writes only what its update accepts;
* `publish` hands an envelope to the bus.
-/

namespace SubscriptionBilling

/-- An activity of the services that may fail. -/
abbrev Service (H α : Type) := ExceptT Failure (Activity H World) α

namespace Service

variable {H α σ : Type}

/-- An activity that cannot fail, as a service. -/
def lift (x : Activity H World α) : Service H α := ExceptT.lift x

/-- Fails if the call is to fail. -/
def attempt (c : Call) : ExceptT Failure (Activity H σ) Unit := do
  match ← ExceptT.lift (Activity.attempt c) with
  | some failure => throw failure
  | none => return ()

/-- The state. -/
def world : Service H World := lift Activity.get

/-- Changes the state. -/
def change (f : World → World) : Service H Unit := lift (Activity.update f)

/-- Reads the clock. -/
def now : Service H Instant := lift World.now

/-- Takes a new UUID. -/
def freshUuid : Service H Uuid := lift World.freshUuid

/-- Writes to the log. -/
def tell (level : Log.Level) (message : String) (fields : List (String × Log.Value)) :
    Service H Unit :=
  lift (Activity.tell level message fields)

/-- Publishes an event. -/
def publish (e : Envelope) : ExceptT Failure (Activity H σ) Unit := do
  attempt (.publish e)
  ExceptT.mk (Activity.send e)

/-- Publishes events in order, up to the first that fails. -/
def publishAll : List Envelope → ExceptT Failure (Activity H σ) Unit
  | [] => return ()
  | e :: rest => do
    publish e
    publishAll rest

/-- Wraps an event and publishes it. -/
def publishEvent [DomainEvent α] (a : α) : Service H Unit := do
  match Envelope.ofEvent a with
  | .error failure => throw failure
  | .ok e => publish e

end Service

/-! ## Customers -/

/-- The customers, by identifier. -/
abbrev CustomerStore := OrderedMap CustomerId Customer

namespace CustomerStore

/-- Inserts or replaces a customer. -/
def save (store : CustomerStore) (customer : Customer) : CustomerStore :=
  store.set customer.id customer

/-- The identifier is taken. -/
def taken (id : CustomerId) : Failure :=
  (Failure.new .alreadyExists s!"Customer {id.text} already exists").withDetail
    "customer_id" id.text

/-- Inserts a customer whose identifier is new. -/
def insert (store : CustomerStore) (customer : Customer) : Except Failure CustomerStore :=
  match store.find? customer.id with
  | some _ => .error (taken customer.id)
  | none => .ok (store.save customer)

/-- The customer linked to an identifier of the payment provider. -/
def findLinked? (store : CustomerStore) (providerId : String) : Option Customer :=
  store.values.find? fun customer => customer.providerId == some providerId

end CustomerStore

namespace Customers

variable {H : Type}

/-- Inserts or replaces a customer. -/
def save (customer : Customer) : Service H Unit := do
  Service.attempt (.saveCustomer customer)
  Service.change fun w => { w with customers := CustomerStore.save w.customers customer }

/-- Inserts a customer whose identifier is new. -/
def insert (customer : Customer) : Service H Unit := do
  Service.attempt (.insertCustomer customer)
  let w ← Service.world
  match CustomerStore.insert w.customers customer with
  | .error failure => throw failure
  | .ok store => Service.change fun w => { w with customers := store }

/-- The customer of an identifier. -/
def find? (id : CustomerId) : Service H (Option Customer) := do
  Service.attempt (.findCustomer id)
  let w ← Service.world
  return w.customers.find? id

/-- The customer linked to an identifier of the payment provider. -/
def findLinked? (providerId : String) : Service H (Option Customer) := do
  Service.attempt (.findLinkedCustomer providerId)
  let w ← Service.world
  return CustomerStore.findLinked? w.customers providerId

/-- A customer of this identifier is stored. -/
def exists? (id : CustomerId) : Service H Bool := do
  return (← find? id).isSome

end Customers

/-! ## Subscriptions -/

/-- The subscriptions, by the identifier they were first saved with. -/
abbrev SubscriptionStore := OrderedMap SubscriptionId Subscription

namespace SubscriptionStore

/-- Inserts or replaces a subscription. -/
def save (store : SubscriptionStore) (s : Subscription) : SubscriptionStore := store.set s.id s

/-- The subscriptions of a customer, oldest first. -/
def ofCustomer (store : SubscriptionStore) (customer : CustomerId) : List Subscription :=
  store.values.filter fun s => s.customer == customer

/-- Nothing is stored under the identifier. -/
def missing (id : SubscriptionId) : Failure :=
  (Failure.new .subscriptionNotFound s!"Subscription {id.text} not found").withDetail
    "subscription_id" id.text

/-- Updates the subscription stored under an identifier.  A refused update
changes nothing. -/
def modify {β : Type} (store : SubscriptionStore) (id : SubscriptionId)
    (update : Subscription → Except Failure (β × Subscription)) :
    Except Failure ((β × Subscription) × SubscriptionStore) :=
  match store.find? id with
  | none => .error (missing id)
  | some s =>
    match update s with
    | .error failure => .error failure
    | .ok (b, s) => .ok ((b, s), store.set id s)

end SubscriptionStore

namespace Subscriptions

variable {H β : Type}

/-- Inserts or replaces a subscription. -/
def save (s : Subscription) : Service H Unit := do
  Service.attempt (.saveSubscription s)
  Service.change fun w => { w with subscriptions := SubscriptionStore.save w.subscriptions s }

/-- The subscription of an identifier. -/
def find? (id : SubscriptionId) : Service H (Option Subscription) := do
  Service.attempt (.findSubscription id)
  let w ← Service.world
  return w.subscriptions.find? id

/-- The subscriptions of a customer, oldest first. -/
def ofCustomer (customer : CustomerId) : Service H (List Subscription) := do
  Service.attempt (.listSubscriptions customer)
  let w ← Service.world
  return SubscriptionStore.ofCustomer w.subscriptions customer

/-- Updates a stored subscription at a reading of the clock. -/
def modify (id : SubscriptionId)
    (update : Instant → Subscription → Except Failure (β × Subscription)) :
    Service H (β × Subscription) := do
  Service.attempt (.modifySubscription id)
  let now ← Service.now
  let w ← Service.world
  match SubscriptionStore.modify w.subscriptions id (update now) with
  | .error failure => throw failure
  | .ok (result, store) =>
    Service.change fun w => { w with subscriptions := store }
    return result

end Subscriptions

/-! ## The payment provider -/

namespace Accounts

variable {H : Type}

/-- Asks the provider for an account, with its own errors. -/
def request (r : AccountRequest) : Activity H World (Except GatewayError Account) := do
  let fresh ← World.freshUuid
  let w ← Activity.get
  let (answer, gateway) := w.gateway.create (Gateway.accountId fresh) r
  Activity.set { w with gateway := gateway }
  match answer with
  | .error error => return .error error
  | .ok account =>
    Activity.tell .debug "Provider customer ready"
      [("user_id", .text r.user.text), ("provider_customer_id", .text account.id)]
    return .ok account

/-- Asks the provider for an account. -/
def create (r : AccountRequest) : Service H Account := do
  Service.attempt (.createAccount r)
  match ← Service.lift (request r) with
  | .error error => throw error.toFailure
  | .ok account => return account

end Accounts

end SubscriptionBilling
