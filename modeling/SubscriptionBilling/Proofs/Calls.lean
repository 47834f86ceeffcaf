import SubscriptionBilling.Store
import SubscriptionBilling.Trial
/-!
# What a trial makes of each call

Every operation of the stores and of the publisher asks first whether it is to
fail.  The lemmas named `run_` say what it comes to in a trial, and so no later
proof opens an operation: a call that fails leaves nothing but its entry in the
journal, and one that passes has the effect of the store that it works on.
-/

namespace SubscriptionBilling

namespace World

/-- The world after a reading of the clock. -/
def ticked (w : World) : World := { w with supply := w.supply.now.2 }

/-- The world after a UUID was taken. -/
def drawn (w : World) : World := { w with supply := w.supply.fresh.2 }

/-- The world with other subscriptions. -/
def withSubscriptions (w : World) (store : SubscriptionStore) : World :=
  { w with subscriptions := store }

/-- What the clock shows next. -/
def clock (w : World) : Instant := w.supply.now.1

/-- The UUID that is taken next. -/
def nextUuid (w : World) : Uuid := w.supply.fresh.1

end World

namespace Trial

variable {H α : Type} (plan : Plan) (t : Trial World)

/-- The trial after a reading of the clock. -/
def ticked : Trial World := t.inState t.state.ticked

/-- The trial after a UUID was taken. -/
def drawn : Trial World := t.inState t.state.drawn

/-- The trial with other subscriptions. -/
def withSubscriptions (store : SubscriptionStore) : Trial World :=
  t.inState (t.state.withSubscriptions store)

@[simp]
theorem subscriptions_ticked : t.ticked.state.subscriptions = t.state.subscriptions := rfl

@[simp]
theorem journal_drawn : t.drawn.journal = t.journal := rfl

/-- How a call is answered, as a result. -/
def verdict : Option Failure → Except Failure Unit
  | some failure => .error failure
  | none => .ok ()

/-- An activity without failures, taken into a service, is run as it is and always comes
back with what it returned. -/
@[simp]
theorem run_lift_service (x : Activity H World α) :
    run plan (Service.lift x) t = (.ok (x.trial plan t).1, (x.trial plan t).2) :=
  run_lift plan t x

@[simp]
theorem run_world : run plan (Service.world : Service H World) t = (.ok t.state, t) := rfl

/-- A service that asks for the time gets the reading that the clock is at, and moves
the clock on by one reading. -/
@[simp]
theorem run_now :
    run plan (Service.now : Service H Instant) t =
      (.ok t.state.clock, t.ticked) := rfl

/-- A service that asks for a UUID gets the next one of the supply, and moves the supply
on by one. -/
@[simp]
theorem run_freshUuid :
    run plan (Service.freshUuid : Service H Uuid) t =
      (.ok t.state.nextUuid, t.drawn) := rfl

/-- What a service says to the log has no effect on a trial: its stores, its clock and
its journal are as before. -/
@[simp]
theorem run_tell (level : Log.Level) (message : String) (fields : List (String × Log.Value)) :
    run plan (Service.tell level message fields : Service H Unit) t = (.ok (), t) := rfl

/-- A call leaves its entry in the journal and goes on if it passes. -/
@[simp]
theorem run_attempt (c : Call) :
    run plan (Service.attempt c : Service H Unit) t =
      (verdict (plan t.journal c), t.noted c (plan t.journal c)) := by
  have hattempt : run plan (Service.attempt c : Service H Unit) t =
      run plan (match plan t.journal c with
        | some failure => throw failure
        | none => return () : Service H Unit) (t.noted c (plan t.journal c)) := rfl
  rw [hattempt]
  cases plan t.journal c <;> rfl

/-- What is published is handed over once: the call stands in the journal with the
envelope, and its answer is that of the plan. -/
@[simp]
theorem run_publish (e : Envelope) :
    run plan (Service.publish e : Service H Unit) t =
      (verdict (plan t.journal (.publish e)),
        t.noted (.publish e) (plan t.journal (.publish e))) := by
  rw [Service.publish, run_bind, run_attempt]
  cases plan t.journal (.publish e) <;> rfl

/-! ## Reading the stores -/

/-- A listing enters its call in the journal and, unless the plan makes that call fail,
answers with what the store lists. -/
@[simp]
theorem run_ofCustomer (customer : CustomerId) :
    run plan (Subscriptions.ofCustomer customer : Service H (List Subscription)) t =
      ((verdict (plan t.journal (.listSubscriptions customer))).map fun _ =>
          SubscriptionStore.ofCustomer t.state.subscriptions customer,
        t.noted (.listSubscriptions customer) (plan t.journal (.listSubscriptions customer))) := by
  rw [Subscriptions.ofCustomer, run_bind, run_attempt]
  cases plan t.journal (.listSubscriptions customer) <;> rfl

/-- A lookup by identifier enters its call in the journal and, unless the plan makes it
fail, answers with what the store has. -/
@[simp]
theorem run_findSubscription (id : SubscriptionId) :
    run plan (Subscriptions.find? id : Service H (Option Subscription)) t =
      ((verdict (plan t.journal (.findSubscription id))).map fun _ =>
          t.state.subscriptions.find? id,
        t.noted (.findSubscription id) (plan t.journal (.findSubscription id))) := by
  rw [Subscriptions.find?, run_bind, run_attempt]
  cases plan t.journal (.findSubscription id) <;> rfl

/-- A lookup by provider id enters its call in the journal and, unless the plan makes it
fail, answers with the customer that is linked. -/
@[simp]
theorem run_findLinked (providerId : String) :
    run plan (Customers.findLinked? providerId : Service H (Option Customer)) t =
      ((verdict (plan t.journal (.findLinkedCustomer providerId))).map fun _ =>
          CustomerStore.findLinked? t.state.customers providerId,
        t.noted (.findLinkedCustomer providerId)
          (plan t.journal (.findLinkedCustomer providerId))) := by
  rw [Customers.findLinked?, run_bind, run_attempt]
  cases plan t.journal (.findLinkedCustomer providerId) <;> rfl

/-! ## Writing to the stores -/

/-- What saving a subscription comes to. -/
def save (s : Subscription) : Except Failure Unit × Trial World :=
  match plan t.journal (.saveSubscription s) with
  | some failure => (.error failure, t.noted (.saveSubscription s) (some failure))
  | none =>
    (.ok (), (t.noted (.saveSubscription s) none).withSubscriptions
      (SubscriptionStore.save t.state.subscriptions s))

@[simp]
theorem run_saveSubscription (s : Subscription) :
    run plan (Subscriptions.save s : Service H Unit) t = save plan t s := by
  rw [Subscriptions.save, run_bind, run_attempt, save]
  cases plan t.journal (.saveSubscription s) <;> rfl

/-- What an update comes to: it reads the clock, and leaves the store alone if
it is refused. -/
def modify {β : Type} (id : SubscriptionId)
    (update : Instant → Subscription → Except Failure (β × Subscription)) :
    Except Failure (β × Subscription) × Trial World :=
  match plan t.journal (.modifySubscription id) with
  | some failure => (.error failure, t.noted (.modifySubscription id) (some failure))
  | none =>
    match SubscriptionStore.modify t.state.subscriptions id (update t.state.clock) with
    | .error failure => (.error failure, (t.noted (.modifySubscription id) none).ticked)
    | .ok (r, store) =>
      (.ok r, (t.noted (.modifySubscription id) none).ticked.withSubscriptions store)

/-- A modification does the two things of `modify`: one call that the plan may make
fail, and then the update, which may refuse. -/
@[simp]
theorem run_modify {β : Type} (id : SubscriptionId)
    (update : Instant → Subscription → Except Failure (β × Subscription)) :
    run plan (Subscriptions.modify id update : Service H (β × Subscription)) t =
      modify plan t id update := by
  rw [Subscriptions.modify, run_bind, run_attempt, modify]
  cases plan t.journal (.modifySubscription id) with
  | some failure => rfl
  | none =>
      simp only [verdict, run_bind, run_now, run_world, state_noted, subscriptions_ticked]
      cases SubscriptionStore.modify t.state.subscriptions id (update t.state.clock) <;> rfl

/-! ## Customers and accounts -/

@[simp]
theorem run_findCustomer (id : CustomerId) :
    run plan (Customers.find? id : Service H (Option Customer)) t =
      ((verdict (plan t.journal (.findCustomer id))).map fun _ => t.state.customers.find? id,
        t.noted (.findCustomer id) (plan t.journal (.findCustomer id))) := by
  rw [Customers.find?, run_bind, run_attempt]
  cases plan t.journal (.findCustomer id) <;> rfl

/-- To ask whether a customer is known is to look it up: the journal gets the same call,
and only the answer is shorter. -/
@[simp]
theorem run_customerExists (id : CustomerId) :
    run plan (Customers.exists? id : Service H Bool) t =
      ((verdict (plan t.journal (.findCustomer id))).map fun _ =>
          (t.state.customers.find? id).isSome,
        t.noted (.findCustomer id) (plan t.journal (.findCustomer id))) := by
  rw [Customers.exists?, run_bind, run_findCustomer]
  cases plan t.journal (.findCustomer id) <;> rfl

/-- What saving a customer comes to. -/
def saveCustomer (customer : Customer) : Except Failure Unit × Trial World :=
  match plan t.journal (.saveCustomer customer) with
  | some failure => (.error failure, t.noted (.saveCustomer customer) (some failure))
  | none =>
    (.ok (), (t.noted (.saveCustomer customer) none).inState
      { t.state with customers := CustomerStore.save t.state.customers customer })

@[simp]
theorem run_saveCustomer (customer : Customer) :
    run plan (Customers.save customer : Service H Unit) t = saveCustomer plan t customer := by
  rw [Customers.save, run_bind, run_attempt, saveCustomer]
  cases plan t.journal (.saveCustomer customer) <;> rfl

/-- What inserting a customer comes to: a taken identifier leaves the store
alone. -/
def insertCustomer (customer : Customer) : Except Failure Unit × Trial World :=
  match plan t.journal (.insertCustomer customer) with
  | some failure => (.error failure, t.noted (.insertCustomer customer) (some failure))
  | none =>
    match CustomerStore.insert t.state.customers customer with
    | .error failure => (.error failure, t.noted (.insertCustomer customer) none)
    | .ok store =>
      (.ok (), (t.noted (.insertCustomer customer) none).inState
        { t.state with customers := store })

@[simp]
theorem run_insertCustomer (customer : Customer) :
    run plan (Customers.insert customer : Service H Unit) t = insertCustomer plan t customer := by
  rw [Customers.insert, run_bind, run_attempt, insertCustomer]
  cases plan t.journal (.insertCustomer customer) with
  | some failure => rfl
  | none =>
      simp only [verdict, run_bind, run_world, state_noted]
      cases CustomerStore.insert t.state.customers customer <;> rfl

/-- The provider's answer to a request, with the next UUID for a new account. -/
def offer (r : AccountRequest) : Except GatewayError Account × Gateway :=
  t.state.gateway.create (Gateway.accountId t.state.nextUuid) r

/-- The trial after the provider answered a request. -/
def requested (r : AccountRequest) : Trial World :=
  t.inState { t.state.drawn with gateway := (t.offer r).2 }

/-- What follows the provider's answer. -/
def answered (r : AccountRequest) :
    Except GatewayError Account → Activity H World (Except GatewayError Account)
  | .error error => return .error error
  | .ok account => do
    Activity.tell .debug "Provider customer ready"
      [("user_id", .text r.user.text), ("provider_customer_id", .text account.id)]
    return .ok account

theorem trial_request (r : AccountRequest) :
    (Accounts.request r : Activity H World _).trial plan t = ((t.offer r).1, t.requested r) := by
  have hanswered : (Accounts.request r : Activity H World _).trial plan t =
      (answered r (t.offer r).1).trial plan (t.requested r) := rfl
  rw [hanswered]
  cases (t.offer r).1 <;> rfl

/-- What asking for an account comes to. -/
def createAccount (r : AccountRequest) : Except Failure Account × Trial World :=
  match plan t.journal (.createAccount r) with
  | some failure => (.error failure, t.noted (.createAccount r) (some failure))
  | none =>
    ((t.offer r).1.mapError GatewayError.toFailure, (t.noted (.createAccount r) none).requested r)

/-- To create an account is one call to the gateway, which may fail by the plan, or by
the failure that the gateway was told to come back with. -/
@[simp]
theorem run_createAccount (r : AccountRequest) :
    run plan (Accounts.create r : Service H Account) t = createAccount plan t r := by
  rw [Accounts.create, run_bind, run_attempt, createAccount]
  cases plan t.journal (.createAccount r) with
  | some failure => rfl
  | none =>
      simp only [verdict, run_bind, run_lift_service, trial_request]
      have hoffer : (t.noted (.createAccount r) none).offer r = t.offer r := rfl
      rw [hoffer]
      cases (t.offer r).1 <;> rfl

end Trial

end SubscriptionBilling
