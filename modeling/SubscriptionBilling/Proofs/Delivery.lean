import Mathlib
import SubscriptionBilling.Proofs.Routing
import SubscriptionBilling.Proofs.Turn
/-!
# Delivering a webhook

What the intake over the standard router comes to in a trial, from the payload
down to the turns of single subscriptions.

* `run_receive` picks the service by the type of the webhook (`Routes.service`);
* `run_renewAll` and `run_cancelAll` go through the calls that come before any
  subscription is written;
* `run_each` hands each listed subscription its turn, in a `Trial.pass`.
-/

namespace SubscriptionBilling

/-- The stored customer whom the body of a webhook refers to, if there is one. -/
def CustomerStore.ofBody? (store : CustomerStore) (data : Json) : Option Customer :=
  (Webhook.customerReference data).bind store.findLinked?

/-- A customer that is found was referred to. -/
theorem CustomerStore.reference_of_ofBody? {store : CustomerStore} {data : Json}
    {customer : Customer} (h : store.ofBody? data = some customer) :
    ∃ providerId, Webhook.customerReference data = some providerId := by
  obtain ⟨providerId, hreference, -⟩ := Option.bind_eq_some_iff.mp h
  exact ⟨providerId, hreference⟩

namespace Journal

/-- The call that looks for the customer of a body, if the body refers to one. -/
def lookup (data : Json) : Journal :=
  (Webhook.customerReference data).toList.map fun providerId =>
    (.findLinkedCustomer providerId, none)

/-- A body that names a customer costs one lookup, which did not fail. -/
theorem lookup_of_reference {data : Json} {providerId : String}
    (h : Webhook.customerReference data = some providerId) :
    lookup data = [(.findLinkedCustomer providerId, none)] := by
  rw [lookup, h]
  rfl

/-- Nothing failed in the lookup of a customer that was found, or that a body did not
name. -/
theorem smooth_lookup (data : Json) : (lookup data).Smooth := by
  intro entry hentry
  obtain ⟨providerId, -, rfl⟩ := List.mem_map.mp hentry
  rfl

/-- To look a customer up hands nothing to the publisher. -/
theorem handed_lookup (data : Json) : (lookup data).handed = [] := by
  rw [lookup]
  cases Webhook.customerReference data <;> rfl

end Journal

namespace Routes

variable {H : Type}

/-- The service that handles webhooks of a type. -/
def service (terms : Terms) (type : String) : Json → Service H Unit :=
  if type = invoicePaidType then renew terms
  else if type = subscriptionDeletedType then cancel
  else acknowledge

/-- The route that handles webhooks of a type. -/
def routeOf (terms : Terms) (type : String) : Route H World :=
  if type = invoicePaidType then invoicePaid terms
  else if type = subscriptionDeletedType then subscriptionDeleted
  else catchAll

/-- The standard router has a route for every type. -/
theorem route?_standard (terms : Terms) (type : String) :
    (standard terms : Router H World).route? type = some (routeOf terms type) := by
  unfold Router.route? standard routeOf
  by_cases hpaid : type = invoicePaidType
  · simp [invoicePaid, hpaid]
  · by_cases hdeleted : type = subscriptionDeletedType
    · simp [invoicePaid, subscriptionDeleted, hdeleted, invoicePaidType, subscriptionDeletedType]
    · simp [invoicePaid, subscriptionDeleted, catchAll, hpaid, hdeleted]

/-- The route for a type of webhook handles a body by the service of that type, and
renames its failures. -/
theorem handle_routeOf (terms : Terms) (type : String) :
    (routeOf terms type : Route H World).handle = handling (service terms type) := by
  unfold routeOf service
  split
  · rfl
  · split <;> rfl

end Routes

namespace Trial

variable {H : Type} (plan : Plan) (t : Trial World)

/-- A route passes on the failures of its service, unaltered. -/
@[simp]
theorem run_handling (service : Json → Service H Unit) (data : Json) :
    run plan (Routes.handling service data) t =
      ((run plan (service data) t).1.mapError .failed, (run plan (service data) t).2) := by
  show Activity.trial plan ((service data).run.andThen _) t = _
  rw [Activity.trial_andThen]
  rfl

/-- **One delivery.**  A payload that is read goes to the service of its type,
whose failures come back unaltered. -/
theorem run_receive {payload : String} {webhook : Webhook}
    (hparse : Webhook.parse payload = .ok webhook) (terms : Terms) :
    run plan (Intake.receive ⟨Routes.standard terms⟩ payload :
        ExceptT WebhookError (Activity H World) Intake.Receipt) t =
      ((((run plan (Routes.service terms webhook.type webhook.data : Service H Unit) t).1.mapError
            .failed).map fun _ =>
          ⟨webhook.id, webhook.type, (Routes.routeOf terms webhook.type : Route H World).name⟩),
        (run plan (Routes.service terms webhook.type webhook.data : Service H Unit) t).2) := by
  rw [run_receive_read plan t _ hparse, dispatched, Routes.route?_standard]
  simp only [Routes.handle_routeOf, run_handling]
  obtain ⟨result, t'⟩ :=
    run plan (Routes.service terms webhook.type webhook.data : Service H Unit) t
  cases result <;> rfl

/-- What a paid invoice leaves behind is what its service does. -/
theorem receive_paid {payload : String} {webhook : Webhook}
    (hparse : Webhook.parse payload = .ok webhook)
    (htype : webhook.type = Routes.invoicePaidType) (terms : Terms) :
    (run plan (Intake.receive ⟨Routes.standard terms⟩ payload :
        ExceptT WebhookError (Activity H World) Intake.Receipt) t).2 =
      (run plan (Routes.renew terms webhook.data : Service H Unit) t).2 := by
  rw [run_receive plan t hparse, Routes.service, if_pos htype]

/-! ## Before anything is written -/

/-- Looking for the customer of a body: nobody is looked for without a
reference. -/
theorem run_customerOf (data : Json) (type : String) :
    run plan (Routes.customerOf data type : Service H (Option Customer)) t =
      match Webhook.customerReference data with
      | none => (.ok none, t)
      | some providerId =>
        ((verdict (plan t.journal (.findLinkedCustomer providerId))).map fun _ =>
            CustomerStore.ofBody? t.state.customers data,
          t.noted (.findLinkedCustomer providerId)
            (plan t.journal (.findLinkedCustomer providerId))) := by
  unfold Routes.customerOf CustomerStore.ofBody?
  cases Webhook.customerReference data with
  | none => rfl
  | some providerId =>
      simp only [run_bind, run_findLinked, Option.bind_some]
      cases plan t.journal (.findLinkedCustomer providerId) with
      | some failure => rfl
      | none =>
          cases CustomerStore.findLinked? t.state.customers providerId <;> rfl

/-- Looking for the customer of a body fails with the call for it, or finds the
customer behind the lookup. -/
theorem customerOf_lookup (data : Json) (type : String) :
    (∃ providerId failure, plan t.journal (.findLinkedCustomer providerId) = some failure ∧
      run plan (Routes.customerOf data type : Service H (Option Customer)) t =
        (.error failure, t.noted (.findLinkedCustomer providerId) (some failure))) ∨
    run plan (Routes.customerOf data type : Service H (Option Customer)) t =
      (.ok (CustomerStore.ofBody? t.state.customers data),
        ⟨t.state, t.journal ++ Journal.lookup data⟩) := by
  rw [run_customerOf]
  cases hreference : Webhook.customerReference data with
  | none =>
      refine .inr ?_
      rw [CustomerStore.ofBody?, Journal.lookup, hreference, Option.toList_none, List.map_nil,
        List.append_nil]
      rfl
  | some providerId =>
      rw [Journal.lookup, hreference]
      cases hcall : plan t.journal (.findLinkedCustomer providerId) with
      | some failure =>
          refine .inl ⟨providerId, failure, hcall, ?_⟩
          dsimp only
          rw [hcall]
          rfl
      | none =>
          refine .inr ?_
          dsimp only
          rw [hcall]
          rfl

/-- The customer was looked for, by nothing but a call that was let through, or
there was nobody to look for. -/
def Looked (t t' : Trial World) : Prop :=
  t' = t ∨ ∃ providerId, t' = t.noted (.findLinkedCustomer providerId) none

/-- A trial that only looked the customer up has one more call in its journal at most,
and is as before otherwise. -/
theorem looked_lookup (data : Json) : Looked t ⟨t.state, t.journal ++ Journal.lookup data⟩ := by
  cases hreference : Webhook.customerReference data with
  | none =>
      refine .inl ?_
      rw [Journal.lookup, hreference, Option.toList_none, List.map_nil, List.append_nil]
  | some providerId =>
      refine .inr ⟨providerId, ?_⟩
      rw [Journal.lookup_of_reference hreference]
      rfl

/-- Looking for the customer of a body fails with the call for it, or finds the
customer. -/
theorem customerOf_looked (data : Json) (type : String) :
    (∃ providerId failure, plan t.journal (.findLinkedCustomer providerId) = some failure ∧
      run plan (Routes.customerOf data type : Service H (Option Customer)) t =
        (.error failure, t.noted (.findLinkedCustomer providerId) (some failure))) ∨
    ∃ t', Looked t t' ∧ run plan (Routes.customerOf data type : Service H (Option Customer)) t =
      (.ok (CustomerStore.ofBody? t.state.customers data), t') :=
  (customerOf_lookup plan t data type).imp_right fun hrun => ⟨_, looked_lookup t data, hrun⟩

/-- Looking for the customer of a body fails with the call for it, or finds the
customer and leaves everything as it is. -/
theorem customerOf_cases (data : Json) (type : String) :
    (∃ providerId failure, plan t.journal (.findLinkedCustomer providerId) = some failure ∧
      run plan (Routes.customerOf data type : Service H (Option Customer)) t =
        (.error failure, t.noted (.findLinkedCustomer providerId) (some failure))) ∨
    ∃ new : Journal, new.Smooth ∧ new.handed = [] ∧
      run plan (Routes.customerOf data type : Service H (Option Customer)) t =
        (.ok (CustomerStore.ofBody? t.state.customers data), ⟨t.state, t.journal ++ new⟩) :=
  (customerOf_lookup plan t data type).imp_right fun hrun =>
    ⟨Journal.lookup data, Journal.smooth_lookup data, Journal.handed_lookup data, hrun⟩

/-- The subscription that a first payment creates. -/
def firstOf (terms : Terms) (customer : Customer) (data : Json) (periodEnd : Instant)
    (w : World) : Subscription :=
  .new ⟨w.nextUuid⟩ customer.id ((Webhook.planReference data).getD terms.defaultPlan) periodEnd
    w.clock

/-- Creating the first subscription takes a UUID, reads the clock and saves. -/
theorem run_subscribe (terms : Terms) (customer : Customer) (data : Json) (periodEnd : Instant) :
    run plan (Routes.subscribe terms customer data periodEnd : Service H Unit) t =
      save plan t.drawn.ticked (firstOf terms customer data periodEnd t.state) := by
  unfold Routes.subscribe
  simp only [run_bind, run_freshUuid, run_now, run_saveSubscription]
  have hfirst : Subscription.new ⟨t.state.nextUuid⟩ customer.id
      ((Webhook.planReference data).getD terms.defaultPlan) periodEnd t.drawn.state.clock =
      firstOf terms customer data periodEnd t.state := rfl
  rw [hfirst]
  obtain ⟨answer, t'⟩ := save plan t.drawn.ticked (firstOf terms customer data periodEnd t.state)
  cases answer <;> rfl

/-! ## One subscription after the other -/

/-- The turns of subscriptions, up to the first that fails. -/
def pass (plan : Plan) (update : Update) :
    List SubscriptionId → Trial World → Except Failure Unit × Trial World
  | [], t => (.ok (), t)
  | id :: rest, t =>
    match turn plan update id t with
    | (.ok _, t) => pass plan update rest t
    | (.error failure, t) => (.error failure, t)

/-- What every turn of those that are listed leaves related, a pass does. -/
theorem related_pass (related : Trial World → Trial World → Prop) (hrefl : ∀ t, related t t)
    (htrans : ∀ {t t' t''}, related t t' → related t' t'' → related t t'') {plan : Plan}
    {update : Update} {ids : List SubscriptionId}
    (hturn : ∀ id ∈ ids, ∀ t, related t (turn plan update id t).2) (t : Trial World) :
    related t (pass plan update ids t).2 := by
  induction ids generalizing t with
  | nil => exact hrefl t
  | cons id rest ih =>
      have hfirst := hturn id List.mem_cons_self t
      have hrest : ∀ id ∈ rest, ∀ t, related t (turn plan update id t).2 :=
        fun id hid => hturn id (List.mem_cons_of_mem _ hid)
      rw [pass]
      generalize turn plan update id t = x at hfirst ⊢
      obtain ⟨result, t'⟩ := x
      cases result with
      | ok r => exact htrans hfirst (ih hrest t')
      | error failure => exact hfirst

/-- What is done to each of the listed subscriptions is a pass over them, if it
is a turn. -/
theorem run_each {act : SubscriptionId → Service H Unit} {update : Update}
    (hact : ∀ id t, run plan (act id) t =
      ((turn plan update id t).1.map fun _ => (), (turn plan update id t).2))
    (listed : List Subscription) :
    run plan (Routes.each act listed) t = pass plan update (listed.map Subscription.id) t := by
  induction listed generalizing t with
  | nil => rfl
  | cons s rest ih =>
      rw [Routes.each, run_bind, hact, List.map_cons, pass]
      obtain ⟨result, t'⟩ := turn plan update s.id t
      cases result with
      | error failure => rfl
      | ok r => exact ih t'

/-- The listing of a customer was let through. -/
def listing (customer : Customer) (t : Trial World) : Trial World :=
  t.noted (.listSubscriptions customer.id) none

/-- What a paid invoice of a stored customer comes to, once the end of the paid
period was computed. -/
def renewal (plan : Plan) (terms : Terms) (data : Json) (customer : Customer)
    (period : Except Failure Instant) (t : Trial World) : Except Failure Unit × Trial World :=
  match period with
  | .error failure => (.error failure, t)
  | .ok periodEnd =>
    match plan t.journal (.listSubscriptions customer.id) with
    | some failure => (.error failure, t.noted (.listSubscriptions customer.id) (some failure))
    | none =>
      match SubscriptionStore.ofCustomer t.state.subscriptions customer.id with
      | [] =>
        save plan (t.listing customer).drawn.ticked
          (firstOf terms customer data periodEnd (t.listing customer).state)
      | s :: rest =>
        pass plan (.renewal periodEnd) ((s :: rest).map Subscription.id) (t.listing customer)

/-- What the end of a stored customer's subscription comes to. -/
def cancellation (plan : Plan) (customer : Customer) (t : Trial World) :
    Except Failure Unit × Trial World :=
  match plan t.journal (.listSubscriptions customer.id) with
  | some failure => (.error failure, t.noted (.listSubscriptions customer.id) (some failure))
  | none =>
    pass plan .cancellation
      ((SubscriptionStore.ofCustomer t.state.subscriptions customer.id).map Subscription.id)
      (t.listing customer)

/-- To renew all subscriptions of a customer begins with the end of the period, which is
counted from the first reading of the clock. -/
theorem run_renewAll (terms : Terms) (data : Json) (customer : Customer) :
    run plan (Routes.renewAll terms data customer : Service H Unit) t =
      renewal plan terms data customer (terms.periodEnd t.state.clock) t.ticked := by
  rw [Routes.renewAll, run_bind_ok (run_now plan t)]
  generalize terms.periodEnd t.state.clock = period
  cases period with
  | error failure => exact run_bind_error (run_ofExcept plan t.ticked (.error failure)) _
  | ok periodEnd =>
      rw [run_bind_ok (run_ofExcept plan t.ticked (.ok periodEnd)), renewal]
      have hlisting := run_ofCustomer (H := H) plan t.ticked customer.id
      cases hcall : plan t.ticked.journal (.listSubscriptions customer.id) with
      | some failure =>
          rw [hcall] at hlisting
          exact run_bind_error hlisting _
      | none =>
          rw [hcall] at hlisting
          rw [run_bind_ok hlisting]
          cases SubscriptionStore.ofCustomer t.ticked.state.subscriptions customer.id with
          | nil => exact run_subscribe plan _ terms customer data periodEnd
          | cons s rest => exact run_each plan _ (run_renewOne plan customer periodEnd) (s :: rest)

/-- To cancel all subscriptions of a customer begins with the listing. -/
theorem run_cancelAll (customer : Customer) :
    run plan (Routes.cancelAll customer : Service H Unit) t = cancellation plan customer t := by
  rw [Routes.cancelAll, cancellation]
  have hlisting := run_ofCustomer (H := H) plan t customer.id
  cases hcall : plan t.journal (.listSubscriptions customer.id) with
  | some failure =>
      rw [hcall] at hlisting
      exact run_bind_error hlisting _
  | none =>
      rw [hcall] at hlisting
      rw [run_bind_ok hlisting]
      exact run_each plan _ (run_cancelOne plan customer) _

section ForCustomer

variable {plan : Plan} {t t' : Trial World} {data : Json} {type : String}

/-- A lookup that fails ends the webhook, and no work is begun. -/
theorem run_forCustomer_error {failure : Failure}
    (h : run plan (Routes.customerOf data type : Service H (Option Customer)) t =
      (.error failure, t')) (work : Customer → Service H Unit) :
    run plan (Routes.forCustomer data type work) t = (.error failure, t') :=
  run_bind_error h _

/-- If nobody is meant, the webhook is acknowledged, and no work is begun. -/
theorem run_forCustomer_none
    (h : run plan (Routes.customerOf data type : Service H (Option Customer)) t = (.ok none, t'))
    (work : Customer → Service H Unit) :
    run plan (Routes.forCustomer data type work) t = (.ok (), t') :=
  run_bind_ok h _

/-- If a customer is meant, the webhook comes to the work for that customer. -/
theorem run_forCustomer_some {customer : Customer}
    (h : run plan (Routes.customerOf data type : Service H (Option Customer)) t =
      (.ok (some customer), t')) (work : Customer → Service H Unit) :
    run plan (Routes.forCustomer data type work) t = run plan (work customer) t' :=
  run_bind_ok h _

/-- What is done for a stored customer comes right behind the lookup, unless that
failed. -/
theorem forCustomer_lookup (plan : Plan) (data : Json) (type : String)
    (work : Customer → Service H Unit) (t : Trial World) :
    (∃ providerId failure, plan t.journal (.findLinkedCustomer providerId) = some failure ∧
      run plan (Routes.forCustomer data type work) t =
        (.error failure, t.noted (.findLinkedCustomer providerId) (some failure))) ∨
    run plan (Routes.forCustomer data type work) t =
      match CustomerStore.ofBody? t.state.customers data with
      | none => (.ok (), ⟨t.state, t.journal ++ Journal.lookup data⟩)
      | some customer => run plan (work customer) ⟨t.state, t.journal ++ Journal.lookup data⟩ := by
  rcases customerOf_lookup (H := H) plan t data type with
    ⟨providerId, failure, hcall, hfound⟩ | hfound
  · exact .inl ⟨providerId, failure, hcall, run_forCustomer_error hfound work⟩
  · refine .inr ?_
    cases hknown : CustomerStore.ofBody? t.state.customers data with
    | none => exact run_forCustomer_none (hfound.trans (by rw [hknown])) work
    | some customer => exact run_forCustomer_some (hfound.trans (by rw [hknown])) work

/-- Looking for the customer of a body fails with the call for it, or leaves
everything as it is; if the customer is known, the work follows. -/
theorem forCustomer_cases (plan : Plan) (data : Json) (type : String)
    (work : Customer → Service H Unit) (t : Trial World) :
    (∃ providerId failure, plan t.journal (.findLinkedCustomer providerId) = some failure ∧
      run plan (Routes.forCustomer data type work) t =
        (.error failure, t.noted (.findLinkedCustomer providerId) (some failure))) ∨
    ∃ new : Journal, new.Smooth ∧ new.handed = [] ∧
      run plan (Routes.forCustomer data type work) t =
        match CustomerStore.ofBody? t.state.customers data with
        | none => (.ok (), ⟨t.state, t.journal ++ new⟩)
        | some customer => run plan (work customer) ⟨t.state, t.journal ++ new⟩ :=
  (forCustomer_lookup plan data type work t).imp_right fun hrun =>
    ⟨Journal.lookup data, Journal.smooth_lookup data, Journal.handed_lookup data, hrun⟩

end ForCustomer

end Trial

/-! ## A small world -/

namespace Sample

/-- A customer whom the provider knows as `cus_1`. -/
def customer : Customer := ⟨⟨.ofNat 1⟩, "ada@example.com", none, some "cus_1"⟩

/-- A subscription of the customer. -/
def subscription (n : Nat) (status : Status) : Subscription :=
  ⟨⟨.ofNat n⟩, customer.id, "basic", default, status, default⟩

/-- Four subscriptions of the customer. -/
def subscriptions : List Subscription :=
  [subscription 2 .pastDue, subscription 3 .cancelled, subscription 4 .active,
    subscription 5 .pastDue]

/-- The customer with the four subscriptions. -/
def world : World :=
  { World.new (.new (fun _ => default) fun n => .ofNat (n + 100)) with
    customers := CustomerStore.save .empty customer
    subscriptions := subscriptions.foldl SubscriptionStore.save .empty }

/-- A modification that gives the subscription under an identifier another one for
its own, while it stays where it is. -/
def renumber (id other : Nat) (store : SubscriptionStore) : SubscriptionStore :=
  match store.modify ⟨.ofNat id⟩ fun s => .ok ((), { s with id := ⟨.ofNat other⟩ }) with
  | .error _ => store
  | .ok (_, store) => store

/-- Three subscriptions of the customer, of which the first was given the identifier
of the second, and the third one that nothing is stored under. -/
def astray : World :=
  { world with
    subscriptions := renumber 2 3 (renumber 4 9
      ([subscription 2 .pastDue, subscription 3 .pastDue, subscription 4 .pastDue].foldl
        SubscriptionStore.save .empty)) }

/-- The body of a webhook about the customer. -/
def data : Json := .object [("object", .object [("customer", .string "cus_1")])]

/-- A paid invoice of the customer. -/
def paid : String :=
  "\x7b\"id\":\"evt_1\",\"type\":\"invoice.paid\",\"data\":\x7b\"object\":" ++
    "\x7b\"customer\":\"cus_1\"\x7d\x7d\x7d"

theorem parse_paid : Webhook.parse paid = .ok ⟨"evt_1", Routes.invoicePaidType, data⟩ := by
  cbv

/-- What a payload comes to when no call is made to fail. -/
def uninterrupted (payload : String) (w : World) :
    Except WebhookError Intake.Receipt × Trial World :=
  Trial.run .smooth (Intake.receive ⟨Routes.standard default⟩ payload :
    ExceptT WebhookError (Activity Empty World) Intake.Receipt) (.new w)

/-- A publisher that accepts one event and is down from then on. -/
def failing (before : List Envelope) (_ : Envelope) : Option Failure :=
  if before.isEmpty then none else some (.new .internalError "down")

end Sample

end SubscriptionBilling
