import SubscriptionBilling.Proofs.Calls
import SubscriptionBilling.Service.Provisioning
/-!
# One delivery of a sign-up

To provision a customer takes four calls, and each of them may fail: to look for
the customer, to ask the provider for an account, to store the customer and to
announce it.  `Provisioning.Outcome` is the list of everything that can happen
in a delivery, each with the journal that it leaves, and `handle_cases` says that
it is complete.
-/

namespace SubscriptionBilling

namespace CustomerCreated

/-- The topic of announcements of customers. -/
def topic : Topic := DomainEvent.topic CustomerCreated

/-- The announcement of a customer on its way, going back to the event that
caused it and to the request behind that. -/
def envelope (c : CustomerCreated) (cause : Envelope) : Envelope :=
  ⟨c.id, topic, 1, c.customer.text, "Customer", c.occurredAt, schema.value c,
    ⟨cause.lineage.correlation, some cause.id.text⟩⟩

end CustomerCreated

namespace Provisioning

/-- An announcement can always be made. -/
theorem announcement_eq (cause : Envelope) (c : CustomerCreated) :
    announcement cause c = .ok (c.envelope cause) := by
  unfold announcement CustomerCreated.envelope
  cases cause.lineage.correlation <;> rfl

/-- What the provider is asked for. -/
def requestOf (s : UserCreated) : AccountRequest := .forUser s.user s.email s.displayName

/-- The customer that is stored for a sign-up. -/
def customerOf (s : UserCreated) (account : Account) : Customer :=
  ⟨.ofUser s.user, s.email, s.displayName, some account.id⟩

end Provisioning

namespace Trial

open Provisioning

variable (t : Trial World) (s : UserCreated) (account : Account)

/-- The customer was looked for. -/
def lookedFor : Trial World := t.noted (.findCustomer (.ofUser s.user)) none

/-- The provider answered. -/
def offered : Trial World :=
  ((t.lookedFor s).noted (.createAccount (requestOf s)) none).requested (requestOf s)

/-- The customer was stored. -/
def enrolled : Trial World :=
  ((t.offered s).noted (.insertCustomer (customerOf s account)) none).inState
    { (t.offered s).state with
      customers := CustomerStore.save t.state.customers (customerOf s account) }

/-- The announcement of a stored customer, with the next UUID as its
identifier. -/
def creation (cause : Envelope) : Envelope :=
  CustomerCreated.envelope
    ⟨.ofUuid t.state.nextUuid, .ofUser s.user, s.user, s.email, t.state.clock⟩ cause

end Trial

namespace Provisioning

open Trial

variable {H : Type}

/-- How a delivery can end. -/
inductive Outcome (plan : Plan) (e : Envelope) (t : Trial World) :
    Except Failure Unit → Trial World → Prop
  /-- The content is no sign-up. -/
  | unreadable (failure : Failure) (hread : signUp e = .error failure) :
      Outcome plan e t (.error failure) t
  /-- The customer could not be looked for. -/
  | unchecked (s : UserCreated) (failure : Failure) (hread : signUp e = .ok s)
      (hcall : plan t.journal (.findCustomer (.ofUser s.user)) = some failure) :
      Outcome plan e t (.error failure)
        (t.noted (.findCustomer (.ofUser s.user)) (some failure))
  /-- The user has a customer already. -/
  | known (s : UserCreated) (customer : Customer) (hread : signUp e = .ok s)
      (hfind : t.state.customers.find? (.ofUser s.user) = some customer) :
      Outcome plan e t (.ok ()) (t.lookedFor s)
  /-- The provider could not be asked. -/
  | unasked (s : UserCreated) (failure : Failure) (hread : signUp e = .ok s)
      (hfind : t.state.customers.find? (.ofUser s.user) = none)
      (hcall : plan (t.lookedFor s).journal (.createAccount (requestOf s)) = some failure) :
      Outcome plan e t (.error failure)
        ((t.lookedFor s).noted (.createAccount (requestOf s)) (some failure))
  /-- The provider answers with an error. -/
  | declined (s : UserCreated) (error : GatewayError) (hread : signUp e = .ok s)
      (hfind : t.state.customers.find? (.ofUser s.user) = none)
      (hoffer : (t.offer (requestOf s)).1 = .error error) :
      Outcome plan e t (.error error.toFailure) (t.offered s)
  /-- The customer could not be stored; only if it is there already, that is no
  failure. -/
  | unstored (s : UserCreated) (account : Account) (failure : Failure) (hread : signUp e = .ok s)
      (hfind : t.state.customers.find? (.ofUser s.user) = none)
      (hoffer : (t.offer (requestOf s)).1 = .ok account)
      (hcall : plan (t.offered s).journal (.insertCustomer (customerOf s account)) =
        some failure) :
      Outcome plan e t (if failure.code = .alreadyExists then .ok () else .error failure)
        ((t.offered s).noted (.insertCustomer (customerOf s account)) (some failure))
  /-- The customer is stored, and the publisher answers the announcement. -/
  | stored (s : UserCreated) (account : Account) (answer : Option Failure)
      (hread : signUp e = .ok s)
      (hfind : t.state.customers.find? (.ofUser s.user) = none)
      (hoffer : (t.offer (requestOf s)).1 = .ok account)
      (hanswer : plan (t.enrolled s account).journal
        (.publish ((t.enrolled s account).creation s e)) = answer) :
      Outcome plan e t (verdict answer)
        ((t.enrolled s account).drawn.ticked.noted
          (.publish ((t.enrolled s account).creation s e)) answer)

/-- To store a customer is to insert it, where one that is there already is no
failure. -/
theorem run_store (plan : Plan) (t : Trial World) (customer : Customer) (user : UserId) :
    run plan (store customer user : Service H Bool) t =
      match insertCustomer plan t customer with
      | (.ok (), t) => (.ok true, t)
      | (.error failure, t) =>
        (if failure.code = .alreadyExists then .ok false else .error failure, t) := by
  rw [store, run_tryCatch, run_bind, run_insertCustomer]
  obtain ⟨result, t'⟩ := insertCustomer plan t customer
  cases result with
  | ok u => rfl
  | error failure =>
      by_cases hcode : failure.code = .alreadyExists
      · simp only [hcode, if_true]
        rfl
      · simp only [hcode, if_false]
        rfl

/-- What follows once the customer is stored. -/
def announceCreation (e : Envelope) (s : UserCreated) (account : Account) : Service H Unit := do
  Service.tell .info "Customer provisioned"
    [("user_id", .text s.user.text), ("customer_id", .text (CustomerId.ofUser s.user).text),
      ("stripe_customer_id", .text account.id)]
  let id ← Service.freshUuid
  let now ← Service.now
  let announced ← announcement e ⟨.ofUuid id, .ofUser s.user, s.user, s.email, now⟩
  Service.publish announced

/-- To announce a new customer is one publication, and its answer is that of the
publisher. -/
theorem run_announceCreation (plan : Plan) (e : Envelope) (s : UserCreated) (account : Account)
    (t : Trial World) :
    run plan (announceCreation e s account : Service H Unit) t =
      (verdict (plan t.journal (.publish (t.creation s e))),
        t.drawn.ticked.noted (.publish (t.creation s e))
          (plan t.journal (.publish (t.creation s e)))) := by
  unfold announceCreation
  simp only [run_bind, run_tell, run_freshUuid, run_now, announcement_eq, run_ofExcept,
    run_publish]
  rfl

/-- What follows the check: the account, the customer and the announcement. -/
def enroll (e : Envelope) (s : UserCreated) : Service H Unit := do
  let account ← Accounts.create (requestOf s)
  if ← store (customerOf s account) s.user then
    announceCreation e s account

/-- A sign-up whose customer could be looked up is enrolled if there is none, and
ignored if there is. -/
theorem run_handle {plan : Plan} {e : Envelope} {t : Trial World} {s : UserCreated}
    (hread : signUp e = .ok s) (hcall : plan t.journal (.findCustomer (.ofUser s.user)) = none) :
    run plan (handle e : Service H Unit) t =
      if (t.state.customers.find? (.ofUser s.user)).isSome then (.ok (), t.lookedFor s)
      else run plan (enroll e s : Service H Unit) (t.lookedFor s) := by
  have hlook := run_customerExists (H := H) plan t (.ofUser s.user)
  rw [hcall] at hlook
  rw [handle, hread, run_bind_ok (run_ofExcept plan t (.ok s)), run_bind_ok hlook]
  cases t.state.customers.find? (.ofUser s.user) <;> rfl

/-- Everything that can happen to a user without a customer. -/
theorem enroll_cases {plan : Plan} {e : Envelope} {t : Trial World} {s : UserCreated}
    (hread : signUp e = .ok s) (hfind : t.state.customers.find? (.ofUser s.user) = none) :
    Outcome plan e t (run plan (enroll e s : Service H Unit) (t.lookedFor s)).1
      (run plan (enroll e s : Service H Unit) (t.lookedFor s)).2 := by
  unfold enroll
  have hcreate := run_createAccount (H := H) plan (t.lookedFor s) (requestOf s)
  have hsame : (t.lookedFor s).offer (requestOf s) = t.offer (requestOf s) := rfl
  rw [createAccount, hsame] at hcreate
  cases hcall : plan (t.lookedFor s).journal (.createAccount (requestOf s)) with
  | some failure =>
      rw [hcall] at hcreate
      rw [run_bind_error hcreate]
      exact .unasked s failure hread hfind hcall
  | none =>
    rw [hcall] at hcreate
    cases hoffer : (t.offer (requestOf s)).1 with
    | error error =>
        rw [hoffer] at hcreate
        rw [run_bind_error hcreate]
        exact .declined s error hread hfind hoffer
    | ok account =>
      rw [hoffer] at hcreate
      rw [run_bind_ok hcreate]
      show Outcome plan e t (run plan _ (t.offered s)).1 (run plan _ (t.offered s)).2
      have hstore := run_store (H := H) plan (t.offered s) (customerOf s account) s.user
      rw [insertCustomer] at hstore
      cases hinsert : plan (t.offered s).journal (.insertCustomer (customerOf s account)) with
      | some failure =>
          rw [hinsert] at hstore
          have houtcome := Outcome.unstored s account failure hread hfind hoffer hinsert
          by_cases hcode : failure.code = .alreadyExists
          · simp only [hcode, if_true] at hstore houtcome
            rw [run_bind_ok hstore]
            exact houtcome
          · simp only [hcode, if_false] at hstore houtcome
            rw [run_bind_error hstore]
            exact houtcome
      | none =>
          have hfree : CustomerStore.insert (t.offered s).state.customers (customerOf s account) =
              .ok (CustomerStore.save t.state.customers (customerOf s account)) := by
            have hnone : (t.offered s).state.customers.find? (customerOf s account).id = none :=
              hfind
            rw [CustomerStore.insert, hnone]
            rfl
          rw [hinsert, hfree] at hstore
          rw [run_bind_ok hstore]
          have hannounce := run_announceCreation (H := H) plan e s account (t.enrolled s account)
          show Outcome plan e t (run plan (announceCreation e s account) (t.enrolled s account)).1
            (run plan (announceCreation e s account) (t.enrolled s account)).2
          rw [hannounce]
          exact .stored s account _ hread hfind hoffer rfl

/-- **The deliveries.**  Every delivery ends in one of these ways. -/
theorem handle_cases (plan : Plan) (e : Envelope) (t : Trial World) :
    Outcome plan e t (run plan (handle e : Service H Unit) t).1
      (run plan (handle e : Service H Unit) t).2 := by
  cases hread : signUp e with
  | error failure =>
      rw [handle, hread, run_bind_error (run_ofExcept plan t (.error failure))]
      exact .unreadable failure hread
  | ok s =>
    cases hcall : plan t.journal (.findCustomer (.ofUser s.user)) with
    | some failure =>
        have hlook := run_customerExists (H := H) plan t (.ofUser s.user)
        rw [hcall] at hlook
        rw [handle, hread, run_bind_ok (run_ofExcept plan t (.ok s)), run_bind_error hlook]
        exact .unchecked s failure hread hcall
    | none =>
        rw [run_handle hread hcall]
        cases hfind : t.state.customers.find? (.ofUser s.user) with
        | some customer => exact .known s customer hread hfind
        | none => exact enroll_cases hread hfind

end Provisioning

end SubscriptionBilling
