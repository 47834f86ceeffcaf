import SubscriptionBilling.Proofs.SignUp
/-!
# What a delivery does about a user

A delivery of a sign-up is told by what a user can see of it.  It is `Idle`, or
it stores a customer and announces it (`Stores`), by `deliver_cases`; so it does
nothing about the customer of a given user (`Quiet`), or it stores just that one.
And it makes the provider open an account for a user (`Opens`), or none, by
`deliver_accounts`.
-/

namespace SubscriptionBilling

/-- The envelope announces the customer of a user. -/
def Envelope.isCreationOf (e : Envelope) (user : UserId) : Bool :=
  e.topic == CustomerCreated.topic && e.aggregateId == (CustomerId.ofUser user).text

/-- An announcement is that of one user's customer only, as the identifiers of two users
are written differently. -/
theorem CustomerCreated.isCreationOf_envelope {c : CustomerCreated} {user other : UserId}
    (h : c.customer = .ofUser user) (cause : Envelope) :
    (c.envelope cause).isCreationOf other = true ↔ user = other := by
  rw [Envelope.isCreationOf, Bool.and_eq_true, beq_iff_eq, beq_iff_eq]
  constructor
  · rintro ⟨-, htext⟩
    have hid : c.customer = .ofUser other := CustomerId.text_injective htext
    exact CustomerId.ofUser_injective (h.symm.trans hid)
  · rintro rfl
    exact ⟨rfl, congrArg CustomerId.text h⟩

namespace Provisioning

open Trial

/-- One delivery: the envelope and the result, and the trial before and after. -/
structure Delivery where
  envelope : Envelope
  result : Except Failure Unit
  before : Trial World
  after : Trial World

/-- Delivers an envelope. -/
def deliver (plan : Plan) (e : Envelope) (t : Trial World) : Delivery :=
  let r := run plan (handle e : Service Empty Unit) t
  ⟨e, r.1, t, r.2⟩

namespace Delivery

/-- The calls that a delivery made, with their answers. -/
def calls (d : Delivery) : Journal := d.after.journal.drop d.before.journal.length

theorem calls_eq {d : Delivery} {new : Journal} (h : d.after.journal = d.before.journal ++ new) :
    d.calls = new := by
  rw [calls, h, List.drop_left]

/-- The stored customer of a user after a delivery. -/
def customerAfter (d : Delivery) (user : UserId) : Option Customer :=
  d.after.state.customers.find? (.ofUser user)

/-- A delivery that stored the customer of a sign-up, with the account that the
provider answered with, and handed over the announcement `e`. -/
structure Stores (d : Delivery) (s : UserCreated) (account : Account) (e : Envelope)
    (answer : Option Failure) : Prop where
  signUp : Provisioning.signUp d.envelope = .ok s
  inserted : CustomerStore.insert d.before.state.customers (customerOf s account) =
    .ok d.after.state.customers
  offered : d.before.offer (requestOf s) = (.ok account, d.after.state.gateway)
  held : d.after.state.gateway.accounts.find? (AccountRequest.keyFor s.user) = some account
  calls : d.calls =
    [(.findCustomer (.ofUser s.user), none), (.createAccount (requestOf s), none),
      (.insertCustomer (customerOf s account), none), (.publish e, answer)]
  announced : ∃ created : CustomerCreated, created.customer = .ofUser s.user ∧
    created.user = s.user ∧ created.email = s.email ∧ e = created.envelope d.envelope
  caused : e.lineage = ⟨d.envelope.lineage.correlation, some d.envelope.id.text⟩
  result : d.result = verdict answer

/-- A delivery that stored no customer and announced none.  It succeeds only if
the customer is there already, or the store refused another one. -/
structure Idle (plan : Plan) (d : Delivery) : Prop where
  customers : d.after.state.customers = d.before.state.customers
  inserts : ∀ c, (Call.insertCustomer c, none) ∉ d.calls
  handed : d.calls.handed = []
  success : d.result = .ok () → ∃ s, Provisioning.signUp d.envelope = .ok s ∧
    ((d.before.state.customers.find? (.ofUser s.user)).isSome ∨
      ∃ j c failure, plan j (.insertCustomer c) = some failure)

/-- A delivery that did nothing about the customer of a user. -/
structure Quiet (d : Delivery) (user : UserId) : Prop where
  kept : d.customerAfter user = d.before.state.customers.find? (.ofUser user)
  inserts : ∀ c, (Call.insertCustomer c, none) ∈ d.calls → c.id ≠ .ofUser user
  handed : ∀ e ∈ d.calls.handed, ¬ e.isCreationOf user = true

/-- A delivery made the provider open an account for a user. -/
structure Opens (d : Delivery) (user : UserId) : Prop where
  signUp : ∃ s, Provisioning.signUp d.envelope = .ok s ∧ s.user = user
  opened : ∃ account, d.before.state.gateway.accounts.find? (AccountRequest.keyFor user) = none ∧
    d.after.state.gateway.accounts =
      d.before.state.gateway.accounts.set (AccountRequest.keyFor user) account

variable {plan : Plan} {d : Delivery} {s : UserCreated} {account : Account} {e : Envelope}
  {answer : Option Failure} {user : UserId}

/-- A delivery that stored no customer and announced none did nothing about the customer
of any user, whoever it was for. -/
theorem Idle.quiet (h : d.Idle plan) (user : UserId) : d.Quiet user := by
  refine ⟨?_, fun c hc => absurd hc (h.inserts c), ?_⟩
  · rw [customerAfter, h.customers]
  · intro e he
    rw [h.handed] at he
    exact absurd he List.not_mem_nil

/-- What a delivery called tells whether it is idle: no insertion that succeeded,
nothing handed over, and the customers as they were. -/
theorem idle_of_journal (new : Journal) (hjournal : d.after.journal = d.before.journal ++ new)
    (hcustomers : d.after.state.customers = d.before.state.customers)
    (hinserts : ∀ c, (Call.insertCustomer c, none) ∉ new) (hhanded : new.handed = [])
    (hsuccess : d.result = .ok () → ∃ s, Provisioning.signUp d.envelope = .ok s ∧
      ((d.before.state.customers.find? (.ofUser s.user)).isSome ∨
        ∃ j c failure, plan j (.insertCustomer c) = some failure)) : d.Idle plan := by
  have hcalls := calls_eq hjournal
  exact ⟨hcustomers, hcalls.symm ▸ hinserts, hcalls.symm ▸ hhanded, hsuccess⟩

namespace Stores

/-- A delivery that stores a customer found none for the user. -/
theorem unknown (h : d.Stores s account e answer) :
    d.before.state.customers.find? (.ofUser s.user) = none := by
  have hinserted := h.inserted
  unfold CustomerStore.insert at hinserted
  cases hfind : d.before.state.customers.find? (customerOf s account).id with
  | none => exact hfind
  | some other =>
      rw [hfind] at hinserted
      cases hinserted

/-- A delivery that stores a customer adds just this one. -/
theorem find_after (h : d.Stores s account e answer) (user : UserId) :
    d.customerAfter user = if s.user = user then some (customerOf s account)
      else d.before.state.customers.find? (.ofUser user) := by
  have hinserted := h.inserted
  have hfree : d.before.state.customers.find? (customerOf s account).id = none := h.unknown
  rw [CustomerStore.insert, hfree] at hinserted
  rw [customerAfter, ← Except.ok.inj hinserted, CustomerStore.save, OrderedMap.find?_set]
  by_cases hsame : s.user = user
  · subst hsame
    rw [if_pos rfl]
    exact if_pos rfl
  · rw [if_neg hsame]
    exact if_neg fun hid => hsame (CustomerId.ofUser_injective hid)

/-- To store one user's customer is nothing to the other users. -/
theorem quiet (h : d.Stores s account e answer) (hother : s.user ≠ user) : d.Quiet user := by
  refine ⟨?_, ?_, ?_⟩
  · rw [h.find_after user, if_neg hother]
  · intro c hc hid
    rw [h.calls] at hc
    have hcustomer : c = customerOf s account := by simpa using hc
    rw [hcustomer] at hid
    exact hother (CustomerId.ofUser_injective hid)
  · intro e' he'
    rw [h.calls] at he'
    have hsame : e' = e := List.mem_singleton.mp he'
    obtain ⟨created, hcreated, -, -, henvelope⟩ := h.announced
    rw [hsame, henvelope, CustomerCreated.isCreationOf_envelope hcreated]
    exact hother

/-- What is announced when a customer is stored is the creation of that user's customer.
-/
theorem isCreationOf (h : d.Stores s account e answer) : e.isCreationOf s.user = true := by
  obtain ⟨created, hcreated, -, -, henvelope⟩ := h.announced
  rw [henvelope, CustomerCreated.isCreationOf_envelope hcreated]

end Stores

/-- A provider that was asked for an account opens one, unless it holds it. -/
theorem accounts_of_asked (hread : Provisioning.signUp d.envelope = .ok s)
    (hgateway : d.after.state.gateway = (d.before.offer (requestOf s)).2) :
    d.after.state.gateway.accounts = d.before.state.gateway.accounts ∨
      ∃ user, d.Opens user := by
  have hkey : (requestOf s).key = some (AccountRequest.keyFor s.user) := rfl
  rcases d.before.state.gateway.accounts_create (Gateway.accountId d.before.state.nextUuid) hkey
    with hsame | ⟨hfree, account, -, -, hset⟩
  · rw [hgateway]
    exact .inl hsame
  · refine .inr ⟨s.user, ⟨s, hread, rfl⟩, account, hfree, ?_⟩
    rw [hgateway]
    exact hset

end Delivery

/-! ## One delivery -/

/-- **One delivery.** It is idle, or it stores a customer and announces it; no delivery
does one without the other. -/
theorem deliver_cases (plan : Plan) (e : Envelope) (t : Trial World) :
    (deliver plan e t).Idle plan ∨
      ∃ s account e' answer, (deliver plan e t).Stores s account e' answer := by
  have houtcome := handle_cases (H := Empty) plan e t
  rw [deliver]
  generalize run plan (handle e : Service Empty Unit) t = r at houtcome ⊢
  obtain ⟨result, t'⟩ := r
  dsimp only at houtcome ⊢
  cases houtcome with
  -- All but the last outcome are idle; each lists the calls that it made.
  | unreadable failure hread =>
      exact .inl (Delivery.idle_of_journal [] (List.append_nil _).symm rfl
        (fun c hc => absurd hc List.not_mem_nil) rfl fun h => nomatch h)
  | unchecked s failure hread hcall =>
      exact .inl (Delivery.idle_of_journal _ rfl rfl (by simp) rfl fun h => nomatch h)
  | known s customer hread hfind =>
      have hknown : (t.state.customers.find? (.ofUser s.user)).isSome := by
        rw [hfind]
        rfl
      exact .inl (Delivery.idle_of_journal _ rfl rfl (by simp) rfl
        fun _ => ⟨s, hread, .inl hknown⟩)
  | unasked s failure hread hfind hcall =>
      exact .inl (Delivery.idle_of_journal _ (List.append_assoc _ _ _) rfl (by simp) rfl
        fun h => nomatch h)
  | declined s error hread hfind hoffer =>
      exact .inl (Delivery.idle_of_journal _ (List.append_assoc _ _ _) rfl (by simp) rfl
        fun h => nomatch h)
  | unstored s account failure hread hfind hoffer hcall =>
      exact .inl (Delivery.idle_of_journal
        [(.findCustomer (.ofUser s.user), none), (.createAccount (requestOf s), none),
          (.insertCustomer (customerOf s account), some failure)]
        (by simp [offered, lookedFor, requested, inState]) rfl (by simp) rfl
        fun _ => ⟨s, hread, .inr ⟨_, _, failure, hcall⟩⟩)
  | stored s account answer hread hfind hoffer hanswer =>
      refine .inr ⟨s, account, (t.enrolled s account).creation s e, answer, hread, ?_, ?_,
        t.state.gateway.find?_create _ rfl hoffer, Delivery.calls_eq ?_, ⟨_, rfl, rfl, rfl, rfl⟩,
        rfl, rfl⟩
      · have hfree : t.state.customers.find? (customerOf s account).id = none := hfind
        rw [CustomerStore.insert, hfree]
        rfl
      · rw [← hoffer]
        rfl
      · simp [enrolled, offered, lookedFor, requested, inState, drawn, ticked]

/-- Nothing is done about a user, or the customer of this user is stored. -/
theorem deliver_quiet_or_stores (plan : Plan) (e : Envelope) (t : Trial World) (user : UserId) :
    (deliver plan e t).Quiet user ∨ ∃ s account e' answer, s.user = user ∧
      (deliver plan e t).Stores s account e' answer := by
  rcases deliver_cases plan e t with hidle | ⟨s, account, e', answer, hstores⟩
  · exact .inl (hidle.quiet user)
  · by_cases huser : s.user = user
    · exact .inr ⟨s, account, e', answer, huser, hstores⟩
    · exact .inl (hstores.quiet huser)

/-- The provider is not asked, or it answers the request of the user who signed
up. -/
theorem deliver_gateway (plan : Plan) (e : Envelope) (t : Trial World) :
    ((deliver plan e t).after.state.gateway = t.state.gateway ∧
        ∀ r, (Call.createAccount r, none) ∉ (deliver plan e t).calls) ∨
      ∃ s, signUp e = .ok s ∧
        (Call.createAccount (requestOf s), none) ∈ (deliver plan e t).calls ∧
        (deliver plan e t).after.state.gateway = (t.offer (requestOf s)).2 := by
  have houtcome := handle_cases (H := Empty) plan e t
  rw [deliver]
  generalize run plan (handle e : Service Empty Unit) t = r at houtcome ⊢
  obtain ⟨result, t'⟩ := r
  dsimp only at houtcome ⊢
  -- The calls are those behind the journal of before.
  have hcalls : ∀ new, t'.journal = t.journal ++ new →
      Delivery.calls ⟨e, result, t, t'⟩ = new :=
    fun _ h => Delivery.calls_eq h
  cases houtcome with
  | unreadable failure hread =>
      rw [hcalls [] (List.append_nil _).symm]
      exact .inl ⟨rfl, fun r hr => absurd hr List.not_mem_nil⟩
  | unchecked s failure hread hcall =>
      rw [hcalls _ rfl]
      exact .inl ⟨rfl, by simp⟩
  | known s customer hread hfind =>
      rw [hcalls _ rfl]
      exact .inl ⟨rfl, by simp⟩
  | unasked s failure hread hfind hcall =>
      rw [hcalls _ (List.append_assoc _ _ _)]
      exact .inl ⟨rfl, by simp⟩
  | declined s error hread hfind hoffer =>
      rw [hcalls _ (List.append_assoc _ _ _)]
      exact .inr ⟨s, hread, by simp, rfl⟩
  | unstored s account failure hread hfind hoffer hcall =>
      rw [hcalls [(.findCustomer (.ofUser s.user), none), (.createAccount (requestOf s), none),
        (.insertCustomer (customerOf s account), some failure)]
        (by simp [offered, lookedFor, requested, inState])]
      exact .inr ⟨s, hread, by simp, rfl⟩
  | stored s account answer hread hfind hoffer hanswer =>
      rw [hcalls [(.findCustomer (.ofUser s.user), none), (.createAccount (requestOf s), none),
        (.insertCustomer (customerOf s account), none),
        (.publish ((t.enrolled s account).creation s e), answer)]
        (by simp [enrolled, offered, lookedFor, requested, inState, drawn, ticked])]
      exact .inr ⟨s, hread, by simp, rfl⟩

/-- The provider opens an account for the user who signed up, or none. -/
theorem deliver_accounts (plan : Plan) (e : Envelope) (t : Trial World) :
    (deliver plan e t).after.state.gateway.accounts = t.state.gateway.accounts ∨
      ∃ user, (deliver plan e t).Opens user := by
  rcases deliver_gateway plan e t with ⟨hsame, -⟩ | ⟨s, hread, -, hgateway⟩
  · exact .inl (congrArg Gateway.accounts hsame)
  · exact Delivery.accounts_of_asked hread hgateway

end Provisioning

end SubscriptionBilling
