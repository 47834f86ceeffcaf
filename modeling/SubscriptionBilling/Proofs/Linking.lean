import SubscriptionBilling.Proofs.Enrollment
import SubscriptionBilling.Proofs.Ownership
/-!
# Who is meant by a webhook

A webhook names its customer by an identifier of the provider, and the store is
searched for a customer who is linked to it.  Customers that only sign-ups have
stored are linked to accounts that the provider keeps for their users, one each,
and so no two of them share a link (`Trial.Links`).

`linked_of_history` says what follows for every history of requests: who is found
under an identifier, and whose subscriptions a webhook can touch.  The one thing
to take care of is that the provider may have answered for a user whose customer
could not be stored; then nobody is found under that identifier
(`returned_unlinked`).
-/

namespace SubscriptionBilling

open Provisioning

namespace Provisioning.Delivery

/-- The provider was asked for the account of a user, and answered with it. -/
def Returns (d : Delivery) (user : UserId) (account : Account) : Prop :=
  ∃ s, Provisioning.signUp d.envelope = .ok s ∧ s.user = user ∧
    (Call.createAccount (requestOf s), none) ∈ d.calls ∧
    (d.before.offer (requestOf s)).1 = .ok account

end Provisioning.Delivery

/-! ## The accounts in a delivery -/

namespace Provisioning

variable {plan : Plan} {e : Envelope} {t : Trial World} {user : UserId} {account : Account}
  {key : String}

/-- The account that the provider answered with is held under the key of the
user. -/
theorem held_of_returns (h : (deliver plan e t).Returns user account) :
    (deliver plan e t).after.state.gateway.accounts.find? (AccountRequest.keyFor user) =
      some account := by
  obtain ⟨s, hread, rfl, hasked, hoffer⟩ := h
  rcases deliver_gateway plan e t with ⟨-, hnever⟩ | ⟨s', hread', -, hgateway⟩
  · exact absurd hasked (hnever _)
  · cases hread.symm.trans hread'
    rw [hgateway]
    exact t.state.gateway.find?_create _ rfl hoffer

/-- An account that is held under a key is held after every delivery: the gateway never
gives one up or replaces it. -/
theorem held_deliver (h : t.state.gateway.accounts.find? key = some account) :
    (deliver plan e t).after.state.gateway.accounts.find? key = some account := by
  rcases deliver_accounts plan e t with hsame | ⟨v, hopens⟩
  · rwa [hsame]
  · obtain ⟨opened, hfree, hset⟩ := hopens.opened
    rw [hset, OrderedMap.find?_set]
    split
    · rename_i heq
      subst heq
      cases hfree.symm.trans h
    · exact h

/-- An account that is held was held before, or it was opened for a user under a
new identifier. -/
theorem held_before_or_opened
    (h : (deliver plan e t).after.state.gateway.accounts.find? key = some account) :
    t.state.gateway.accounts.find? key = some account ∨
      ∃ v, key = AccountRequest.keyFor v ∧ (deliver plan e t).Opens v ∧
        (deliver plan e t).Returns v account ∧
        account.id = Gateway.accountId t.state.nextUuid := by
  rcases deliver_gateway plan e t with ⟨hsame, -⟩ | ⟨s, hread, hasked, hgateway⟩
  · rw [hsame] at h
    exact .inl h
  · have hkey : (requestOf s).key = some (AccountRequest.keyFor s.user) := rfl
    rcases t.state.gateway.accounts_create (Gateway.accountId t.state.nextUuid) hkey with
      hkept | ⟨hfree, opened, hid, hanswer, hset⟩
    · rw [hgateway, Trial.offer, hkept] at h
      exact .inl h
    · have hafter : (deliver plan e t).after.state.gateway.accounts =
          t.state.gateway.accounts.set (AccountRequest.keyFor s.user) opened := by
        rw [hgateway]
        exact hset
      rw [hafter, OrderedMap.find?_set] at h
      split at h
      · rename_i heq
        cases h
        exact .inr ⟨s.user, heq.symm, ⟨⟨s, hread, rfl⟩, account, hfree, hafter⟩,
          ⟨s, hread, rfl, hasked, hanswer⟩, hid⟩
      · exact .inl h

/-- One delivery opens an account for one user at most, since the keys of two users are
two. -/
theorem opens_unique {u v : UserId} (hu : (deliver plan e t).Opens u)
    (hv : (deliver plan e t).Opens v) : u = v := by
  obtain ⟨s, hread, rfl⟩ := hu.signUp
  obtain ⟨s', hread', rfl⟩ := hv.signUp
  cases hread.symm.trans hread'
  rfl

end Provisioning

/-! ## What a history keeps -/

namespace Trial

/-- Every customer stands under the identifier of a user and is linked to the
account of this user, and no two accounts have the same identifier. -/
structure Links (t : Trial World) : Prop where
  keyed : ∀ {user c}, t.state.customers.find? (.ofUser user) = some c → c.id = .ofUser user
  linked : ∀ {user c}, t.state.customers.find? (.ofUser user) = some c →
    ∃ account, t.state.gateway.accounts.find? (AccountRequest.keyFor user) = some account ∧
      c.providerId = some account.id
  apart : ∀ {key key' account account'}, t.state.gateway.accounts.find? key = some account →
    t.state.gateway.accounts.find? key' = some account' → account.id = account'.id → key = key'

/-- In a delivery, the identifier of an account that is opened is that of no
account before. -/
def NewAccount (plan : Plan) (e : Envelope) (t : Trial World) : Prop :=
  ∀ user, (deliver plan e t).Opens user → ∀ key account,
    t.state.gateway.accounts.find? key = some account →
      account.id ≠ Gateway.accountId t.state.nextUuid

variable {plan : Plan} {t t' : Trial World} {requests : List Request} {user : UserId}

/-- What leaves the customers and the gateway alone leaves the links alone. -/
theorem Links.of_eq (h : Links t) (hcustomers : t'.state.customers = t.state.customers)
    (hgateway : t'.state.gateway = t.state.gateway) : Links t' := by
  constructor
  · rw [hcustomers]
    exact h.keyed
  · rw [hcustomers, hgateway]
    exact h.linked
  · rw [hgateway]
    exact h.apart

/-- **One delivery.** If the account that it opens has an identifier that no account
had, customers stay linked to the accounts of their own users, and no two accounts have
one identifier. -/
theorem Links.delivery {e : Envelope} (h : Links t) (hnew : NewAccount plan e t) :
    Links (deliver plan e t).after := by
  have hfind : ∀ {user c}, (deliver plan e t).after.state.customers.find? (.ofUser user) = some c →
      t.state.customers.find? (.ofUser user) = some c ∨ c.id = .ofUser user ∧
        ∃ account, (deliver plan e t).after.state.gateway.accounts.find?
          (AccountRequest.keyFor user) = some account ∧ c.providerId = some account.id := by
    intro user c hc
    rcases deliver_cases plan e t with hidle | ⟨s, account, e', answer, hstores⟩
    · rw [hidle.customers] at hc
      exact .inl hc
    · have hafter := hstores.find_after user
      rw [Delivery.customerAfter, hc] at hafter
      split at hafter
      · rename_i huser
        cases hafter
        exact .inr ⟨congrArg CustomerId.ofUser huser, account, huser ▸ hstores.held, rfl⟩
      · exact .inl hafter.symm
  refine ⟨fun hc => ?_, fun hc => ?_, fun hkey hkey' hsame => ?_⟩
  · rcases hfind hc with hold | ⟨hid, -⟩
    · exact h.keyed hold
    · exact hid
  · rcases hfind hc with hold | ⟨-, hlinked⟩
    · obtain ⟨account, hheld, hlink⟩ := h.linked hold
      exact ⟨account, held_deliver hheld, hlink⟩
    · exact hlinked
  -- A new account is like no old one, and there is one new account at most.
  · rcases held_before_or_opened hkey with hold | ⟨u, rfl, hopens, -, hid⟩ <;>
      rcases held_before_or_opened hkey' with hold' | ⟨v, rfl, hopens', -, hid'⟩
    · exact h.apart hold hold' hsame
    · exact absurd (hsame.trans hid') (hnew v hopens' _ _ hold)
    · exact absurd (hsame.symm.trans hid) (hnew u hopens _ _ hold')
    · rw [opens_unique hopens hopens']

/-- The provider has answered for a user with an account of this identifier. -/
def Returned (plan : Plan) (t : Trial World) (requests : List Request) (user : UserId)
    (providerId : String) : Prop :=
  ∃ front e back account, requests = front ++ .delivery e :: back ∧
    (deliver plan e (history plan front t)).Returns user account ∧ account.id = providerId

/-- Whenever a delivery opens an account, its identifier is new. -/
def NewAccounts (plan : Plan) (t : Trial World) (requests : List Request) : Prop :=
  ∀ front e back, requests = front ++ .delivery e :: back →
    NewAccount plan e (history plan front t)

/-- A delivery as the only request. -/
theorem history_delivery (plan : Plan) (e : Envelope) (t : Trial World) :
    history plan [.delivery e] t = (deliver plan e t).after := rfl

/-- What the gateway once came back with stays so, whatever is asked for afterwards. -/
theorem Returned.snoc {providerId : String} (h : Returned plan t requests user providerId)
    (request : Request) : Returned plan t (requests ++ [request]) user providerId := by
  obtain ⟨front, e, back, account, rfl, hreturns⟩ := h
  exact ⟨front, e, back ++ [request], account, by simp, hreturns⟩

/-- If every account of a run is new, so is every account of its front. -/
theorem NewAccounts.front {request : Request}
    (h : NewAccounts plan t (requests ++ [request])) : NewAccounts plan t requests := by
  rintro front e back rfl
  exact h front e (back ++ [request]) (by simp)

/-- What there is after some requests: customers that are linked to accounts of
their own, and accounts that the provider has answered with. -/
structure Linked (plan : Plan) (t : Trial World) (requests : List Request) : Prop where
  links : Links (history plan requests t)
  returned : ∀ {key account},
    (history plan requests t).state.gateway.accounts.find? key = some account →
      ∃ user, key = AccountRequest.keyFor user ∧ Returned plan t requests user account.id

/-- **One more request.** Deliveries keep the links, and webhooks and commands change
neither customers nor accounts; only a record that is written past the handler could
break them. -/
theorem Linked.snoc (h : Linked plan t requests) {request : Request}
    (hrecord : ∀ customer, request ≠ .record customer)
    (hnew : NewAccounts plan t (requests ++ [request])) :
    Linked plan t (requests ++ [request]) := by
  have hdelivery_or : (∃ e, request = .delivery e) ∨ ∀ e, request ≠ .delivery e := by
    cases request <;> simp
  rcases hdelivery_or with ⟨e, rfl⟩ | hdelivery
  · have hserve : history plan (requests ++ [.delivery e]) t =
        (deliver plan e (history plan requests t)).after :=
      history_snoc plan requests (.delivery e) t
    refine ⟨?_, fun hheld => ?_⟩
    · rw [hserve]
      exact h.links.delivery (hnew requests e [] rfl)
    · rw [hserve] at hheld
      rcases held_before_or_opened hheld with hold | ⟨v, hkey, -, hreturns, -⟩
      · obtain ⟨user, hkey, hreturned⟩ := h.returned hold
        exact ⟨user, hkey, hreturned.snoc _⟩
      · exact ⟨v, hkey, requests, e, [], _, rfl, hreturns, rfl⟩
  · obtain ⟨hcustomers, hgateway⟩ :=
      request.serve_aside plan (history plan requests t) hrecord hdelivery
    refine ⟨?_, fun hheld => ?_⟩
    · rw [history_snoc]
      exact h.links.of_eq hcustomers hgateway
    · rw [history_snoc, hgateway] at hheld
      obtain ⟨user, hkey, hreturned⟩ := h.returned hheld
      exact ⟨user, hkey, hreturned.snoc _⟩

/-- **Any requests**, if nobody saves customers from outside. -/
theorem linked_history {w : World} (hcustomers : w.customers = .empty)
    (haccounts : w.gateway.accounts = .empty) (requests : List Request)
    (hrecord : ∀ customer, .record customer ∉ requests)
    (hnew : NewAccounts plan (.new w) requests) : Linked plan (.new w) requests := by
  induction requests using List.reverseRecOn with
  | nil =>
      have hnobody : ∀ {id c}, (Trial.new w).state.customers.find? id ≠ some c := by
        intro id c
        show w.customers.find? id ≠ some c
        rw [hcustomers]
        exact nofun
      have hnone : ∀ {key account},
          (Trial.new w).state.gateway.accounts.find? key ≠ some account := by
        intro key account
        show w.gateway.accounts.find? key ≠ some account
        rw [haccounts]
        exact nofun
      exact ⟨⟨fun hc => absurd hc hnobody, fun hc => absurd hc hnobody,
        fun hkey => absurd hkey hnone⟩, fun hkey => absurd hkey hnone⟩
  | append_singleton requests request ih =>
      refine (ih (fun customer hmem => hrecord customer (List.mem_append_left _ hmem))
        hnew.front).snoc (fun customer heq => hrecord customer ?_) hnew
      simp [heq]

/-- An account is held through a whole run, as long as no customer is recorded past the
handler. -/
theorem held_history {key : String} {account : Account} {requests : List Request}
    (hrecord : ∀ customer, .record customer ∉ requests)
    (h : t.state.gateway.accounts.find? key = some account) :
    (history plan requests t).state.gateway.accounts.find? key = some account := by
  induction requests generalizing t with
  | nil => exact h
  | cons request rest ih =>
      refine ih (fun customer hmem => hrecord customer (List.mem_cons_of_mem _ hmem)) ?_
      have hthis : ∀ customer, request ≠ .record customer :=
        fun customer heq => hrecord customer (heq ▸ List.mem_cons_self)
      cases request with
      | delivery e =>
          have hheld : (deliver plan e t).after.state.gateway.accounts.find? key = some account :=
            held_deliver h
          exact hheld
      | record customer => exact absurd rfl (hthis customer)
      | webhook terms payload =>
          rw [(Request.serve_aside plan t (.webhook terms payload) hthis (by simp)).2]
          exact h
      | command id action =>
          rw [(Request.serve_aside plan t (.command id action) hthis (by simp)).2]
          exact h

/-- What the provider has answered with is still held under the key of the user. -/
theorem Returned.held {providerId : String}
    (h : Returned plan t requests user providerId)
    (hrecord : ∀ customer, .record customer ∉ requests) :
    ∃ account, (history plan requests t).state.gateway.accounts.find?
      (AccountRequest.keyFor user) = some account ∧ account.id = providerId := by
  obtain ⟨front, e, back, account, rfl, hreturns, hid⟩ := h
  refine ⟨account, ?_, hid⟩
  rw [history, List.foldl_append]
  exact held_history (t := (deliver plan e (history plan front t)).after)
    (fun customer hmem => hrecord customer
      (List.mem_append_right _ (List.mem_cons_of_mem _ hmem))) (held_of_returns hreturns)

/-! ## Who is found -/

/-- Whoever is found under an identifier of the provider is linked to it, and
stands under the identifier of a user. -/
theorem of_findLinked {store : CustomerStore} {providerId : String} {c : Customer}
    (h : store.findLinked? providerId = some c) :
    c.providerId = some providerId ∧ ∃ user, store.find? (.ofUser user) = some c := by
  refine ⟨by simpa using List.find?_some h, ?_⟩
  obtain ⟨entry, hentry, rfl⟩ := List.mem_map.mp (List.mem_of_find?_eq_some h)
  exact ⟨⟨entry.1.uuid⟩, OrderedMap.find?_eq_some_iff.mpr hentry⟩

/-- No two users have customers with the same link: it would be one account under the
keys of both. -/
theorem Links.user_eq (h : Links t) {user' : UserId} {c c' : Customer}
    (hc : t.state.customers.find? (.ofUser user) = some c)
    (hc' : t.state.customers.find? (.ofUser user') = some c')
    (hsame : c.providerId = c'.providerId) : user = user' := by
  obtain ⟨account, hheld, hlink⟩ := h.linked hc
  obtain ⟨account', hheld', hlink'⟩ := h.linked hc'
  rw [hlink, hlink'] at hsame
  exact AccountRequest.keyFor_injective (h.apart hheld hheld' (Option.some.inj hsame))

/-- A customer is found under the identifier that it is linked to. -/
theorem Links.findLinked_eq (h : Links t) {c : Customer} {providerId : String}
    (hc : t.state.customers.find? (.ofUser user) = some c)
    (hlink : c.providerId = some providerId) :
    CustomerStore.findLinked? t.state.customers providerId = some c := by
  have hmem : c ∈ t.state.customers.values :=
    List.mem_map.mpr ⟨_, OrderedMap.find?_eq_some_iff.mp hc, rfl⟩
  cases hfound : CustomerStore.findLinked? t.state.customers providerId with
  | none =>
      have hother := List.find?_eq_none.mp hfound c hmem
      simp [hlink] at hother
  | some c' =>
      obtain ⟨hlink', user', hc'⟩ := of_findLinked hfound
      obtain rfl := h.user_eq hc hc' (hlink.trans hlink'.symm)
      exact hc'.symm.trans hc

end Trial

/-- **Who is meant.**  Begin with nothing and let only sign-ups store customers,
while any calls fail.  If the provider makes up a new identifier for each account,
then no two customers have the same link; a user's customer is found under an
identifier just if it is stored and the provider has answered for the user with
this identifier; and a webhook about the identifier touches only subscriptions of
the user who is found, or does nothing at all. -/
theorem linked_of_history (plan : Plan) (requests : List Request) {w : World}
    (hcustomers : w.customers = .empty) (hsubscriptions : w.subscriptions = .empty)
    (haccounts : w.gateway.accounts = .empty) (hrecord : ∀ customer, .record customer ∉ requests)
    (hnew : Trial.NewAccounts plan (.new w) requests) {t : Trial World}
    (hhistory : Trial.history plan requests (.new w) = t) :
    (∀ id id' c c', t.state.customers.find? id = some c → t.state.customers.find? id' = some c' →
      c.providerId = c'.providerId → id = id') ∧
    (∀ user providerId,
      (∃ c, CustomerStore.findLinked? t.state.customers providerId = some c ∧
        t.state.customers.find? (.ofUser user) = some c) ↔
      (t.state.customers.find? (.ofUser user)).isSome ∧
        Trial.Returned plan (.new w) requests user providerId) ∧
    ∀ terms payload webhook providerId, Webhook.parse payload = .ok webhook →
      Webhook.customerReference webhook.data = some providerId →
      (CustomerStore.findLinked? t.state.customers providerId = none →
        ((Request.webhook terms payload).serve plan t).state = t.state) ∧
      ∀ c, CustomerStore.findLinked? t.state.customers providerId = some c →
        ∃ user, t.state.customers.find? (.ofUser user) = some c ∧
          Trial.Touches (.ofUser user) t ((Request.webhook terms payload).serve plan t) := by
  obtain ⟨hlinks, hreturned⟩ := Trial.linked_history hcustomers haccounts requests hrecord hnew
  have hkeyed := (Trial.owned_history (t := .new w) plan requests hsubscriptions).single.keyed
  subst hhistory
  refine ⟨fun id id' c c' hc hc' hsame => ?_, fun user providerId => ⟨?_, ?_⟩, ?_⟩
  · have huser : (⟨id.uuid⟩ : UserId) = ⟨id'.uuid⟩ := hlinks.user_eq hc hc' hsame
    exact congrArg CustomerId.ofUser huser
  · rintro ⟨c, hfound, hc⟩
    obtain ⟨account, hheld, hlink⟩ := hlinks.linked hc
    obtain ⟨v, hkey, hanswered⟩ := hreturned hheld
    obtain rfl := AccountRequest.keyFor_injective hkey
    have hid : account.id = providerId :=
      Option.some.inj (hlink.symm.trans (Trial.of_findLinked hfound).1)
    rw [hc]
    exact ⟨rfl, hid ▸ hanswered⟩
  · rintro ⟨hstored, hanswered⟩
    obtain ⟨c, hc⟩ := Option.isSome_iff_exists.mp hstored
    obtain ⟨account, hheld, hlink⟩ := hlinks.linked hc
    obtain ⟨account', hheld', hid⟩ := hanswered.held hrecord
    cases hheld.symm.trans hheld'
    exact ⟨c, hlinks.findLinked_eq hc (hid ▸ hlink), hc⟩
  · intro terms payload webhook providerId hparse hreference
    have hbody : CustomerStore.ofBody? (Trial.history plan requests (.new w)).state.customers
        webhook.data = CustomerStore.findLinked?
          (Trial.history plan requests (.new w)).state.customers providerId := by
      rw [CustomerStore.ofBody?, hreference]
      rfl
    have hhandled := Request.serve_webhook plan (Trial.history plan requests (.new w)) hparse terms
    rw [Trial.Handled, hbody] at hhandled
    refine ⟨fun hnobody => ?_, fun c hfound => ?_⟩
    · rcases hhandled with hidle | ⟨customer, hfound, -⟩
      · exact hidle.state
      · cases hnobody.symm.trans hfound
    · obtain ⟨-, user, hc⟩ := Trial.of_findLinked hfound
      refine ⟨user, hc, ?_⟩
      rcases hhandled with hidle | ⟨customer, hfound', hworks⟩
      · intro id hchanged
        rw [hidle.state] at hchanged
        exact absurd rfl hchanged
      · cases hfound.symm.trans hfound'
        exact hlinks.keyed hc ▸ hworks.touches hkeyed

namespace Sample

/-- The first customer cannot be stored. -/
def jammed : Plan := failingOnce .insertCustomer

/-- The identifier that the provider makes up first. -/
def link : String := Gateway.accountId (.ofNat 0)

set_option maxRecDepth 4000 in
/-- The provider was asked, and the customer could not be stored. -/
theorem state_jammed :
    let t := (deliver jammed signUp (.new lobby)).after
    (t.state.gateway.calls, t.state.customers.values,
      t.state.gateway.accounts.find? (AccountRequest.keyFor ada.user)) =
      (1, [], some ⟨link, ada.email, ada.displayName⟩) := by
  simp only [deliver, run_signUp jammed fun _ _ => rfl]
  cbv

theorem returned_link :
    Trial.Returned jammed (.new lobby) [.delivery signUp] ada.user link := by
  refine ⟨[], signUp, [], ⟨link, ada.email, ada.displayName⟩, rfl, ?_, rfl⟩
  rcases deliver_gateway jammed signUp (.new lobby) with ⟨hsame, -⟩ | ⟨s, hread, hasked, -⟩
  · have hcalls := (Prod.mk.inj state_jammed).1
    rw [hsame] at hcalls
    cases hcalls
  · cases hread.symm.trans read_signUp
    exact ⟨ada, read_signUp, rfl, hasked, rfl⟩

/-- The sign-up comes again. -/
def retried : List Request := [.delivery signUp, .delivery signUp]

/-- The second time there is an account already. -/
theorem newAccounts_retried : Trial.NewAccounts jammed (.new lobby) retried := by
  intro front e back hsplit user hopens key account hheld
  rcases front with _ | ⟨first, _ | ⟨second, rest⟩⟩
  · cases hheld
  · obtain ⟨rfl, rfl, -⟩ : first = .delivery signUp ∧ e = signUp ∧ back = [] := by
      simpa [retried, eq_comm] using hsplit
    obtain ⟨s, hread, rfl⟩ := hopens.signUp
    cases hread.symm.trans read_signUp
    obtain ⟨opened, hfree, -⟩ := hopens.opened
    cases hfree.symm.trans (Prod.mk.inj (Prod.mk.inj state_jammed).2).2
  · simp [retried] at hsplit

set_option maxRecDepth 4000 in
/-- The second time the customer is stored, with the account of the first time. -/
theorem customers_retried :
    (Trial.history jammed retried (.new lobby)).state.customers.entries =
      [(.ofUser ada.user, customerOf ada ⟨link, ada.email, ada.displayName⟩)] := by
  simp only [retried, Trial.history, List.foldl_cons, List.foldl_nil, Request.serve,
    run_signUp jammed fun _ _ => rfl]
  cbv

/-- A paid invoice of the user who signed up. -/
def paidByAda : String :=
  "\x7b\"id\":\"evt_2\",\"type\":\"invoice.paid\",\"data\":\x7b\"object\":" ++
    "\x7b\"customer\":\"cus_00000000000000000000000000000000\"\x7d\x7d\x7d"

theorem parse_paidByAda : Webhook.parse paidByAda =
    .ok ⟨"evt_2", Routes.invoicePaidType,
      .object [("object", .object [("customer", .string link)])]⟩ := by
  cbv

end Sample

/-- The customer could not be stored at first, but then was: it is found, and a
paid invoice touches only subscriptions of the user. -/
theorem linked_of_history_retried :
    Sample.lobby.customers = .empty ∧ Sample.lobby.subscriptions = .empty ∧
      Sample.lobby.gateway.accounts = .empty ∧
      (∀ customer, .record customer ∉ Sample.retried) ∧
      Trial.NewAccounts Sample.jammed (.new Sample.lobby) Sample.retried ∧
      ∃ t, Trial.history Sample.jammed Sample.retried (.new Sample.lobby) = t ∧
        (∃ c, CustomerStore.findLinked? t.state.customers Sample.link = some c ∧
          t.state.customers.find? (.ofUser Sample.ada.user) = some c) ∧
        Trial.Returned Sample.jammed (.new Sample.lobby) Sample.retried Sample.ada.user
          Sample.link ∧
        Trial.Touches (.ofUser Sample.ada.user) t
          ((Request.webhook default Sample.paidByAda).serve Sample.jammed t) := by
  have hrecord : ∀ customer, .record customer ∉ Sample.retried := by simp [Sample.retried]
  have hcustomers := Sample.customers_retried
  generalize hhistory : Trial.history Sample.jammed Sample.retried (.new Sample.lobby) = t
    at hcustomers
  obtain ⟨-, hfound, hwebhook⟩ := linked_of_history Sample.jammed Sample.retried rfl rfl rfl
    hrecord Sample.newAccounts_retried hhistory
  have hlinked : CustomerStore.findLinked? t.state.customers Sample.link =
      some (customerOf Sample.ada ⟨Sample.link, Sample.ada.email, Sample.ada.displayName⟩) := by
    rw [CustomerStore.findLinked?, OrderedMap.values, hcustomers]
    simp [customerOf]
  obtain ⟨-, htouches⟩ := hwebhook default _ _ Sample.link Sample.parse_paidByAda (by cbv)
  obtain ⟨user, hc, htouched⟩ := htouches _ hlinked
  have hada : user = Sample.ada.user := by
    have hentry := OrderedMap.find?_eq_some_iff.mp hc
    rw [hcustomers, List.mem_singleton] at hentry
    exact CustomerId.ofUser_injective (Prod.mk.inj hentry).1
  subst hada
  obtain ⟨-, hreturned⟩ := (hfound Sample.ada.user Sample.link).mp ⟨_, hlinked, hc⟩
  exact ⟨rfl, rfl, rfl, hrecord, Sample.newAccounts_retried, t, rfl, ⟨_, hlinked, hc⟩, hreturned,
    htouched⟩

/-- The provider has answered for the user, but the customer could not be stored,
and nobody is found. -/
theorem returned_unlinked :
    Sample.lobby.customers = .empty ∧ Sample.lobby.subscriptions = .empty ∧
      Sample.lobby.gateway = .empty ∧
      Trial.NewAccounts Sample.jammed (.new Sample.lobby) [.delivery Sample.signUp] ∧
      Trial.Returned Sample.jammed (.new Sample.lobby) [.delivery Sample.signUp] Sample.ada.user
        Sample.link ∧
      CustomerStore.findLinked? (Trial.history Sample.jammed [.delivery Sample.signUp]
        (.new Sample.lobby)).state.customers Sample.link = none := by
  have hnew : Trial.NewAccounts Sample.jammed (.new Sample.lobby)
      ([.delivery Sample.signUp] ++ [.delivery Sample.signUp]) := Sample.newAccounts_retried
  have hnobody : (deliver Sample.jammed Sample.signUp
      (.new Sample.lobby)).after.state.customers.values = [] :=
    (Prod.mk.inj (Prod.mk.inj Sample.state_jammed).2).1
  refine ⟨rfl, rfl, rfl, hnew.front, Sample.returned_link, ?_⟩
  rw [Trial.history_delivery, CustomerStore.findLinked?, hnobody]
  rfl

end SubscriptionBilling
