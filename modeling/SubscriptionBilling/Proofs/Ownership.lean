import SubscriptionBilling.Proofs.Tending
/-!
# One subscription for each customer

A paid invoice creates a subscription only for a customer who has none, and
nothing moves a subscription from one customer to another.  So no customer ever
has two (`SubscriptionStore.Single`), and each subscription goes back to a
webhook whose customer was stored (`Trial.FoundedIn`); `single_of_history` says so
of every history of requests that begins without subscriptions.

If no identifier is used twice, it says more: no second subscription was ever
saved for a customer, not even for a while.
-/

namespace SubscriptionBilling

namespace SubscriptionStore

/-- Subscriptions stand under their own identifiers, and no customer has two. -/
structure Single (store : SubscriptionStore) : Prop where
  keyed : store.Keyed
  single : ∀ {id id' s s'}, store.find? id = some s → store.find? id' = some s' →
    s.customer = s'.customer → id = id'

variable {store after : SubscriptionStore} {ids : List SubscriptionId} {s : Subscription}

/-- Where nothing is stored, nobody has two subscriptions. -/
theorem single_empty : Single .empty := by
  refine ⟨keyed_empty, ?_⟩
  intro id id' s s' h
  cases h

/-- Subscriptions that are only worked on stay whose they were, and so nobody gets a
second one. -/
theorem Single.tended (h : store.Single) (htended : Tended store after ids) : after.Single := by
  refine ⟨htended.keyed h.keyed, ?_⟩
  intro id id' s s' hfind hfind' howner
  obtain ⟨s₀, hbefore, htitle⟩ := htended.find_before hfind
  obtain ⟨s₀', hbefore', htitle'⟩ := htended.find_before hfind'
  refine h.single hbefore hbefore' ?_
  calc s₀.customer = s.customer := congrArg Prod.snd htitle
    _ = s'.customer := howner
    _ = s₀'.customer := (congrArg Prod.snd htitle').symm

/-- A customer with nothing in the listing owns nothing that is stored, under whatever
identifier. -/
theorem Single.customer_ne (h : store.Single) (hnone : store.ofCustomer s.customer = [])
    {id : SubscriptionId} {s' : Subscription} (hfind : store.find? id = some s') :
    s'.customer ≠ s.customer := by
  intro howner
  have hkeyed := h.keyed id s' hfind
  have hmem : s' ∈ store.ofCustomer s.customer :=
    (mem_ofCustomer_iff h.keyed).mpr ⟨hkeyed.symm ▸ hfind, howner⟩
  rw [hnone] at hmem
  exact absurd hmem List.not_mem_nil

/-- A customer without subscriptions gets one, and so nobody has two. -/
theorem Single.save (h : store.Single) (hnone : store.ofCustomer s.customer = []) :
    (store.save s).Single := by
  refine ⟨h.keyed.set rfl, ?_⟩
  intro id id' s₁ s₂ hfind hfind' howner
  rw [SubscriptionStore.save, OrderedMap.find?_set] at hfind hfind'
  split at hfind <;> split at hfind'
  · rename_i heq heq'
    exact heq.symm.trans heq'
  · cases hfind
    exact absurd howner.symm (h.customer_ne hnone hfind')
  · cases hfind'
    exact absurd howner (h.customer_ne hnone hfind)
  · exact h.single hfind hfind' howner

/-- A listing has one subscription at most. -/
theorem Single.length_ofCustomer_le (h : store.Single) (customer : CustomerId) :
    (store.ofCustomer customer).length ≤ 1 := by
  have hnodup := nodup_ofCustomer h.keyed customer
  have hmem : ∀ s ∈ store.ofCustomer customer, store.find? s.id = some s ∧ s.customer = customer :=
    fun s hs => mem_ofCustomer h.keyed hs
  cases hlisted : store.ofCustomer customer with
  | nil => exact Nat.zero_le 1
  | cons s rest =>
      cases rest with
      | nil => exact Nat.le_refl 1
      | cons s' rest =>
          rw [hlisted] at hnodup hmem
          obtain ⟨hfind, howner⟩ := hmem s (by simp)
          obtain ⟨hfind', howner'⟩ := hmem s' (by simp)
          have hsame : s.id = s'.id := h.single hfind hfind' (howner.trans howner'.symm)
          simp [hsame] at hnodup

end SubscriptionStore

namespace Trial

variable {plan : Plan} {t : Trial World} {requests : List Request}

/-- One of the requests is a webhook that saved a subscription of this title,
when the customer was stored. -/
def FoundedIn (plan : Plan) (t : Trial World) (requests : List Request)
    (title : SubscriptionId × CustomerId) : Prop :=
  ∃ front terms payload back, requests = front ++ .webhook terms payload :: back ∧
    (∃ customer ∈ (history plan front t).state.customers.values, customer.id = title.2) ∧
    ∃ s ∈ ((Request.webhook terms payload).calls plan (history plan front t)).saved,
      s.title = title

/-- What was founded in a run was founded in every longer one. -/
theorem FoundedIn.snoc {title : SubscriptionId × CustomerId}
    (h : FoundedIn plan t requests title) (request : Request) :
    FoundedIn plan t (requests ++ [request]) title := by
  obtain ⟨front, terms, payload, back, rfl, hfounded⟩ := h
  exact ⟨front, terms, payload, back ++ [request], by simp, hfounded⟩

/-- What a request saved is what is new in the journal behind all that was saved before.
-/
theorem saved_history_snoc (plan : Plan) (requests : List Request) (request : Request)
    (t : Trial World) :
    (history plan (requests ++ [request]) t).journal.saved =
      (history plan requests t).journal.saved ++
        (request.calls plan (history plan requests t)).saved := by
  rw [history_snoc, Request.journal_serve, Journal.saved_append]

/-- A request that founds a subscription saves it, and saves nothing else. -/
theorem Founds.saved_calls {request : Request} {customer : CustomerId} {s : Subscription}
    (h : Founds t (request.serve plan t) customer s) : (request.calls plan t).saved = [s] := by
  have hsaved := h.saved
  rw [Request.journal_serve, Journal.saved_append] at hsaved
  exact List.append_cancel_left hsaved

/-! ## What a history keeps -/

/-- What is stored after some requests: one subscription for each customer at
most, and each was founded. -/
structure Owned (plan : Plan) (t : Trial World) (requests : List Request) : Prop where
  single : SubscriptionStore.Single (history plan requests t).state.subscriptions
  founded : ∀ id s, (history plan requests t).state.subscriptions.find? id = some s →
    FoundedIn plan t requests s.title

/-- **One more request.** Whatever is stored was founded in the run, for the customer
who owns it and who was stored at that time; a request adds at most one of that kind and
gives none away. -/
theorem Owned.snoc (h : Owned plan t requests) (request : Request) :
    Owned plan t (requests ++ [request]) := by
  rcases request.serve_cases plan (history plan requests t) with
    hkeeps | ⟨terms, payload, customer, s, rfl, hstored, hfounds⟩
  · obtain ⟨ids, htended⟩ := hkeeps.store
    refine ⟨?_, fun id s hfind => ?_⟩
    · rw [history_snoc]
      exact h.single.tended htended
    · rw [history_snoc] at hfind
      obtain ⟨s₀, hbefore, htitle⟩ := htended.find_before hfind
      exact htitle ▸ (h.founded id s₀ hbefore).snoc request
  · have hnone : SubscriptionStore.ofCustomer (history plan requests t).state.subscriptions
        s.customer = [] := by
      rw [hfounds.customer]
      exact hfounds.first
    refine ⟨?_, fun id s' hfind => ?_⟩
    · rw [history_snoc, hfounds.store]
      exact h.single.save hnone
    · rw [history_snoc, hfounds.store, SubscriptionStore.save, OrderedMap.find?_set] at hfind
      split at hfind
      · cases hfind
        refine ⟨requests, terms, payload, [], rfl, ⟨customer, hstored, hfounds.customer.symm⟩,
          s, ?_, rfl⟩
        rw [hfounds.saved_calls]
        exact List.mem_singleton.mpr rfl
      · exact (h.founded id s' hfind).snoc _

/-- **Any requests.** From an empty store, every subscription was founded by one of the
requests for the customer who owns it. -/
theorem owned_history (plan : Plan) (requests : List Request)
    (hempty : t.state.subscriptions = .empty) : Owned plan t requests := by
  induction requests using List.reverseRecOn with
  | nil =>
      refine ⟨?_, fun id s hfind => ?_⟩
      · show SubscriptionStore.Single t.state.subscriptions
        rw [hempty]
        exact SubscriptionStore.single_empty
      · have hnothing : t.state.subscriptions.find? id = some s := hfind
        rw [hempty] at hnothing
        cases hnothing
  | append_singleton requests request ih => exact ih.snoc request

/-- Everything that was saved is stored, under its title, and was saved for
customers of its own. -/
structure Filed (t : Trial World) : Prop where
  stored : ∀ s ∈ t.journal.saved, ∃ s', t.state.subscriptions.find? s.id = some s' ∧
    s'.title = s.title
  once : (t.journal.saved.map Subscription.customer).Nodup

/-- **One more request**, if no identifier was used twice: what was saved is still
stored, and so nothing more is saved for a customer who was saved for. -/
theorem Filed.serve (h : Filed t) (hsingle : SubscriptionStore.Single t.state.subscriptions)
    (request : Request)
    (hdistinct : ((request.serve plan t).journal.saved.map Subscription.id).Nodup) :
    Filed (request.serve plan t) := by
  rcases request.serve_cases plan t with hkeeps | ⟨terms, payload, customer, s, rfl, -, hfounds⟩
  · obtain ⟨ids, htended⟩ := hkeeps.store
    refine ⟨fun s hs => ?_, hkeeps.saved.symm ▸ h.once⟩
    rw [hkeeps.saved] at hs
    obtain ⟨s', hfind, htitle⟩ := h.stored s hs
    obtain ⟨s'', hfind', htitle'⟩ := htended.find_after hfind
    exact ⟨s'', hfind', htitle'.trans htitle⟩
  · rw [hfounds.saved, List.map_append, List.nodup_append] at hdistinct
    have hnew : ∀ s' ∈ t.journal.saved, s.id ≠ s'.id := fun s' hs' heq =>
      hdistinct.2.2 s'.id (List.mem_map_of_mem hs') s.id (List.mem_singleton.mpr rfl) heq.symm
    have hnone : SubscriptionStore.ofCustomer t.state.subscriptions s.customer = [] := by
      rw [hfounds.customer]
      exact hfounds.first
    refine ⟨fun s' hs' => ?_, ?_⟩
    · rw [hfounds.store, SubscriptionStore.save, OrderedMap.find?_set]
      rw [hfounds.saved] at hs'
      rcases List.mem_append.mp hs' with hold | hlast
      · rw [if_neg (hnew s' hold)]
        exact h.stored s' hold
      · cases List.mem_singleton.mp hlast
        exact ⟨s, if_pos rfl, rfl⟩
    -- Whoever had something saved before still has it, and gets nothing more.
    · rw [hfounds.saved, List.map_append, List.nodup_append]
      refine ⟨h.once, List.nodup_singleton _, fun owner howner other hother heq => ?_⟩
      obtain ⟨s', hs', rfl⟩ := List.mem_map.mp howner
      cases List.mem_singleton.mp hother
      obtain ⟨s'', hfind, htitle⟩ := h.stored s' hs'
      exact hsingle.customer_ne hnone hfind ((congrArg Prod.snd htitle).trans heq)

/-- **Any requests**, if no identifier was used twice: everything that was saved is
found in the store, and no two saves were for one customer. -/
theorem filed_history {w : World} (hempty : w.subscriptions = .empty) (requests : List Request)
    (hdistinct : ((history plan requests (.new w)).journal.saved.map Subscription.id).Nodup) :
    Filed (history plan requests (.new w)) := by
  induction requests using List.reverseRecOn with
  | nil => exact ⟨fun s hs => absurd hs List.not_mem_nil, List.nodup_nil⟩
  | append_singleton requests request ih =>
      have hbefore := hdistinct
      rw [saved_history_snoc, List.map_append, List.nodup_append] at hbefore
      rw [history_snoc] at hdistinct ⊢
      exact (ih hbefore.1).serve (owned_history plan requests hempty).single request hdistinct

end Trial

/-- **One subscription for each customer.**  Begin without subscriptions and serve
any requests while any calls fail.  Then no customer has two subscriptions; each
one that is stored was saved by a webhook whose customer was stored then; and if
no identifier was saved twice, then no customer had a second one saved at all. -/
theorem single_of_history (plan : Plan) (requests : List Request) {w : World}
    (hempty : w.subscriptions = .empty) {t : Trial World}
    (hhistory : Trial.history plan requests (.new w) = t) :
    (∀ customer, (SubscriptionStore.ofCustomer t.state.subscriptions customer).length ≤ 1) ∧
      (∀ s ∈ t.state.subscriptions.values, Trial.FoundedIn plan (.new w) requests s.title) ∧
      ((t.journal.saved.map Subscription.id).Nodup →
        (t.journal.saved.map Subscription.customer).Nodup) := by
  subst hhistory
  have howned := Trial.owned_history (t := .new w) plan requests hempty
  refine ⟨howned.single.length_ofCustomer_le, fun s hs => ?_, fun hdistinct =>
    (Trial.filed_history hempty requests hdistinct).once⟩
  obtain ⟨entry, hentry, rfl⟩ := List.mem_map.mp hs
  exact howned.founded entry.1 entry.2 (OrderedMap.find?_eq_some_iff.mpr hentry)

namespace Sample

/-- Only the first call of an operation is to fail. -/
def failingOnce (operation : Operation) : Plan := fun j c =>
  if c.operation = operation ∧ ∀ entry ∈ j, entry.1.operation ≠ operation then
    some (.database "down")
  else none

/-- The first subscription cannot be saved. -/
def stumbling : Plan := failingOnce .saveSubscription

/-- A customer is saved and pays, and the webhook comes three times. -/
def payments : List Request :=
  [.record customer, .webhook default paid, .webhook default paid, .webhook default paid]

set_option maxRecDepth 20000 in
/-- The first time the UUID is wasted, and the third time there is no need for
one. -/
theorem titles_payments :
    let t := Trial.history stumbling payments (.new start)
    (t.journal.saved.map Subscription.title, t.state.subscriptions.values.map Subscription.title) =
      ([(⟨.ofNat 1⟩, customer.id)], [(⟨.ofNat 1⟩, customer.id)]) := by
  simp only [Trial.history, payments, List.foldl_cons, List.foldl_nil, serve_paid]
  cbv

end Sample

/-- The subscription could not be saved at first, and there is just one in the
end. -/
theorem single_of_history_refused :
    ∃ t, Trial.history Sample.stumbling Sample.payments (.new Sample.start) = t ∧
      Sample.start.subscriptions = .empty ∧
      t.state.subscriptions.values.map Subscription.title = [(⟨.ofNat 1⟩, Sample.customer.id)] ∧
      (t.journal.saved.map Subscription.id).Nodup ∧
      (∀ customer, (SubscriptionStore.ofCustomer t.state.subscriptions customer).length ≤ 1) ∧
      (∀ s ∈ t.state.subscriptions.values,
        Trial.FoundedIn Sample.stumbling (.new Sample.start) Sample.payments s.title) ∧
      (t.journal.saved.map Subscription.customer).Nodup := by
  obtain ⟨hsaved, hstored⟩ := Prod.mk.inj Sample.titles_payments
  generalize hhistory : Trial.history Sample.stumbling Sample.payments (.new Sample.start) = t
    at hsaved hstored
  have hdistinct : (t.journal.saved.map Subscription.id).Nodup := by
    have hids : t.journal.saved.map Subscription.id =
        (t.journal.saved.map Subscription.title).map Prod.fst := by
      rw [List.map_map]
      rfl
    rw [hids, hsaved]
    exact List.nodup_singleton _
  obtain ⟨hsingle, hfounded, honce⟩ := single_of_history _ _ rfl hhistory
  exact ⟨t, rfl, rfl, hstored, hdistinct, hsingle, hfounded, honce hdistinct⟩

end SubscriptionBilling
