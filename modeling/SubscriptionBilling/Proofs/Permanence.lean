import SubscriptionBilling.Proofs.Payment
import SubscriptionBilling.Proofs.SignUpDelivery
import SubscriptionBilling.Proofs.Tending
import SubscriptionBilling.Service.Listing
/-!
# What lasts

Webhooks, commands, sign-ups and listings come in any order, and any call of
theirs may fail.  Whatever they do, what was stored is there to stay: a record of
a customer is never touched again, and a subscription keeps its identifier, its
customer and its plan.  `World.Outlasts` is what holds from any moment to any
later one.

From one errand to the next there is more to say (`Errand.Preserves`): a status
changes only where the life cycle allows, the end of a paid period only when the
customer's own invoice was paid, and a listing changes nothing at all.

`preserves_of_history` says so of every history that takes no UUID twice.  It
goes by what one errand does to a store (`SubscriptionStore.Outlives`,
`Errand.outlives_serve`), which comes down to what is done alike to each
subscription of a customer (`Subscription.Settles`).
-/

namespace SubscriptionBilling

/-! ## One subscription -/

namespace Subscription

/-- What an errand may make of a subscription. -/
structure Advances (s s' : Subscription) : Prop where
  id : s'.id = s.id
  customer : s'.customer = s.customer
  plan : s'.plan = s.plan
  status : s.status.canBecome s'.status = true

/-- A subscription that is left alone has advanced by nothing. -/
theorem advances_refl (s : Subscription) : s.Advances s :=
  ⟨rfl, rfl, rfl, by cases s.status <;> rfl⟩

/-- What moves along the table of the life cycle advances. -/
theorem Moves.advances {s s' : Subscription} {tr : Transition} (h : s.Moves tr s') :
    s.Advances s' :=
  ⟨h.id, h.customer, h.plan, h.legal⟩

/-- A subscription comes to a status, and the end of its paid period stays unless
it is renewed. -/
structure Settles (target : Status) (renewed : Prop) (s s' : Subscription) : Prop where
  id : s'.id = s.id
  customer : s'.customer = s.customer
  plan : s'.plan = s.plan
  status : s'.status = target
  period : ¬ renewed → s'.expiresAt = s.expiresAt

variable {target : Status} {renewed : Prop} {s s' s'' : Subscription}

/-- To settle twice in one status comes to the same as to settle once: the subscription
stays whose it was and on its plan, and its period is kept unless renewals may move it.
-/
theorem settles_trans (s s' s'' : Subscription) (h : Settles target renewed s s')
    (h' : Settles target renewed s' s'') : Settles target renewed s s'' :=
  ⟨h'.id.trans h.id, h'.customer.trans h.customer, h'.plan.trans h.plan, h'.status,
    fun hkept => (h'.period hkept).trans (h.period hkept)⟩

/-- What settles in a status advances to it, if every status can become that one. -/
theorem Settles.advances (h : Settles target renewed s s')
    (htarget : ∀ source : Status, source.canBecome target = true) : s.Advances s' :=
  ⟨h.id, h.customer, h.plan, h.status ▸ htarget s.status⟩

/-- A cancellation settles a subscription as cancelled and renews nothing. -/
theorem settles_cancel (s : Subscription) (now : Instant) :
    Settles .cancelled False s (s.cancel now).2 := by
  have hmoves := s.cancel_moves now
  have hstatus : s.status.cancel = .cancelled := by cases s.status <;> rfl
  exact ⟨hmoves.id, hmoves.customer, hmoves.plan,
    (s.replaceStatus_status _ now).trans hstatus, fun _ => s.replaceStatus_expiresAt _ now⟩

/-- A renewal settles a subscription as active, with a new end of its period. -/
theorem settles_renew (s : Subscription) (periodEnd now : Instant) :
    Settles .active True s (s.renew periodEnd now).2 := by
  have hpaid := s.renew_paidUntil periodEnd now
  exact ⟨hpaid.id, hpaid.customer, hpaid.plan, hpaid.status, fun h => absurd trivial h⟩

/-- A command that is carried out leaves the end of the paid period alone. -/
theorem perform_expiresAt {action : Action} {now : Instant} {tr : Transition}
    (h : s.perform action now = .ok (tr, s')) : s'.expiresAt = s.expiresAt := by
  unfold perform at h
  cases hnext : s.status.apply action with
  | error e => simp [hnext, Except.map] at h
  | ok next =>
      rw [hnext] at h
      have hreplaced : s.replaceStatus next now = (tr, s') := Except.ok.inj h
      have hkept := s.replaceStatus_expiresAt next now
      rwa [hreplaced] at hkept

end Subscription

namespace Update

/-- Whatever an update makes of a subscription is related to it. -/
def Leads (update : Update) (related : Subscription → Subscription → Prop) : Prop :=
  ∀ now s t s', update now s = .ok (t, s') → related s s'

/-- A renewal is one way to settle as active. -/
theorem renewal_leads (periodEnd : Instant) :
    (renewal periodEnd).Leads (Subscription.Settles .active True) := by
  intro now s t s' h
  have hrenewed : s.renew periodEnd now = (t, s') := Except.ok.inj h
  have hsettles := s.settles_renew periodEnd now
  rwa [hrenewed] at hsettles

/-- A cancellation is one way to settle as cancelled. -/
theorem cancellation_leads : cancellation.Leads (Subscription.Settles .cancelled False) := by
  intro now s t s' h
  have hcancelled : s.cancel now = (t, s') := Except.ok.inj h
  have hsettles := s.settles_cancel now
  rwa [hcancelled] at hsettles

/-- What a command may make of a subscription: it advances along the table, and its paid
period is kept. -/
theorem command_leads (action : Action) :
    (command action).Leads fun s s' => s.Advances s' ∧ s'.expiresAt = s.expiresAt := by
  intro now s t s' h
  have hmoves := command_sound action now s t s' h
  rw [command] at h
  cases hperform : s.perform action now with
  | error e =>
      rw [hperform] at h
      cases h
  | ok r =>
      rw [hperform] at h
      cases h
      exact ⟨hmoves.advances, Subscription.perform_expiresAt hperform⟩

end Update

/-! ## Stores that are worked on -/

namespace SubscriptionStore

/-- Every subscription stays where it is; those that are listed may have become
others that are related to them. -/
structure Worked (related : Subscription → Subscription → Prop) (ids : List SubscriptionId)
    (before after : SubscriptionStore) : Prop where
  keys : after.keys = before.keys
  found : ∀ {id s}, before.find? id = some s → ∃ s', after.find? id = some s' ∧
    (s' = s ∨ id ∈ ids ∧ related s s')

variable {related : Subscription → Subscription → Prop} {ids : List SubscriptionId}
  {before mid after : SubscriptionStore}

theorem worked_refl (store : SubscriptionStore) : Worked related ids store store :=
  ⟨rfl, fun {_ s} hfind => ⟨s, hfind, .inl rfl⟩⟩

/-- Work on some subscriptions and then on some again is work on them, if the relation
goes through. -/
theorem Worked.trans (htrans : ∀ s s' s'', related s s' → related s' s'' → related s s'')
    (h : Worked related ids before mid) (h' : Worked related ids mid after) :
    Worked related ids before after := by
  refine ⟨h'.keys.trans h.keys, fun {id s} hfind => ?_⟩
  obtain ⟨s', hfind', hfirst⟩ := h.found hfind
  obtain ⟨s'', hfind'', hsecond⟩ := h'.found hfind'
  refine ⟨s'', hfind'', ?_⟩
  rcases hfirst with rfl | ⟨hid, hrelated⟩
  · exact hsecond
  · rcases hsecond with rfl | ⟨-, hrelated'⟩
    · exact .inr ⟨hid, hrelated⟩
    · exact .inr ⟨hid, htrans s s' s'' hrelated hrelated'⟩

/-- To write over a listed subscription is work on it, and on no other. -/
theorem worked_set {store : SubscriptionStore} {id : SubscriptionId} {s s' : Subscription}
    (hid : id ∈ ids) (hfind : store.find? id = some s) (hrelated : related s s') :
    Worked related ids store (OrderedMap.set store id s') := by
  refine ⟨OrderedMap.keys_set_of_find? hfind s', fun {other s₁} hother => ?_⟩
  rw [OrderedMap.find?_set]
  by_cases hsame : id = other
  · subst hsame
    cases hfind.symm.trans hother
    exact ⟨s', if_pos rfl, .inr ⟨hid, hrelated⟩⟩
  · exact ⟨s₁, (if_neg hsame).trans hother, .inl rfl⟩

/-- The store has outlived an errand, in which the customers with `paid` paid an
invoice: the order goes on, every subscription is still there and has become
one that it may become, and each stands under its own identifier. -/
structure Outlives (paid : CustomerId → Prop) (before after : SubscriptionStore) : Prop where
  order : before.keys <+: after.keys
  kept : ∀ {id s}, before.find? id = some s → ∃ s', after.find? id = some s' ∧ s.Advances s' ∧
    (s'.expiresAt ≠ s.expiresAt → paid s.customer)
  keyed : after.Keyed

variable {paid : CustomerId → Prop}

/-- In a keyed store everything outlives nothing happening. -/
theorem outlives_refl (h : before.Keyed) : Outlives paid before before :=
  ⟨List.prefix_refl _, fun {_ s} hfind => ⟨s, hfind, s.advances_refl, fun hne => absurd rfl hne⟩, h⟩

/-- A store outlives work on its subscriptions, if the work is legal. -/
theorem Worked.outlives (h : Worked related ids before after) (hkeyed : before.Keyed)
    (hadvances : ∀ {s s'}, related s s' → s.Advances s')
    (hpaid : ∀ {id s s'}, before.find? id = some s → id ∈ ids → related s s' →
      s'.expiresAt ≠ s.expiresAt → paid s.customer) : Outlives paid before after := by
  refine ⟨h.keys ▸ List.prefix_refl _, fun {id s} hfind => ?_, ?_⟩
  · obtain ⟨s', hfind', rfl | ⟨hid, hrelated⟩⟩ := h.found hfind
    · exact ⟨s', hfind', s'.advances_refl, fun hne => absurd rfl hne⟩
    · exact ⟨s', hfind', hadvances hrelated, hpaid hfind hid hrelated⟩
  · intro id s' hfind'
    have hkey : id ∈ before.keys := h.keys ▸ OrderedMap.mem_keys_iff.mpr ⟨s', hfind'⟩
    obtain ⟨s, hfind⟩ := OrderedMap.mem_keys_iff.mp hkey
    obtain ⟨s₁, hfind₁, hrelated⟩ := h.found hfind
    cases hfind'.symm.trans hfind₁
    rcases hrelated with rfl | ⟨-, hrelated⟩
    · exact hkeyed id s' hfind
    · exact (hadvances hrelated).id.trans (hkeyed id s hfind)

/-- A store outlives the saving of a new subscription: what was there is there still, in
front of it. -/
theorem outlives_save (hkeyed : before.Keyed) {s : Subscription} (hnew : s.id ∉ before.keys) :
    Outlives paid before (before.save s) := by
  refine ⟨?_, fun {id s₁} hfind => ?_, hkeyed.set rfl⟩
  · rw [SubscriptionStore.save, OrderedMap.keys_set, if_neg hnew]
    exact List.prefix_append _ _
  · have hother : s.id ≠ id := by
      rintro rfl
      exact hnew (OrderedMap.mem_keys_iff.mpr ⟨s₁, hfind⟩)
    refine ⟨s₁, ?_, s₁.advances_refl, fun hne => absurd rfl hne⟩
    rw [SubscriptionStore.save, OrderedMap.find?_set, if_neg hother]
    exact hfind

/-- A listing goes by the titles of what is stored, in the order of the keys, and so two
stores with the same titles list alike. -/
theorem map_id_ofCustomer (store : SubscriptionStore) (customer : CustomerId) :
    (store.ofCustomer customer).map Subscription.id =
      ((store.keys.filterMap fun id => (store.find? id).map Subscription.title).filter
        fun title => title.2 == customer).map Prod.fst := by
  rw [ofCustomer, OrderedMap.values_eq_filterMap, ← List.map_filterMap, List.filter_map,
    List.map_map]
  rfl

/-- What was stored shows the same titles afterwards, if each is still there under
its title. -/
theorem filterMap_title (h : ∀ {id s}, before.find? id = some s →
      ∃ s', after.find? id = some s' ∧ s'.title = s.title) :
    before.keys.filterMap (fun id => (after.find? id).map Subscription.title) =
      before.keys.filterMap fun id => (before.find? id).map Subscription.title := by
  refine List.filterMap_congr fun id hid => ?_
  obtain ⟨s, hfind⟩ := OrderedMap.mem_keys_iff.mp hid
  obtain ⟨s', hfind', htitle⟩ := h hfind
  rw [hfind, hfind', Option.map_some, Option.map_some, htitle]

/-- If the order goes on and titles stay, the listing of a customer goes on. -/
theorem Outlives.listing (h : Outlives paid before after) (customer : CustomerId) :
    (before.ofCustomer customer).map Subscription.id <+:
      (after.ofCustomer customer).map Subscription.id := by
  obtain ⟨new, hkeys⟩ := h.order
  have htitles := filterMap_title fun hfind => by
    obtain ⟨s', hfind', hadvances, -⟩ := h.kept hfind
    exact ⟨s', hfind', Prod.ext hadvances.id hadvances.customer⟩
  rw [map_id_ofCustomer before, map_id_ofCustomer after, ← hkeys, List.filterMap_append,
    List.filter_append, List.map_append, htitles]
  exact List.prefix_append _ _

/-- Work that leaves the titles alone leaves the listing of a customer as it is. -/
theorem Worked.listing (h : Worked related ids before after)
    (htitle : ∀ {s s'}, related s s' → s'.title = s.title) (customer : CustomerId) :
    (after.ofCustomer customer).map Subscription.id =
      (before.ofCustomer customer).map Subscription.id := by
  have htitles := filterMap_title fun hfind => by
    obtain ⟨s', hfind', rfl | ⟨-, hrelated⟩⟩ := h.found hfind
    · exact ⟨s', hfind', rfl⟩
    · exact ⟨s', hfind', htitle hrelated⟩
  rw [map_id_ofCustomer after, map_id_ofCustomer before, h.keys, htitles]

end SubscriptionStore

/-! ## What a webhook does -/

namespace Trial

variable {plan : Plan} {t t' : Trial World}

/-- The first subscription was saved, and its UUID is taken. -/
structure Opened (t t' : Trial World) (s : Subscription) : Prop where
  id : s.id = ⟨t.state.nextUuid⟩
  store : t'.state.subscriptions = SubscriptionStore.save t.state.subscriptions s
  drawn : t'.state.supply.drawn = t.state.supply.drawn + 1

/-- A turn works on the subscription that it is for, and on no other. -/
theorem worked_turn (plan : Plan) {related : Subscription → Subscription → Prop} {update : Update}
    (hleads : update.Leads related) {ids : List SubscriptionId} {id : SubscriptionId}
    (hid : id ∈ ids) (t : Trial World) :
    SubscriptionStore.Worked related ids t.state.subscriptions
      (turn plan update id t).2.state.subscriptions := by
  have hturn := turn_cases plan update id t
  generalize turn plan update id t = x at hturn ⊢
  obtain ⟨result, t'⟩ := x
  dsimp only at hturn ⊢
  cases hturn with
  | blocked => exact SubscriptionStore.worked_refl _
  | missing => exact SubscriptionStore.worked_refl _
  | refused => exact SubscriptionStore.worked_refl _
  | silent s s' tr hcall hfind hupdate =>
      exact SubscriptionStore.worked_set hid hfind (hleads _ _ _ _ hupdate)
  | answered s s' tr answer hcall hfind hupdate =>
      exact SubscriptionStore.worked_set hid hfind (hleads _ _ _ _ hupdate)

/-- **A pass** works on those that are listed, and leaves every other subscription
alone. -/
theorem worked_pass (plan : Plan) {related : Subscription → Subscription → Prop}
    {update : Update} (hleads : update.Leads related)
    (htrans : ∀ s s' s'', related s s' → related s' s'' → related s s'')
    (ids : List SubscriptionId) (t : Trial World) :
    SubscriptionStore.Worked related ids t.state.subscriptions
      (pass plan update ids t).2.state.subscriptions :=
  related_pass
    (fun t t' => SubscriptionStore.Worked related ids t.state.subscriptions t'.state.subscriptions)
    (fun _ => SubscriptionStore.worked_refl _) (fun h h' => h.trans htrans h')
    (fun _ hid t => worked_turn plan hleads hid t) t

/-- A paid invoice of a stored customer works on the subscriptions that the customer
has, or opens the first one. -/
theorem worked_or_opened_renewal (plan : Plan) (terms : Terms) (data : Json)
    (customer : Customer) (period : Except Failure Instant) (t : Trial World) :
    SubscriptionStore.Worked (Subscription.Settles .active True) (t.listed customer.id)
        t.state.subscriptions
        (renewal plan terms data customer period t).2.state.subscriptions ∨
      ∃ s, Opened t (renewal plan terms data customer period t).2 s := by
  unfold renewal
  cases period with
  | error failure => exact .inl (SubscriptionStore.worked_refl _)
  | ok periodEnd =>
    cases plan t.journal (.listSubscriptions customer.id) with
    | some failure => exact .inl (SubscriptionStore.worked_refl _)
    | none =>
      rw [listed]
      dsimp only
      cases SubscriptionStore.ofCustomer t.state.subscriptions customer.id with
      | nil =>
          dsimp only
          rw [save]
          cases plan (t.listing customer).drawn.ticked.journal (.saveSubscription _) with
          | some failure => exact .inl (SubscriptionStore.worked_refl _)
          | none => exact .inr ⟨_, rfl, rfl, rfl⟩
      | cons s rest =>
          exact .inl (worked_pass plan (Update.renewal_leads periodEnd) Subscription.settles_trans _
            (t.listing customer))

/-- A subscription of a stored customer ended at the provider. -/
theorem worked_cancellation (plan : Plan) (customer : Customer) (t : Trial World) :
    SubscriptionStore.Worked (Subscription.Settles .cancelled False) (t.listed customer.id)
      t.state.subscriptions (cancellation plan customer t).2.state.subscriptions := by
  unfold cancellation
  cases plan t.journal (.listSubscriptions customer.id) with
  | some failure => exact SubscriptionStore.worked_refl _
  | none =>
      exact worked_pass plan Update.cancellation_leads Subscription.settles_trans _
        (t.listing customer)

end Trial

/-! ## Errands -/

/-- What the services are asked for from outside. -/
inductive Errand where
  | webhook (terms : Terms) (payload : String)
  | command (id : SubscriptionId) (action : Action)
  | delivery (e : Envelope)
  | query (customer : CustomerId)

namespace Errand

open Trial

/-- The state and the journal after an errand, whatever came of it. -/
def serve (plan : Plan) (t : Trial World) : Errand → Trial World
  | webhook terms payload => (Request.webhook terms payload).serve plan t
  | command id action => (Request.command id action).serve plan t
  | delivery e => (Request.delivery e).serve plan t
  | query customer =>
    (run plan (Listing.subscriptions customer : Service Empty (List Listing.View)) t).2

/-- The errand is a webhook about a paid invoice of the customer. -/
def Pays (e : Errand) (w : World) (customer : CustomerId) : Prop :=
  ∃ terms payload webhook payer, e = .webhook terms payload ∧
    Webhook.parse payload = .ok webhook ∧ webhook.type = Routes.invoicePaidType ∧
    CustomerStore.ofBody? w.customers webhook.data = some payer ∧ payer.id = customer

variable (plan : Plan) {t : Trial World}

/-- Listing the subscriptions of a customer takes two calls at most, which hand over
and save nothing. -/
theorem serve_query (customer : CustomerId) (t : Trial World) :
    ∃ new : Journal, (new.handed = [] ∧ new.saved = []) ∧
      (query customer).serve plan t = ⟨t.state, t.journal ++ new⟩ := by
  have hexists := run_customerExists (H := Empty) plan t customer
  rw [serve, Listing.subscriptions]
  cases hcall : plan t.journal (.findCustomer customer) with
  | some failure =>
      rw [hcall] at hexists
      rw [run_bind_error hexists]
      exact ⟨_, ⟨rfl, rfl⟩, rfl⟩
  | none =>
      rw [hcall] at hexists
      rw [run_bind_ok hexists]
      cases (t.state.customers.find? customer).isSome with
      | false => exact ⟨_, ⟨rfl, rfl⟩, rfl⟩
      | true =>
          have hlisting :=
            run_ofCustomer (H := Empty) plan (t.noted (.findCustomer customer) none) customer
          generalize plan _ (.listSubscriptions customer) = answer at hlisting
          have htwo : (t.noted (.findCustomer customer) none).noted
              (.listSubscriptions customer) answer =
              ⟨t.state, t.journal ++
                [(.findCustomer customer, none), (.listSubscriptions customer, answer)]⟩ :=
            congrArg (Trial.mk t.state) (List.append_assoc _ _ _)
          rw [htwo] at hlisting
          rw [if_pos rfl]
          cases answer with
          | some failure =>
              rw [run_bind_error hlisting]
              exact ⟨_, ⟨rfl, rfl⟩, rfl⟩
          | none =>
              rw [run_bind_ok hlisting]
              exact ⟨_, ⟨rfl, rfl⟩, rfl⟩

/-! ## One errand -/

section Webhook

variable {H : Type} {plan} {data : Json}

/-- What is listed for a customer in a keyed store is the customer's own. -/
theorem owner_of_listed (hkeyed : SubscriptionStore.Keyed t.state.subscriptions)
    {customer : CustomerId} {id : SubscriptionId} {s : Subscription}
    (hid : id ∈ t.listed customer) (hfind : t.state.subscriptions.find? id = some s) :
    s.customer = customer := by
  obtain ⟨s', hfind', howner⟩ := (SubscriptionStore.mem_listing_iff hkeyed).mp hid
  cases hfind.symm.trans hfind'
  exact howner

/-- The store outlives work for the customer of a body, if it outlives the work
that follows once the customer is known. -/
theorem outlives_forCustomer {type : String} {work : Customer → Service H Unit}
    (hkeyed : SubscriptionStore.Keyed t.state.subscriptions) {paid : CustomerId → Prop}
    (hwork : ∀ customer journal, CustomerStore.ofBody? t.state.customers data = some customer →
      run plan (Routes.forCustomer data type work) t = run plan (work customer) ⟨t.state, journal⟩ →
      SubscriptionStore.Outlives paid t.state.subscriptions
        (run plan (work customer) ⟨t.state, journal⟩).2.state.subscriptions) :
    SubscriptionStore.Outlives paid t.state.subscriptions
      (run plan (Routes.forCustomer data type work) t).2.state.subscriptions := by
  rcases forCustomer_cases plan data type work t with
    ⟨providerId, failure, -, hrun⟩ | ⟨new, -, -, hrun⟩
  · rw [hrun]
    exact SubscriptionStore.outlives_refl hkeyed
  · cases hknown : CustomerStore.ofBody? t.state.customers data with
    | none =>
        rw [hrun, hknown]
        exact SubscriptionStore.outlives_refl hkeyed
    | some customer =>
        rw [hknown] at hrun
        rw [hrun]
        exact hwork customer _ hknown hrun

/-- A paid invoice loses no subscription: it works on those of the customer, or adds a
first one under an identifier that was free. -/
theorem outlives_renew (terms : Terms) (hkeyed : SubscriptionStore.Keyed t.state.subscriptions)
    {paid : CustomerId → Prop}
    (hpaid : ∀ payer, CustomerStore.ofBody? t.state.customers data = some payer → paid payer.id)
    (hfresh : t.state.supply.drawn <
        (run plan (Routes.renew terms data : Service H Unit) t).2.state.supply.drawn →
      ⟨t.state.nextUuid⟩ ∉ OrderedMap.keys t.state.subscriptions) :
    SubscriptionStore.Outlives paid t.state.subscriptions
      (run plan (Routes.renew terms data : Service H Unit) t).2.state.subscriptions := by
  rw [Routes.renew] at hfresh ⊢
  refine outlives_forCustomer hkeyed fun customer journal hknown hrun => ?_
  rw [hrun] at hfresh
  rw [run_renewAll] at hfresh ⊢
  rcases worked_or_opened_renewal plan terms data customer (terms.periodEnd t.state.clock)
    (Trial.ticked ⟨t.state, journal⟩) with hworked | ⟨s, hopened⟩
  · refine hworked.outlives hkeyed (fun hsettles => hsettles.advances ?_) ?_
    · intro source
      cases source <;> rfl
    · intro id s s' hfind hid hsettles hne
      have howner : s.customer = customer.id := owner_of_listed hkeyed hid hfind
      exact howner ▸ hpaid customer hknown
  · have hdrawn := hopened.drawn
    have hnew := hfresh (Nat.lt_of_lt_of_eq (Nat.lt_succ_self _) hdrawn.symm)
    have hid : s.id = ⟨t.state.nextUuid⟩ := hopened.id
    rw [hopened.store]
    exact SubscriptionStore.outlives_save hkeyed (hid ▸ hnew)

/-- The end of a subscription at the provider loses none: it works on those of the
customer. -/
theorem outlives_cancel (hkeyed : SubscriptionStore.Keyed t.state.subscriptions)
    {paid : CustomerId → Prop} :
    SubscriptionStore.Outlives paid t.state.subscriptions
      (run plan (Routes.cancel data : Service H Unit) t).2.state.subscriptions := by
  rw [Routes.cancel]
  refine outlives_forCustomer hkeyed fun customer journal _ _ => ?_
  rw [run_cancelAll]
  have hworked := worked_cancellation plan customer ⟨t.state, journal⟩
  refine hworked.outlives hkeyed (fun hsettles => hsettles.advances ?_) ?_
  · intro source
    cases source <;> rfl
  · intro id s s' hfind hid hsettles hne
    exact absurd (hsettles.period not_false) hne

end Webhook

/-- A sign-up writes no subscription, whatever becomes of it. -/
theorem subscriptions_delivery (plan : Plan) (e : Envelope) (t : Trial World) :
    ((delivery e).serve plan t).state.subscriptions = t.state.subscriptions := by
  have houtcome := Provisioning.handle_cases (H := Empty) plan e t
  rw [serve, Request.serve]
  generalize run plan (Provisioning.handle e : Service Empty Unit) t = r at houtcome ⊢
  obtain ⟨result, t'⟩ := r
  dsimp only at houtcome ⊢
  cases houtcome <;> rfl

/-- A sign-up adds a customer behind the others at most, and writes over none. -/
theorem customers_delivery (plan : Plan) (e : Envelope) (t : Trial World) :
    t.state.customers.entries <+: ((delivery e).serve plan t).state.customers.entries := by
  have hafter : (delivery e).serve plan t = (Provisioning.deliver plan e t).after := rfl
  rw [hafter]
  rcases Provisioning.deliver_cases plan e t with hidle | ⟨s, account, e', answer, hstores⟩
  · have hsame : (Provisioning.deliver plan e t).after.state.customers = t.state.customers :=
      hidle.customers
    rw [hsame]
  · have hnew : t.state.customers.find? (Provisioning.customerOf s account).id = none :=
      hstores.unknown
    have hinserted : CustomerStore.insert t.state.customers (Provisioning.customerOf s account) =
        .ok (Provisioning.deliver plan e t).after.state.customers := hstores.inserted
    rw [CustomerStore.insert, hnew] at hinserted
    have hfree : (Provisioning.customerOf s account).id ∉ t.state.customers.keys := by
      rw [OrderedMap.mem_keys_iff, hnew]
      simp
    rw [← Except.ok.inj hinserted, CustomerStore.save, OrderedMap.entries_set_of_not_mem hfree]
    exact List.prefix_append _ _

/-- Only sign-ups change the customers: webhooks, commands and listings look them up. -/
theorem customers_aside (plan : Plan) {e : Errand} (h : ∀ envelope, e ≠ .delivery envelope)
    (t : Trial World) : (e.serve plan t).state.customers = t.state.customers := by
  cases e with
  | delivery envelope => exact absurd rfl (h envelope)
  | webhook terms payload =>
      exact (Request.serve_aside plan t (.webhook terms payload)
        (fun _ h => Request.noConfusion h) fun _ h => Request.noConfusion h).1
  | command id action =>
      exact (Request.serve_aside plan t (.command id action)
        (fun _ h => Request.noConfusion h) fun _ h => Request.noConfusion h).1
  | query customer =>
      obtain ⟨new, -, hserve⟩ := serve_query plan customer t
      rw [hserve]

/-- Every record of a customer stays where it is and what it is, whatever the errand. -/
theorem customers_serve (plan : Plan) (e : Errand) (t : Trial World) :
    t.state.customers.entries <+: (e.serve plan t).state.customers.entries := by
  by_cases hdelivery : ∃ envelope, e = .delivery envelope
  · obtain ⟨envelope, rfl⟩ := hdelivery
    exact customers_delivery plan envelope t
  · rw [customers_aside plan (not_exists.mp hdelivery) t]

/-- **One errand.**  The store outlives it, unless it takes a UUID that is used
already. -/
theorem outlives_serve (plan : Plan) (e : Errand)
    (hkeyed : SubscriptionStore.Keyed t.state.subscriptions)
    (hfresh : t.state.supply.drawn < (e.serve plan t).state.supply.drawn →
      ⟨t.state.nextUuid⟩ ∉ OrderedMap.keys t.state.subscriptions) :
    SubscriptionStore.Outlives (e.Pays t.state) t.state.subscriptions
      (e.serve plan t).state.subscriptions := by
  cases e with
  | webhook terms payload =>
      cases hparse : Webhook.parse payload with
      | error error =>
          have hsame : (webhook terms payload).serve plan t = t :=
            Request.serve_unreadable plan t hparse terms
          rw [hsame]
          exact SubscriptionStore.outlives_refl hkeyed
      | ok webhook =>
          have hserve : (Errand.webhook terms payload).serve plan t =
              (run plan
                (Routes.service terms webhook.type webhook.data : Service Empty Unit) t).2 :=
            congrArg Prod.snd (run_receive plan t hparse terms)
          rw [hserve] at hfresh ⊢
          unfold Routes.service at hfresh ⊢
          by_cases hpaid : webhook.type = Routes.invoicePaidType
          · rw [if_pos hpaid] at hfresh ⊢
            refine outlives_renew terms hkeyed (fun payer hpayer => ?_) hfresh
            exact ⟨terms, payload, webhook, payer, rfl, hparse, hpaid, hpayer, rfl⟩
          · rw [if_neg hpaid] at hfresh ⊢
            by_cases hdeleted : webhook.type = Routes.subscriptionDeletedType
            · rw [if_pos hdeleted]
              exact outlives_cancel hkeyed
            · rw [if_neg hdeleted]
              exact SubscriptionStore.outlives_refl hkeyed
  | command id action =>
      have hserve : (command id action).serve plan t = (turn plan (.command action) id t).2 :=
        congrArg Prod.snd (run_perform plan id action t)
      rw [hserve]
      have hworked := worked_turn plan (Update.command_leads action) (List.mem_singleton_self id) t
      exact hworked.outlives hkeyed (fun h => h.1) fun _ _ h hne => absurd h.2 hne
  | delivery e =>
      have hsame : ((delivery e).serve plan t).state.subscriptions = t.state.subscriptions :=
        subscriptions_delivery plan e t
      rw [hsame]
      exact SubscriptionStore.outlives_refl hkeyed
  | query customer =>
      obtain ⟨new, -, hserve⟩ := serve_query plan customer t
      rw [hserve]
      exact SubscriptionStore.outlives_refl hkeyed

end Errand

/-! ## From any moment to a later one -/

/-- Everything that was stored is still there: the listings only go on, each
subscription is that of the same customer and on the same plan, and every record
of a customer is as it was. -/
structure World.Outlasts (w w' : World) : Prop where
  order : OrderedMap.keys w.subscriptions <+: OrderedMap.keys w'.subscriptions
  listing : ∀ customer,
    (SubscriptionStore.ofCustomer w.subscriptions customer).map Subscription.id <+:
      (SubscriptionStore.ofCustomer w'.subscriptions customer).map Subscription.id
  kept : ∀ id s, w.subscriptions.find? id = some s → ∃ s', w'.subscriptions.find? id = some s' ∧
    s'.id = s.id ∧ s'.customer = s.customer ∧ s'.plan = s.plan
  customers : w.customers.entries <+: w'.customers.entries

theorem World.outlasts_refl (w : World) : w.Outlasts w :=
  ⟨List.prefix_refl _, fun _ => List.prefix_refl _, fun _ s hfind => ⟨s, hfind, rfl, rfl, rfl⟩,
    List.prefix_refl _⟩

/-- What outlasts two stretches of a run outlasts both together. -/
theorem World.Outlasts.trans {w w' w'' : World} (h : w.Outlasts w') (h' : w'.Outlasts w'') :
    w.Outlasts w'' := by
  refine ⟨h.order.trans h'.order, fun customer => (h.listing customer).trans (h'.listing customer),
    ?_, h.customers.trans h'.customers⟩
  intro id s hfind
  obtain ⟨s', hfind', hid, hcustomer, hplan⟩ := h.kept id s hfind
  obtain ⟨s'', hfind'', hid', hcustomer', hplan'⟩ := h'.kept id s' hfind'
  exact ⟨s'', hfind'', hid'.trans hid, hcustomer'.trans hcustomer, hplan'.trans hplan⟩

/-- What is stored lasts through an errand, and changes only as it may: a status
along the life cycle, the end of a paid period for the customer who paid, and
nothing at all while subscriptions are listed. -/
structure Errand.Preserves (e : Errand) (w w' : World) : Prop extends World.Outlasts w w' where
  status : ∀ id s s', w.subscriptions.find? id = some s → w'.subscriptions.find? id = some s' →
    s.status.canBecome s'.status = true
  period : ∀ id s s', w.subscriptions.find? id = some s → w'.subscriptions.find? id = some s' →
    s'.expiresAt ≠ s.expiresAt → e.Pays w s.customer
  listed : ∀ customer, e = .query customer → w' = w

namespace Errand

open Trial

variable {plan : Plan} {t : Trial World}

/-- An errand preserves what the laws say it does, if the subscriptions outlive it. -/
theorem preserves_serve (e : Errand)
    (houtlives : SubscriptionStore.Outlives (e.Pays t.state) t.state.subscriptions
      (e.serve plan t).state.subscriptions) : e.Preserves t.state (e.serve plan t).state := by
  refine ⟨⟨houtlives.order, houtlives.listing, ?_, customers_serve plan e t⟩, ?_, ?_, ?_⟩
  · intro id s hfind
    obtain ⟨s', hfind', hadvances, -⟩ := houtlives.kept hfind
    exact ⟨s', hfind', hadvances.id, hadvances.customer, hadvances.plan⟩
  · intro id s s' hfind hfind'
    obtain ⟨s₁, hfind₁, hadvances, -⟩ := houtlives.kept hfind
    cases hfind'.symm.trans hfind₁
    exact hadvances.status
  · intro id s s' hfind hfind' hne
    obtain ⟨s₁, hfind₁, -, hpaid⟩ := houtlives.kept hfind
    cases hfind'.symm.trans hfind₁
    exact hpaid hne
  · rintro customer rfl
    obtain ⟨new, -, hserve⟩ := serve_query plan customer t
    rw [hserve]

/-! ## Histories of errands -/

/-- An errand takes the ledger some steps further, or none. -/
theorem evolution_serve (plan : Plan) (t : Trial World) (e : Errand) :
    Evolution t (e.serve plan t) := by
  cases e with
  | webhook terms payload => exact Request.evolution_serve plan t (.webhook terms payload)
  | command id action => exact Request.evolution_serve plan t (.command id action)
  | delivery e => exact Request.evolution_serve plan t (.delivery e)
  | query customer =>
      obtain ⟨new, ⟨hquiet, -⟩, hserve⟩ := serve_query plan customer t
      rw [hserve]
      refine .of_eq rfl ?_
      rw [ledger, Journal.handed_append, hquiet, List.append_nil]
      rfl

/-- The state and the journal after some errands, one after the other. -/
def history (plan : Plan) (errands : List Errand) (t : Trial World) : Trial World :=
  errands.foldl (serve plan) t

/-- Errands one after the other: first those in front, then the others from where these
have led. -/
theorem history_append (plan : Plan) (front back : List Errand) (t : Trial World) :
    history plan (front ++ back) t = history plan back (history plan front t) :=
  List.foldl_append

/-- **A history of errands.** From the first errand to the last the trial evolves. -/
theorem evolution_history (plan : Plan) (errands : List Errand) (t : Trial World) :
    Evolution t (history plan errands t) := by
  induction errands generalizing t with
  | nil => exact .refl t
  | cons e rest ih => exact (e.evolution_serve plan t).trans (ih _)

/-- The UUIDs that are taken up to a number are distinct, and none of them is the
identifier of a stored subscription. -/
structure Unspent (t : Trial World) (limit : Nat) : Prop where
  distinct : Set.InjOn t.state.supply.uuids (Set.Ico t.state.supply.drawn limit)
  unused : ∀ i ∈ Set.Ico t.state.supply.drawn limit,
    ⟨t.state.supply.uuids i⟩ ∉ OrderedMap.keys t.state.subscriptions

/-- Identifiers that are not used up before some draw are not used up before an earlier
one. -/
theorem Unspent.mono {limit limit' : Nat} (h : Unspent t limit) (hle : limit' ≤ limit) :
    Unspent t limit' := by
  have hsub : Set.Ico t.state.supply.drawn limit' ⊆ Set.Ico t.state.supply.drawn limit :=
    Set.Ico_subset_Ico_right hle
  exact ⟨h.distinct.mono hsub, fun i hi => h.unused i (hsub hi)⟩

/-- What was taken meanwhile is another one than what is taken later. -/
theorem Unspent.after {limit : Nat} (h : Unspent t limit) {t' : Trial World}
    (hevolution : Evolution t t') : Unspent t' limit := by
  have hdrawn : t.state.supply.drawn ≤ t'.state.supply.drawn := hevolution.reach.drawn_le
  refine ⟨?_, ?_⟩
  · rw [hevolution.uuids]
    exact h.distinct.mono (Set.Ico_subset_Ico_left hdrawn)
  · rw [hevolution.uuids]
    intro i hi hmem
    have hi' : i ∈ Set.Ico t.state.supply.drawn limit := ⟨hdrawn.trans hi.1, hi.2⟩
    rcases hevolution.reach.mem_keys hmem with hold | ⟨j, hj, heq⟩
    · exact h.unused i hi' hold
    · have hj' : j ∈ Set.Ico t.state.supply.drawn limit :=
        ⟨hj.1, hj.2.trans_le (hi.1.trans hi.2.le)⟩
      have hsame : i = j := h.distinct hi' hj' (SubscriptionId.mk.inj heq)
      exact absurd (hsame ▸ hj.2 : i < t'.state.supply.drawn) (Nat.not_lt.mpr hi.1)

variable {errands : List Errand}

/-- **One errand of many.** The UUID that it may take is none that is in use, since what
the whole run draws is distinct; so the subscriptions outlive the errand. -/
theorem Unspent.outlives {e : Errand} {rest : List Errand}
    (h : Unspent t (history plan (e :: rest) t).state.supply.drawn)
    (hkeyed : SubscriptionStore.Keyed t.state.subscriptions) :
    SubscriptionStore.Outlives (e.Pays t.state) t.state.subscriptions
      (e.serve plan t).state.subscriptions := by
  refine outlives_serve plan e hkeyed fun hdrawn => ?_
  have hlater : (e.serve plan t).state.supply.drawn ≤
      (history plan (e :: rest) t).state.supply.drawn :=
    (evolution_history plan rest (e.serve plan t)).reach.drawn_le
  exact h.unused _ ⟨Nat.le_refl _, hdrawn.trans_le hlater⟩

/-- **All errands.** The induction is on the errands: each one leaves a keyed store
whose identifiers are not used up by those behind it. -/
theorem Unspent.outlasts (h : Unspent t (history plan errands t).state.supply.drawn)
    (hkeyed : SubscriptionStore.Keyed t.state.subscriptions) :
    t.state.Outlasts (history plan errands t).state ∧
      SubscriptionStore.Keyed (history plan errands t).state.subscriptions := by
  induction errands generalizing t with
  | nil => exact ⟨t.state.outlasts_refl, hkeyed⟩
  | cons e rest ih =>
      have houtlives := h.outlives hkeyed
      have hfirst := (e.preserves_serve houtlives).toOutlasts
      have hrest :
          Unspent (e.serve plan t) (history plan rest (e.serve plan t)).state.supply.drawn :=
        h.after (e.evolution_serve plan t)
      obtain ⟨hlater, hkeyed'⟩ := ih hrest houtlives.keyed
      exact ⟨hfirst.trans hlater, hkeyed'⟩

end Errand

open Errand in
/-- **What lasts.**  Begin with subscriptions that stand under their own
identifiers, and let errands of all kinds come while any calls fail.  If no UUID
is taken twice or was used before, every errand preserves what it finds, and what
is stored at any moment lasts to the end. -/
theorem preserves_of_history (plan : Plan) (errands : List Errand) {w : World}
    (hkeyed : SubscriptionStore.Keyed w.subscriptions) {t : Trial World}
    (hhistory : history plan errands (.new w) = t)
    (hdistinct : Set.InjOn w.supply.uuids (Set.Ico w.supply.drawn t.state.supply.drawn))
    (hunused : ∀ i ∈ Set.Ico w.supply.drawn t.state.supply.drawn,
      ⟨w.supply.uuids i⟩ ∉ OrderedMap.keys w.subscriptions) :
    (∀ front e back, errands = front ++ e :: back →
      e.Preserves (history plan front (.new w)).state
        (history plan (front ++ [e]) (.new w)).state) ∧
    ∀ front back, errands = front ++ back →
      (history plan front (.new w)).state.Outlasts t.state := by
  subst hhistory
  have hunspent : Unspent (.new w) (history plan errands (.new w)).state.supply.drawn :=
    ⟨hdistinct, hunused⟩
  -- At every moment the rest of the errands finds fresh UUIDs and a keyed store.
  have hmoment : ∀ front back, errands = front ++ back →
      Unspent (history plan front (.new w))
        (history plan back (history plan front (.new w))).state.supply.drawn ∧
      SubscriptionStore.Keyed (history plan front (.new w)).state.subscriptions := by
    rintro front back rfl
    rw [history_append] at hunspent
    have hback := hunspent.after (evolution_history plan front (.new w))
    have hfront : Unspent (.new w) (history plan front (.new w)).state.supply.drawn :=
      hunspent.mono (evolution_history plan back _).reach.drawn_le
    exact ⟨hback, (hfront.outlasts hkeyed).2⟩
  refine ⟨?_, ?_⟩
  · intro front e back hsplit
    obtain ⟨hfresh, hkeyed'⟩ := hmoment front (e :: back) hsplit
    rw [history_append]
    exact e.preserves_serve (hfresh.outlives hkeyed')
  · intro front back hsplit
    obtain ⟨hfresh, hkeyed'⟩ := hmoment front back hsplit
    rw [hsplit, history_append]
    exact (hfresh.outlasts hkeyed').1

namespace Sample

/-- The customer is known and has no subscription yet. -/
def member : World := { start with customers := CustomerStore.save .empty customer }

/-- The customer pays, falls behind, looks at the subscription, and pays again. -/
def errands : List Errand :=
  [.webhook default paid, .command ⟨.ofNat 0⟩ .markPastDue, .query customer.id,
    .webhook default paid]

theorem errand_paid (plan : Plan) (t : Trial World) :
    (Errand.webhook default paid).serve plan t =
      (Trial.run plan (Routes.renew default data : Service Empty Unit) t).2 :=
  serve_paid plan t

set_option maxRecDepth 20000 in
/-- One UUID is taken for the subscription and one for each announcement. -/
theorem served_errands :
    ((Errand.history (.ofPublisher failing) errands (.new member)).state.supply.drawn,
      (Errand.history (.ofPublisher failing) errands (.new member)).state.subscriptions.keys) =
      (3, [⟨.ofNat 0⟩]) := by
  simp only [Errand.history, errands, List.foldl_cons, List.foldl_nil, errand_paid]
  cbv

end Sample

open Errand in
/-- The publisher is down when it comes to the second announcement. -/
theorem preserves_of_history_failing :
    SubscriptionStore.Keyed Sample.member.subscriptions ∧
      ∃ t, history (.ofPublisher Sample.failing) Sample.errands (.new Sample.member) = t ∧
        Set.InjOn Sample.member.supply.uuids
          (Set.Ico Sample.member.supply.drawn t.state.supply.drawn) ∧
        (∀ i ∈ Set.Ico Sample.member.supply.drawn t.state.supply.drawn,
          ⟨Sample.member.supply.uuids i⟩ ∉ OrderedMap.keys Sample.member.subscriptions) ∧
        OrderedMap.keys t.state.subscriptions = [⟨.ofNat 0⟩] ∧
        (∀ front e back, Sample.errands = front ++ e :: back →
          e.Preserves (history (.ofPublisher Sample.failing) front (.new Sample.member)).state
            (history (.ofPublisher Sample.failing) (front ++ [e]) (.new Sample.member)).state) ∧
        ∀ front back, Sample.errands = front ++ back →
          (history (.ofPublisher Sample.failing) front (.new Sample.member)).state.Outlasts
            t.state := by
  have hserved := Sample.served_errands
  generalize hhistory : history (.ofPublisher Sample.failing) Sample.errands
    (.new Sample.member) = t at hserved
  obtain ⟨hdrawn, hkeys⟩ := Prod.mk.inj hserved
  have hkeyed : SubscriptionStore.Keyed Sample.member.subscriptions := SubscriptionStore.keyed_empty
  have hofNat : ∀ i < 3, ∀ j < 3, Uuid.ofNat i = Uuid.ofNat j → i = j := by decide
  have hdistinct : Set.InjOn Sample.member.supply.uuids
      (Set.Ico Sample.member.supply.drawn t.state.supply.drawn) := by
    rw [hdrawn]
    exact fun i hi j hj heq => hofNat i hi.2 j hj.2 heq
  have hunused : ∀ i ∈ Set.Ico Sample.member.supply.drawn t.state.supply.drawn,
      ⟨Sample.member.supply.uuids i⟩ ∉ OrderedMap.keys Sample.member.subscriptions :=
    fun _ _ => List.not_mem_nil
  obtain ⟨hsteps, hlasts⟩ := preserves_of_history _ _ hkeyed hhistory hdistinct hunused
  exact ⟨hkeyed, t, rfl, hdistinct, hunused, hkeys, hsteps, hlasts⟩

end SubscriptionBilling
