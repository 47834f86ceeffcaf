import SubscriptionBilling.Proofs.Permanence
/-!
# Delivering a webhook again

A webhook that was handled may come again, and that does no harm.  What ends a
subscription finds it ended: nothing is written and nothing announced.  A paid
invoice finds every subscription of the customer active: it creates none and
announces nothing, and moves the end of each paid period to one period from now,
wherever the first payment had put it.

Both go back to what a pass without a failure leaves: whatever was listed is where
the update leads (`settled_pass`).  The second pass then has nothing to do
(`idle_pass`), or changes no status, each subscription at a reading of the clock
that was taken on the way (`clocked_pass`).

That a payment leaves nothing to announce needs a store where every subscription
stands under its own identifier, and nobody in between who marks it past due: in
other stores an end of a period may stay behind (`expiry_missed_by_repetition`).
-/

namespace SubscriptionBilling

/-! ## One subscription -/

namespace Subscription

/-- A renewal of what is active only moves the end of the period: the transition goes
from active to active, and nothing is announced. -/
theorem renew_of_active {s : Subscription} (h : s.status = .active) (periodEnd now : Instant) :
    s.renew periodEnd now = (⟨.active, .active⟩, s.extended periodEnd now) := by
  have hactivate : s.activate now = (⟨.active, .active⟩, s) := by
    have hself := s.replaceStatus_self now
    rw [h] at hself
    exact hself
  rw [renew_eq, hactivate]

end Subscription

/-- The update finds nothing to do. -/
def Update.Settled (update : Update) (s : Subscription) : Prop :=
  ∀ now, ∃ tr, update now s = .ok (tr, s) ∧ tr.changed = false

/-- A cancellation of what is cancelled finds nothing to do. -/
theorem Update.settled_cancellation {s : Subscription} (h : s.status = .cancelled) :
    Update.cancellation.Settled s := by
  intro now
  have hself := s.replaceStatus_self now
  rw [h] at hself
  exact ⟨⟨.cancelled, .cancelled⟩, congrArg Except.ok hself, rfl⟩

/-! ## Stores -/

namespace SubscriptionStore

/-- The customer has subscriptions, and all of them are active. -/
structure PaidUp (store : SubscriptionStore) (customer : CustomerId) : Prop where
  keyed : store.Keyed
  subscribed : store.ofCustomer customer ≠ []
  active : ∀ {id s}, store.find? id = some s → s.customer = customer → s.status = .active

/-- The first subscription of a customer is active, and so the customer is paid up with
it. -/
theorem paidUp_save {before : SubscriptionStore} (hkeyed : before.Keyed) {s : Subscription}
    (hstatus : s.status = .active) (hfirst : before.ofCustomer s.customer = []) :
    (before.save s).PaidUp s.customer := by
  have hkeyed' : (before.save s).Keyed := hkeyed.set rfl
  have hfind : ∀ id, (before.save s).find? id = if s.id = id then some s else before.find? id :=
    fun id => OrderedMap.find?_set before s.id id s
  refine ⟨hkeyed', List.ne_nil_of_mem ((mem_ofCustomer_iff hkeyed').mpr ⟨?_, rfl⟩), ?_⟩
  · rw [hfind, if_pos rfl]
  · intro id s' hfind' howner
    rw [hfind] at hfind'
    split at hfind'
    · exact Option.some.inj hfind' ▸ hstatus
    · have hlisted := (mem_listing_iff hkeyed).mpr ⟨s', hfind', howner⟩
      rw [hfirst] at hlisted
      exact absurd hlisted List.not_mem_nil

end SubscriptionStore

/-- The subscriptions of a customer are paid until an instant, and those that were
not have a note of the time; there are no new ones, and everything else is as
before. -/
structure Extended (customer : CustomerId) (periodEnd : Instant) (w w' : World) : Prop where
  customers : w'.customers = w.customers
  keys : w'.subscriptions.keys = w.subscriptions.keys
  own : ∀ {id s}, w.subscriptions.find? id = some s → s.customer = customer →
    ∃ i ∈ Set.Ico w.supply.readings w'.supply.readings,
      w'.subscriptions.find? id = some (s.extended periodEnd (w.supply.clock i))
  others : ∀ {id s}, w.subscriptions.find? id = some s → s.customer ≠ customer →
    w'.subscriptions.find? id = some s

/-- The clock may have been read before: what is amended at a later reading is amended
at a reading behind the earlier one too. -/
theorem Extended.of_ticked {customer : CustomerId} {periodEnd : Instant} {w w' : World}
    (h : Extended customer periodEnd w.ticked w') : Extended customer periodEnd w w' := by
  refine ⟨h.customers, h.keys, fun hfind howner => ?_, h.others⟩
  obtain ⟨i, ⟨hstart, hend⟩, hfind'⟩ := h.own hfind howner
  exact ⟨i, ⟨Nat.le_of_succ_le hstart, hend⟩, hfind'⟩

namespace Trial

/-! ## Turns -/

variable {plan : Plan} {update : Update} {t t₁ t' : Trial World}

/-- A subscription was gone through: it was updated at the next reading of the
clock, and nothing was announced unless its status changed. -/
structure Turned (update : Update) (id : SubscriptionId) (t : Trial World) (s : Subscription)
    (tr : Transition) (s' : Subscription) (t' : Trial World) : Prop where
  found : t.state.subscriptions.find? id = some s
  made : update t.state.clock s = .ok (tr, s')
  store : t'.state.subscriptions = t.state.subscriptions.set id s'
  customers : t'.state.customers = t.state.customers
  clock : t'.state.supply.clock = t.state.supply.clock
  readings : t'.state.supply.readings = t.state.supply.readings + 1
  quiet : tr.changed = false → t'.journal.handed = t.journal.handed

/-- **A turn that succeeds.** It found the subscription, and the update took it to what
is stored now, at the reading of the clock that the turn began with. -/
theorem turned_of_ok {id : SubscriptionId} {tr : Transition} {s' : Subscription}
    (h : turn plan update id t = (.ok (tr, s'), t')) : ∃ s, Turned update id t s tr s' t' := by
  have hturn := turn_cases plan update id t
  rw [h] at hturn
  generalize hresult : (Except.ok (tr, s') : Except Failure (Transition × Subscription)) = result
    at hturn
  cases hturn with
  | blocked => cases hresult
  | missing => cases hresult
  | refused => cases hresult
  | silent s s₁ tr₁ hcall hfind hupdate hsame =>
      cases hresult
      refine ⟨s, hfind, hupdate, rfl, rfl, rfl, rfl, fun _ => ?_⟩
      exact (Journal.handed_append _ _).trans (List.append_nil _)
  | answered s s₁ tr₁ answer hcall hfind hupdate hchanged =>
      cases answer with
      | some failure => cases hresult
      | none =>
          cases hresult
          refine ⟨s, hfind, hupdate, rfl, rfl, rfl, rfl, fun hsame => ?_⟩
          exact absurd hsame (by simp [hchanged])

/-- Nothing was written and nothing was announced. -/
structure Unmoved (t t' : Trial World) : Prop where
  customers : t'.state.customers = t.state.customers
  subscriptions : t'.state.subscriptions = t.state.subscriptions
  handed : t'.journal.handed = t.journal.handed

/-- What two stretches leave unmoved is unmoved by both together. -/
theorem Unmoved.trans (h : Unmoved t t₁) (h' : Unmoved t₁ t') : Unmoved t t' :=
  ⟨h'.customers.trans h.customers, h'.subscriptions.trans h.subscriptions,
    h'.handed.trans h.handed⟩

/-- Calls that hand nothing over move nothing. -/
theorem unmoved_append (t : Trial World) {new : Journal} (h : new.handed = []) :
    Unmoved t ⟨t.state, t.journal ++ new⟩ :=
  ⟨rfl, rfl, by rw [Journal.handed_append, h, List.append_nil]⟩

/-- The turn of a subscription for which there is nothing to do. -/
theorem turn_settled {id : SubscriptionId} {s : Subscription}
    (hfind : t.state.subscriptions.find? id = some s) (hsettled : update.Settled s) :
    ∃ r t', turn .smooth update id t = (.ok r, t') ∧ Unmoved t t' := by
  obtain ⟨tr, hupdate, hsame⟩ := hsettled t.state.clock
  have hturn : turn .smooth update id t = (.ok (tr, s), t.rewritten id s) := by
    simp only [turn, modify, Plan.smooth, SubscriptionStore.modify, hfind, hupdate, announce, hsame]
    rfl
  refine ⟨(tr, s), t.rewritten id s, hturn, rfl, OrderedMap.set_of_find? hfind, ?_⟩
  exact (Journal.handed_append _ _).trans (List.append_nil _)

/-! ## Passes -/

/-- A pass that succeeds is a turn that succeeded and a pass over the rest that did. -/
theorem pass_cons_ok {id : SubscriptionId} {rest : List SubscriptionId}
    (h : pass plan update (id :: rest) t = (.ok (), t')) :
    ∃ tr s' t₁, turn plan update id t = (.ok (tr, s'), t₁) ∧
      pass plan update rest t₁ = (.ok (), t') := by
  rw [pass] at h
  rcases hturn : turn plan update id t with ⟨_ | ⟨tr, s'⟩, t₁⟩
  · rw [hturn] at h
    cases h
  · rw [hturn] at h
    exact ⟨tr, s', t₁, rfl, h⟩

/-- **A pass with nothing to do** succeeds, and moves nothing. -/
theorem idle_pass {ids : List SubscriptionId} (hsettled : ∀ id ∈ ids, ∃ s,
    t.state.subscriptions.find? id = some s ∧ update.Settled s) :
    ∃ t', pass .smooth update ids t = (.ok (), t') ∧ Unmoved t t' := by
  induction ids generalizing t with
  | nil => exact ⟨t, rfl, rfl, rfl, rfl⟩
  | cons id rest ih =>
      obtain ⟨s, hfind, hs⟩ := hsettled id List.mem_cons_self
      obtain ⟨r, t₁, hturn, hunmoved⟩ := turn_settled hfind hs
      have hrest : ∀ id ∈ rest, ∃ s, t₁.state.subscriptions.find? id = some s ∧
          update.Settled s := by
        rw [hunmoved.subscriptions]
        exact fun id hid => hsettled id (List.mem_cons_of_mem _ hid)
      obtain ⟨t', hpass, hunmoved'⟩ := ih hrest
      refine ⟨t', ?_, hunmoved.trans hunmoved'⟩
      rw [pass, hturn]
      exact hpass

/-- **A pass that succeeds** leaves each listed subscription where the update
leads. -/
theorem settled_pass {settled : Subscription → Prop}
    (hleads : update.Leads fun _ s' => settled s') {ids : List SubscriptionId}
    (hok : pass plan update ids t = (.ok (), t')) :
    ∀ id ∈ ids, ∃ s', t'.state.subscriptions.find? id = some s' ∧ settled s' := by
  induction ids generalizing t with
  | nil => exact fun _ hid => absurd hid List.not_mem_nil
  | cons id rest ih =>
      obtain ⟨tr, s', t₁, hturn, hrest⟩ := pass_cons_ok hok
      intro other hother
      rcases List.mem_cons.mp hother with rfl | hother
      · -- Its own turn leads there, and no later turn leads away.
        obtain ⟨s, hturned⟩ := turned_of_ok hturn
        have hfind : t₁.state.subscriptions.find? other = some s' := by
          rw [hturned.store, OrderedMap.find?_set, if_pos rfl]
        have hworked := worked_pass plan hleads (fun _ _ _ _ h => h) rest t₁
        rw [hrest] at hworked
        obtain ⟨s'', hfind', rfl | ⟨-, hsettled⟩⟩ := hworked.found hfind
        · exact ⟨s'', hfind', hleads _ _ _ _ hturned.made⟩
        · exact ⟨s'', hfind', hsettled⟩
      · exact ih hrest other hother

/-- Each listed subscription was updated once, at a reading of the clock that was
taken meanwhile, and everything else is as before. -/
structure Clocked (update : Update) (ids : List SubscriptionId) (t t' : Trial World) : Prop where
  customers : t'.state.customers = t.state.customers
  keys : t'.state.subscriptions.keys = t.state.subscriptions.keys
  clock : t'.state.supply.clock = t.state.supply.clock
  readings : t.state.supply.readings ≤ t'.state.supply.readings
  made : ∀ id ∈ ids, ∃ i ∈ Set.Ico t.state.supply.readings t'.state.supply.readings, ∃ s tr s',
    t.state.subscriptions.find? id = some s ∧
    update (t.state.supply.clock i) s = .ok (tr, s') ∧
    t'.state.subscriptions.find? id = some s'
  others : ∀ id ∉ ids, t'.state.subscriptions.find? id = t.state.subscriptions.find? id
  quiet : (∀ id ∈ ids, ∀ now s tr s', t.state.subscriptions.find? id = some s →
    update now s = .ok (tr, s') → tr.changed = false) → t'.journal.handed = t.journal.handed

/-- One turn before the others: the subscription that it wrote is in no later turn, and
so it keeps its own reading of the clock. -/
theorem Clocked.cons {ids : List SubscriptionId} {id : SubscriptionId} {s s' : Subscription}
    {tr : Transition} (hturned : Turned update id t s tr s' t₁) (h : Clocked update ids t₁ t')
    (hnew : id ∉ ids) : Clocked update (id :: ids) t t' := by
  have hreadings := hturned.readings
  have hlater := h.readings
  have hfind : ∀ other ∈ ids,
      t₁.state.subscriptions.find? other = t.state.subscriptions.find? other := by
    intro other hother
    have hne : id ≠ other := fun heq => hnew (heq ▸ hother)
    rw [hturned.store, OrderedMap.find?_set, if_neg hne]
  refine ⟨h.customers.trans hturned.customers, ?_, h.clock.trans hturned.clock, by omega, ?_, ?_,
    ?_⟩
  · rw [h.keys, hturned.store]
    exact OrderedMap.keys_set_of_find? hturned.found s'
  · intro other hother
    rcases List.mem_cons.mp hother with rfl | hother
    · refine ⟨t.state.supply.readings, ⟨Nat.le_refl _, by omega⟩, s, tr, s', hturned.found,
        hturned.made, ?_⟩
      rw [h.others other hnew, hturned.store, OrderedMap.find?_set, if_pos rfl]
    · obtain ⟨i, ⟨hstart, hend⟩, s₁, tr₁, s₁', hfound, hmade, hfound'⟩ := h.made other hother
      rw [hfind other hother] at hfound
      rw [hturned.clock] at hmade
      exact ⟨i, ⟨by omega, hend⟩, s₁, tr₁, s₁', hfound, hmade, hfound'⟩
  · intro other hother
    rw [List.mem_cons, not_or] at hother
    rw [h.others other hother.2, hturned.store, OrderedMap.find?_set, if_neg (Ne.symm hother.1)]
  · intro hquiet
    have hfirst := hquiet id List.mem_cons_self _ s tr s' hturned.found hturned.made
    refine (h.quiet fun other hother now s₁ tr₁ s₁' hfound hmade => ?_).trans (hturned.quiet hfirst)
    rw [hfind other hother] at hfound
    exact hquiet other (List.mem_cons_of_mem _ hother) now s₁ tr₁ s₁' hfound hmade

/-- **A pass that succeeds** updates each listed subscription once. -/
theorem clocked_pass {ids : List SubscriptionId} (hnodup : ids.Nodup)
    (hok : pass plan update ids t = (.ok (), t')) : Clocked update ids t t' := by
  induction ids generalizing t with
  | nil =>
      cases hok
      exact ⟨rfl, rfl, rfl, Nat.le_refl _, fun _ hid => absurd hid List.not_mem_nil,
        fun _ _ => rfl, fun _ => rfl⟩
  | cons id rest ih =>
      obtain ⟨tr, s', t₁, hturn, hrest⟩ := pass_cons_ok hok
      obtain ⟨s, hturned⟩ := turned_of_ok hturn
      obtain ⟨hnew, hnodup⟩ := List.nodup_cons.mp hnodup
      exact (ih hnodup hrest).cons hturned hnew

/-! ## What the first delivery leaves -/

variable {customer : Customer}

/-- A cancellation that succeeds is a listing and a pass that succeeded over it. -/
theorem cancellation_ok (h : cancellation plan customer t = (.ok (), t')) :
    pass plan .cancellation (t.listed customer.id) (t.listing customer) = (.ok (), t') := by
  unfold cancellation at h
  cases hcall : plan t.journal (.listSubscriptions customer.id) with
  | some failure =>
      rw [hcall] at h
      cases h
  | none =>
      rw [hcall] at h
      exact h

/-- After a cancellation that succeeded, whatever is listed for the customer is
cancelled. -/
theorem cancelled_of_cancellation (h : cancellation plan customer t = (.ok (), t')) :
    ∀ id ∈ t'.listed customer.id, ∃ s, t'.state.subscriptions.find? id = some s ∧
      s.status = .cancelled := by
  have hpass := cancellation_ok h
  have hworked := worked_cancellation plan customer t
  rw [h] at hworked
  have hlisted : t'.listed customer.id = t.listed customer.id :=
    hworked.listing (fun hsettles => Prod.ext hsettles.id hsettles.customer) customer.id
  rw [hlisted]
  have hleads : Update.cancellation.Leads fun _ s' => s'.status = .cancelled :=
    fun now s tr s' hupdate => (Update.cancellation_leads now s tr s' hupdate).status
  exact settled_pass hleads hpass

/-- A renewal that succeeds creates the first subscription of a customer and hands
nothing over, or goes through all that there are. -/
theorem renewal_ok {terms : Terms} {data : Json} {period : Except Failure Instant}
    (h : renewal plan terms data customer period t = (.ok (), t')) :
    ∃ periodEnd, period = .ok periodEnd ∧
      (SubscriptionStore.ofCustomer t.state.subscriptions customer.id = [] ∧
          t'.journal.handed = t.journal.handed ∧
          t'.state.subscriptions = SubscriptionStore.save t.state.subscriptions
            (firstOf terms customer data periodEnd (t.listing customer).state) ∨
        SubscriptionStore.ofCustomer t.state.subscriptions customer.id ≠ [] ∧
          pass plan (.renewal periodEnd) (t.listed customer.id) (t.listing customer) =
            (.ok (), t')) := by
  unfold renewal at h
  cases period with
  | error failure => cases h
  | ok periodEnd =>
      refine ⟨periodEnd, rfl, ?_⟩
      cases hcall : plan t.journal (.listSubscriptions customer.id) with
      | some failure =>
          simp only [hcall] at h
          cases h
      | none =>
          rw [listed]
          simp only [hcall] at h
          cases hlisted : SubscriptionStore.ofCustomer t.state.subscriptions customer.id with
          | nil =>
              simp only [hlisted, save] at h
              cases hsave : plan (t.listing customer).drawn.ticked.journal (.saveSubscription
                  (firstOf terms customer data periodEnd (t.listing customer).state)) with
              | some failure =>
                  rw [hsave] at h
                  cases h
              | none =>
                  rw [hsave] at h
                  cases h
                  refine .inl ⟨rfl, ?_, rfl⟩
                  have hlisting : Unmoved t (t.listing customer) := unmoved_append t rfl
                  exact (unmoved_append (t.listing customer) rfl).handed.trans hlisting.handed
          | cons s rest =>
              simp only [hlisted] at h
              exact .inr ⟨List.cons_ne_nil s rest, h⟩

/-- After a paid invoice that succeeded, the customer is paid up: every subscription in
the listing is active, and there is one. -/
theorem paidUp_of_renewal {terms : Terms} {data : Json} {period : Except Failure Instant}
    (hkeyed : SubscriptionStore.Keyed t.state.subscriptions)
    (h : renewal plan terms data customer period t = (.ok (), t')) :
    SubscriptionStore.PaidUp t'.state.subscriptions customer.id := by
  obtain ⟨periodEnd, -, ⟨hfirst, -, hstore⟩ | ⟨hlisted, hpass⟩⟩ := renewal_ok h
  · rw [hstore]
    exact SubscriptionStore.paidUp_save hkeyed rfl hfirst
  · have hleads := Update.renewal_leads periodEnd
    have hworked := worked_pass plan hleads Subscription.settles_trans
      (t.listed customer.id) (t.listing customer)
    have htended := tended_pass plan (Update.renewal_sound periodEnd) (t.listed customer.id)
      (t.listing customer)
    rw [hpass] at hworked htended
    have hsame : t'.listed customer.id = t.listed customer.id :=
      hworked.listing (fun hsettles => Prod.ext hsettles.id hsettles.customer) customer.id
    have hkeyed' : SubscriptionStore.Keyed t'.state.subscriptions := htended.store.keyed hkeyed
    refine ⟨hkeyed', ?_, fun {id s} hfind howner => ?_⟩
    · have hne : t'.listed customer.id ≠ [] := by
        rw [hsame]
        exact fun hnil => hlisted (List.map_eq_nil_iff.mp hnil)
      exact fun hnil => hne (List.map_eq_nil_iff.mpr hnil)
    · have hid : id ∈ t'.listed customer.id :=
        (SubscriptionStore.mem_listing_iff hkeyed').mpr ⟨s, hfind, howner⟩
      have hactive : (Update.renewal periodEnd).Leads fun _ s' => s'.status = .active :=
        fun now s tr s' hupdate => (hleads now s tr s' hupdate).status
      obtain ⟨s', hfind', hstatus⟩ := settled_pass hactive hpass id (hsame ▸ hid)
      cases hfind.symm.trans hfind'
      exact hstatus

/-- **A renewal of a customer who is paid up.** It announces nothing and creates
nothing, and every subscription ends one period from now. -/
theorem extended_of_renewal {terms : Terms} {data : Json} {period : Except Failure Instant}
    (hpaid : SubscriptionStore.PaidUp t.state.subscriptions customer.id)
    (h : renewal plan terms data customer period t = (.ok (), t')) :
    t'.journal.handed = t.journal.handed ∧
      ∃ periodEnd, period = .ok periodEnd ∧ Extended customer.id periodEnd t.state t'.state := by
  obtain ⟨periodEnd, hperiod, ⟨hnone, -⟩ | ⟨-, hpass⟩⟩ := renewal_ok h
  · exact absurd hnone hpaid.subscribed
  · have hclocked := clocked_pass (SubscriptionStore.nodup_ofCustomer hpaid.keyed customer.id) hpass
    have hlisted : ∀ {id}, id ∈ t.listed customer.id ↔
        ∃ s, t.state.subscriptions.find? id = some s ∧ s.customer = customer.id :=
      SubscriptionStore.mem_listing_iff hpaid.keyed
    have hrenewed : ∀ {id s now tr s'}, id ∈ t.listed customer.id →
        t.state.subscriptions.find? id = some s →
        Update.renewal periodEnd now s = .ok (tr, s') →
        tr.changed = false ∧ s' = s.extended periodEnd now := by
      intro id s now tr s' hid hfind hupdate
      obtain ⟨s₁, hfind₁, howner⟩ := hlisted.mp hid
      cases hfind.symm.trans hfind₁
      rw [Update.renewal, Subscription.renew_of_active (hpaid.active hfind howner)] at hupdate
      cases hupdate
      exact ⟨rfl, rfl⟩
    refine ⟨?_, periodEnd, hperiod, hclocked.customers, hclocked.keys, ?_, ?_⟩
    · have hlisting : (t.listing customer).journal.handed = t.journal.handed :=
        (Journal.handed_append _ _).trans (List.append_nil _)
      exact (hclocked.quiet fun id hid now s tr s' hfind hupdate =>
        (hrenewed hid hfind hupdate).1).trans hlisting
    · intro id s hfind howner
      have hid := hlisted.mpr ⟨s, hfind, howner⟩
      obtain ⟨i, hi, s₁, tr, s', hfound, hmade, hfound'⟩ := hclocked.made id hid
      cases hfind.symm.trans hfound
      refine ⟨i, hi, ?_⟩
      rw [hfound', (hrenewed hid hfind hmade).2]
      rfl
    · intro id s hfind hother
      have hid : id ∉ t.listed customer.id := by
        intro hid
        obtain ⟨s₁, hfind₁, howner⟩ := hlisted.mp hid
        cases hfind.symm.trans hfind₁
        exact hother howner
      exact (hclocked.others id hid).trans hfind

/-! ## Deliveries -/

/-- One delivery of a webhook. -/
def receive (H : Type) (plan : Plan) (terms : Terms) (payload : String) (w : World) :
    Except WebhookError Intake.Receipt × Trial World :=
  run plan (Intake.receive ⟨Routes.standard terms⟩ payload :
    ExceptT WebhookError (Activity H World) Intake.Receipt) (.new w)

variable {H : Type} {terms : Terms} {payload : String} {webhook : Webhook} {w : World}
  {receipt : Intake.Receipt}

/-- A delivery succeeds if its service does, and then its receipt names the webhook and
the route. -/
theorem receive_eq_ok_iff (hparse : Webhook.parse payload = .ok webhook) :
    receive H plan terms payload w = (.ok receipt, t) ↔
      run plan (Routes.service terms webhook.type webhook.data : Service H Unit) (.new w) =
          (.ok (), t) ∧
        receipt =
          ⟨webhook.id, webhook.type, (Routes.routeOf terms webhook.type : Route H World).name⟩ := by
  rw [receive, run_receive plan (.new w) hparse terms]
  rcases run plan (Routes.service terms webhook.type webhook.data : Service H Unit) (.new w) with
    ⟨failure | ⟨⟩, t₁⟩
  · constructor
    · intro h
      cases h
    · rintro ⟨h, -⟩
      cases h
  · constructor
    · intro h
      cases h
      exact ⟨rfl, rfl⟩
    · rintro ⟨h, rfl⟩
      cases h
      rfl

/-- A webhook about a known customer that succeeds is the work for that customer, behind
a lookup that hands nothing over. -/
theorem run_forCustomer_ok {data : Json} {type : String} {work : Customer → Service H Unit}
    (hknown : CustomerStore.ofBody? t.state.customers data = some customer)
    (h : run plan (Routes.forCustomer data type work) t = (.ok (), t')) :
    ∃ new : Journal, new.handed = [] ∧
      run plan (work customer) ⟨t.state, t.journal ++ new⟩ = (.ok (), t') := by
  rcases forCustomer_cases plan data type work t with
    ⟨providerId, failure, -, hrun⟩ | ⟨new, -, hquiet, hrun⟩
  · rw [hrun] at h
    cases h
  · rw [hrun, hknown] at h
    exact ⟨new, hquiet, h⟩

/-- Whatever is listed for the customer of a body is cancelled. -/
def EndedFor (data : Json) (w : World) : Prop :=
  ∀ customer, CustomerStore.ofBody? w.customers data = some customer →
    ∀ s ∈ SubscriptionStore.ofCustomer w.subscriptions customer.id, ∃ s',
      w.subscriptions.find? s.id = some s' ∧ s'.status = .cancelled

/-- **The end of a subscription at the provider, handled.** Every subscription of the
customer has ended; where nobody is meant there is none. -/
theorem endedFor_of_cancel {data : Json}
    (h : run plan (Routes.cancel data : Service H Unit) t = (.ok (), t')) :
    EndedFor data t'.state := by
  rw [Routes.cancel] at h
  intro customer hknown s hs
  rcases forCustomer_cases plan data Routes.subscriptionDeletedType Routes.cancelAll t with
    ⟨providerId, failure, -, hrun⟩ | ⟨new, -, -, hrun⟩
  · rw [hrun] at h
    cases h
  · rw [hrun] at h
    cases hbefore : CustomerStore.ofBody? t.state.customers data with
    | none =>
        rw [hbefore] at h
        cases h
        cases hbefore.symm.trans hknown
    | some payer =>
        rw [hbefore] at h
        dsimp only at h
        rw [run_cancelAll] at h
        have haside := (works_cancellation plan payer ⟨t.state, t.journal ++ new⟩).aside.1
        rw [h] at haside
        rw [haside] at hknown
        cases hbefore.symm.trans hknown
        exact cancelled_of_cancellation h s.id (List.mem_map_of_mem hs)

/-- The end of a subscription comes where it was handled before. -/
theorem unmoved_cancel {data : Json} {t : Trial World} (hended : EndedFor data t.state) :
    ∃ t', run .smooth (Routes.cancel data : Service H Unit) t = (.ok (), t') ∧ Unmoved t t' := by
  rcases forCustomer_cases (H := H) .smooth data Routes.subscriptionDeletedType
      Routes.cancelAll t with ⟨providerId, failure, hcall, -⟩ | ⟨new, -, hquiet, hrun⟩
  · cases hcall
  · rw [Routes.cancel, hrun]
    have hfirst := unmoved_append t hquiet
    cases hknown : CustomerStore.ofBody? t.state.customers data with
    | none => exact ⟨_, rfl, hfirst⟩
    | some customer =>
        dsimp only
        rw [run_cancelAll]
        let t₁ : Trial World := ⟨t.state, t.journal ++ new⟩
        have hlisting : Unmoved t₁ (t₁.listing customer) := unmoved_append t₁ rfl
        have hidle : ∀ id ∈ t.listed customer.id, ∃ s,
            (t₁.listing customer).state.subscriptions.find? id = some s ∧
              Update.cancellation.Settled s := by
          intro id hid
          obtain ⟨s, hs, rfl⟩ := List.mem_map.mp hid
          obtain ⟨s', hfind, hstatus⟩ := hended customer hknown s hs
          exact ⟨s', hfind, Update.settled_cancellation hstatus⟩
        obtain ⟨t', hpass, hunmoved⟩ := idle_pass hidle
        exact ⟨t', hpass, (hfirst.trans hlisting).trans hunmoved⟩

/-- A payment of a customer came and was handled. -/
def Paid (H : Type) (plan : Plan) (terms : Terms) (w : World) (payer : CustomerId)
    (t : Trial World) : Prop :=
  ∃ payload webhook customer receipt, Webhook.parse payload = .ok webhook ∧
    webhook.type = Routes.invoicePaidType ∧
    CustomerStore.ofBody? w.customers webhook.data = some customer ∧ customer.id = payer ∧
    receive H plan terms payload w = (.ok receipt, t)

/-- Behind a payment there is a renewal, which begins with the period paid for. -/
theorem Paid.renewal {payer : CustomerId} (h : Paid H plan terms w payer t) :
    ∃ customer data, ∃ t₁ : Trial World, customer.id = payer ∧ t₁.state = w.ticked ∧
      t₁.journal.handed = [] ∧
      Trial.renewal plan terms data customer (terms.periodEnd w.clock) t₁ = (.ok (), t) := by
  obtain ⟨payload, webhook, customer, receipt, hparse, htype, hknown, rfl, hreceive⟩ := h
  obtain ⟨hrun, -⟩ := (receive_eq_ok_iff hparse).mp hreceive
  rw [Routes.service, if_pos htype, Routes.renew] at hrun
  obtain ⟨new, hquiet, hwork⟩ := run_forCustomer_ok hknown hrun
  rw [run_renewAll] at hwork
  exact ⟨customer, webhook.data, Trial.ticked ⟨w, new⟩, rfl, rfl, hquiet, hwork⟩

end Trial

/-- **Repetition is harmless.**  After a webhook was handled, the stores are met
again at any other time.  If it ended subscriptions, it is handled once more, with
the same receipt, and moves nothing.  If it was a payment of a customer and the
store is keyed, any other payment of that customer that is handled announces
nothing, and leaves the customer's subscriptions paid for one period from then on. -/
theorem repetition_harmless {H : Type} {plan : Plan} {terms : Terms} {w w' : World}
    {t : Trial World} (hcustomers : w'.customers = t.state.customers)
    (hsubscriptions : w'.subscriptions = t.state.subscriptions) :
    (∀ {payload webhook receipt}, Webhook.parse payload = .ok webhook →
      webhook.type = Routes.subscriptionDeletedType →
      Trial.receive H plan terms payload w = (.ok receipt, t) →
      ∃ t', Trial.receive H .smooth terms payload w' = (.ok receipt, t') ∧
        Trial.Unmoved (.new w') t') ∧
    (SubscriptionStore.Keyed w.subscriptions → ∀ {payer again t'},
      Trial.Paid H plan terms w payer t → Trial.Paid H again terms w' payer t' →
      t'.journal.handed = [] ∧ ∃ periodEnd,
        w'.clock.addDays? terms.periodDays.toNat = some periodEnd ∧
        Extended payer periodEnd w' t'.state) := by
  constructor
  · intro payload webhook receipt hparse htype hfirst
    have hservice : Routes.service (H := H) terms webhook.type = Routes.cancel := by
      rw [Routes.service, htype, if_neg (by decide), if_pos rfl]
    obtain ⟨hrun, rfl⟩ := (Trial.receive_eq_ok_iff hparse).mp hfirst
    rw [hservice] at hrun
    have hended : Trial.EndedFor webhook.data w' := by
      have hended := Trial.endedFor_of_cancel hrun
      rwa [Trial.EndedFor, ← hcustomers, ← hsubscriptions] at hended
    obtain ⟨t', hrun', hunmoved⟩ := Trial.unmoved_cancel (H := H) (t := .new w') hended
    refine ⟨t', (Trial.receive_eq_ok_iff hparse).mpr ⟨?_, rfl⟩, hunmoved⟩
    rw [hservice]
    exact hrun'
  · intro hkeyed payer again t' hpaid hpaid'
    obtain ⟨customer, data, t₁, rfl, hstate, -, hrenewal⟩ := hpaid.renewal
    obtain ⟨customer', data', t₂, hpayer, hstate', hquiet, hrenewal'⟩ := hpaid'.renewal
    have hpaidUp : SubscriptionStore.PaidUp w'.subscriptions customer.id := by
      rw [hsubscriptions]
      exact Trial.paidUp_of_renewal (hstate ▸ hkeyed) hrenewal
    rw [← hpayer] at hpaidUp ⊢
    have hsame : t₂.state.subscriptions = w'.subscriptions := by
      rw [hstate']
      rfl
    obtain ⟨hhanded, periodEnd, hperiod, hextended⟩ :=
      Trial.extended_of_renewal (hsame ▸ hpaidUp) hrenewal'
    rw [hstate'] at hextended
    exact ⟨hhanded.trans hquiet, periodEnd, Terms.periodEnd_eq_ok_iff.mp hperiod,
      hextended.of_ticked⟩

namespace Sample

/-- The same stores a day later. -/
def nextDay (w : World) : World :=
  { w with supply := .new (fun n => (Instant.of? (86400 + n) 0).getD default) (.ofNat <| · + 200) }

/-- A subscription of the customer ended at the provider. -/
def deleted : String :=
  "\x7b\"id\":\"evt_2\",\"type\":\"customer.subscription.deleted\",\"data\":\x7b\"object\":" ++
    "\x7b\"customer\":\"cus_1\"\x7d\x7d\x7d"

theorem parse_deleted :
    Webhook.parse deleted = .ok ⟨"evt_2", Routes.subscriptionDeletedType, data⟩ := by
  cbv

set_option maxRecDepth 8000 in
theorem result_deleted :
    (uninterrupted deleted world).1 =
      .ok ⟨"evt_2", Routes.subscriptionDeletedType, "SubscriptionDeletedStrategy"⟩ := by
  simp only [uninterrupted, Trial.run_receive _ _ parse_deleted]
  cbv

set_option maxRecDepth 8000 in
theorem result_paid :
    (uninterrupted paid world).1 =
      .ok ⟨"evt_1", Routes.invoicePaidType, "InvoicePaidStrategy"⟩ := by
  simp only [uninterrupted, Trial.run_receive _ _ parse_paid]
  cbv

set_option maxRecDepth 8000 in
theorem result_paid_nextDay :
    (uninterrupted paid (nextDay (uninterrupted paid world).2.state)).1 =
      .ok ⟨"evt_1", Routes.invoicePaidType, "InvoicePaidStrategy"⟩ := by
  simp only [uninterrupted, Trial.run_receive _ _ parse_paid]
  cbv

set_option maxRecDepth 8000 in
theorem known_nextDay :
    CustomerStore.ofBody? (nextDay (uninterrupted paid world).2.state).customers data =
      some customer := by
  simp only [uninterrupted, Trial.run_receive _ _ parse_paid]
  cbv

end Sample

/-- Both webhooks come once more on the next day. -/
theorem repetition_harmless_nextDay :
    (∃ receipt t t', Sample.uninterrupted Sample.deleted Sample.world = (.ok receipt, t) ∧
      Sample.uninterrupted Sample.deleted (Sample.nextDay t.state) = (.ok receipt, t') ∧
      Trial.Unmoved (.new (Sample.nextDay t.state)) t') ∧
    ∃ t t' periodEnd, SubscriptionStore.Keyed Sample.world.subscriptions ∧
      Trial.Paid Empty .smooth default Sample.world Sample.customer.id t ∧
      Trial.Paid Empty .smooth default (Sample.nextDay t.state) Sample.customer.id t' ∧
      t'.journal.handed = [] ∧
      (Sample.nextDay t.state).clock.addDays? 30 = some periodEnd ∧
      Extended Sample.customer.id periodEnd (Sample.nextDay t.state) t'.state := by
  constructor
  · have hresult := Sample.result_deleted
    rcases hfirst : Sample.uninterrupted Sample.deleted Sample.world with ⟨result, t⟩
    rw [hfirst] at hresult
    dsimp only at hresult
    subst hresult
    have hcustomers : (Sample.nextDay t.state).customers = t.state.customers := rfl
    have hsubscriptions : (Sample.nextDay t.state).subscriptions = t.state.subscriptions := rfl
    obtain ⟨t', hsecond, hunmoved⟩ :=
      (repetition_harmless hcustomers hsubscriptions).1 Sample.parse_deleted rfl hfirst
    exact ⟨_, t, t', rfl, hsecond, hunmoved⟩
  · have hkeyed : SubscriptionStore.Keyed Sample.world.subscriptions :=
      SubscriptionStore.keyed_iff_saved.mpr ⟨Sample.subscriptions, rfl⟩
    have hresult := Sample.result_paid
    have hresult' := Sample.result_paid_nextDay
    have hknown := Sample.known_nextDay
    rcases hfirst : Sample.uninterrupted Sample.paid Sample.world with ⟨result, t⟩
    rw [hfirst] at hresult hresult' hknown
    dsimp only at hresult hresult' hknown
    subst hresult
    rcases hsecond : Sample.uninterrupted Sample.paid (Sample.nextDay t.state) with ⟨result', t'⟩
    rw [hsecond] at hresult'
    dsimp only at hresult'
    subst hresult'
    have hpaid : Trial.Paid Empty .smooth default Sample.world Sample.customer.id t :=
      ⟨Sample.paid, _, Sample.customer, _, Sample.parse_paid, rfl, rfl, rfl, hfirst⟩
    have hpaid' : Trial.Paid Empty .smooth default (Sample.nextDay t.state) Sample.customer.id t' :=
      ⟨Sample.paid, _, Sample.customer, _, Sample.parse_paid, rfl, hknown, rfl, hsecond⟩
    have hcustomers : (Sample.nextDay t.state).customers = t.state.customers := rfl
    have hsubscriptions : (Sample.nextDay t.state).subscriptions = t.state.subscriptions := rfl
    obtain ⟨hquiet, periodEnd, hend, hextended⟩ :=
      (repetition_harmless hcustomers hsubscriptions).2 hkeyed hpaid hpaid'
    exact ⟨t, t', periodEnd, hkeyed, hpaid, hpaid', hquiet, hend, hextended⟩

namespace Sample

/-- Two subscriptions of the customer, of which the second was given the identifier
of the first. -/
def namesakes : World :=
  { world with
    subscriptions := renumber 3 2
      ([subscription 2 .active, subscription 3 .active].foldl SubscriptionStore.save .empty) }

/-- The stores a day after the payment of the two was handled. -/
def dayAfter : World := nextDay (uninterrupted paid namesakes).2.state

/-- When the customer's subscriptions expire, in the order of the listing. -/
def expiries (w : World) : List Instant :=
  (SubscriptionStore.ofCustomer w.subscriptions customer.id).map Subscription.expiresAt

/-- A month after the first day. -/
def monthAfter : Instant := (Instant.of? (31 * 86400) 0).getD default

/-- Between two payments the first of four subscriptions is marked past due. -/
def lapsed : World :=
  (Trial.run .smooth (StatusChange.perform ⟨.ofNat 2⟩ .markPastDue : Service Empty _)
    (.new (nextDay (uninterrupted paid world).2.state))).2.state

set_option maxRecDepth 8000 in
/-- Both payments succeed, and the second one moves the end of one of
the two periods. -/
theorem dayAfter_facts :
    ((uninterrupted paid namesakes).1.isOk, (uninterrupted paid dayAfter).1.isOk,
      expiries (uninterrupted paid dayAfter).2.state) = (true, true, [monthAfter, default]) := by
  simp only [dayAfter, uninterrupted, Trial.run_receive _ _ parse_paid]
  cbv

set_option maxRecDepth 8000 in
theorem monthAfter_eq : dayAfter.clock.addDays? 30 = some monthAfter := by
  have hclock : dayAfter.clock = (Instant.of? 86400 0).getD default := rfl
  rw [hclock]
  cbv

set_option maxRecDepth 8000 in
/-- The second payment succeeds and announces one change. -/
theorem lapsed_facts :
    ((uninterrupted paid lapsed).1.isOk,
      (uninterrupted paid lapsed).2.journal.handed.length) = (true, 1) := by
  simp only [lapsed, uninterrupted, Trial.run_receive _ _ parse_paid]
  cbv

end Sample

/-- Of two subscriptions with one identifier the second payment moves the end of one
only.  And where a subscription was marked past due between two payments, the second
one announces that it is active again. -/
theorem expiry_missed_by_repetition :
    ((Sample.uninterrupted Sample.paid Sample.namesakes).1.isOk = true ∧
      (Sample.uninterrupted Sample.paid Sample.dayAfter).1.isOk = true ∧
      Sample.dayAfter.clock.addDays? 30 = some Sample.monthAfter ∧
      Sample.expiries (Sample.uninterrupted Sample.paid Sample.dayAfter).2.state =
        [Sample.monthAfter, default] ∧
      default ≠ Sample.monthAfter) ∧
    (Sample.uninterrupted Sample.paid Sample.lapsed).1.isOk = true ∧
      (Sample.uninterrupted Sample.paid Sample.lapsed).2.journal.handed.length = 1 := by
  have hday := Sample.dayAfter_facts
  have hlapsed := Sample.lapsed_facts
  simp only [Prod.mk.injEq] at hday hlapsed
  exact ⟨⟨hday.1, hday.2.1, Sample.monthAfter_eq, hday.2.2, by decide⟩, hlapsed⟩

end SubscriptionBilling
