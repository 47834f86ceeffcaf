import SubscriptionBilling.Proofs.Pass
/-!
# The effect of a paid invoice

A webhook about a paid invoice that nothing interrupts has one of four outcomes
(`Payment`): it is acknowledged since nobody stored is meant; it is refused
since the paid period would end out of range; it renews every subscription of
the customer; or it creates the first one.  `invoicePaid_payment` says that
these are all, as long as every subscription stands under its own identifier and
the next UUID is a new one.  Elsewhere there are others: `renewal_kept_of_refused`
is a payment that is refused when it has renewed a subscription already.
-/

namespace SubscriptionBilling

namespace OrderedMap

variable {κ α : Type} [DecidableEq κ]

/-- Two maps with the same keys are related entry by entry, if what is found
under each key is. -/
theorem forall₂_entries {R : κ → α → α → Prop} {m n : OrderedMap κ α} (hkeys : n.keys = m.keys)
    (h : ∀ key a, m.find? key = some a → ∃ b, n.find? key = some b ∧ R key a b) :
    List.Forall₂ (fun x y => y.1 = x.1 ∧ R x.1 x.2 y.2) m.entries n.entries := by
  have hlists : ∀ xs ys : List (κ × α), ys.map Prod.fst = xs.map Prod.fst →
      (ys.map Prod.fst).Nodup → (∀ x ∈ xs, ∃ b, (x.1, b) ∈ ys ∧ R x.1 x.2 b) →
      List.Forall₂ (fun x y => y.1 = x.1 ∧ R x.1 x.2 y.2) xs ys := by
    intro xs
    induction xs with
    | nil =>
        intro ys hfst _ _
        rw [List.map_nil, List.map_eq_nil_iff] at hfst
        rw [hfst]
        exact .nil
    | cons x xs ih =>
        intro ys hfst hnodup hrel
        obtain ⟨y, ys, rfl, hy, hys⟩ := List.map_eq_cons_iff.mp hfst
        rw [List.map_cons, List.nodup_cons] at hnodup
        have hhead : R x.1 x.2 y.2 := by
          obtain ⟨b, hmem, hb⟩ := hrel x List.mem_cons_self
          rcases List.mem_cons.mp hmem with rfl | hrest
          · exact hb
          · have hkey : x.1 ∈ ys.map Prod.fst := List.mem_map.mpr ⟨(x.1, b), hrest, rfl⟩
            exact absurd (hy ▸ hkey) hnodup.1
        refine .cons ⟨hy, hhead⟩ (ih ys hys hnodup.2 ?_)
        intro x' hx'
        obtain ⟨b, hmem, hb⟩ := hrel x' (List.mem_cons_of_mem x hx')
        rcases List.mem_cons.mp hmem with rfl | hrest
        · have hkey : x'.1 ∈ ys.map Prod.fst := hys ▸ List.mem_map_of_mem (f := Prod.fst) hx'
          exact absurd hkey hnodup.1
        · exact ⟨b, hrest, hb⟩
  refine hlists m.entries n.entries hkeys n.nodup ?_
  intro x hx
  obtain ⟨b, hfind, hb⟩ := h x.1 x.2 (find?_eq_some_iff.mpr hx)
  exact ⟨b, find?_eq_some_iff.mp hfind, hb⟩

end OrderedMap

namespace Subscription

/-- What a renewal until an instant leaves. -/
structure PaidUntil (periodEnd : Instant) (s s' : Subscription) : Prop where
  id : s'.id = s.id
  customer : s'.customer = s.customer
  plan : s'.plan = s.plan
  status : s'.status = .active
  expiresAt : s'.expiresAt = periodEnd

/-- What is activated is active, whatever it was before. -/
theorem activate_status (s : Subscription) (now : Instant) :
    (s.activate now).2.status = .active :=
  s.replaceStatus_status .active now

/-- A renewal leaves an active subscription with the new end of its period, under the
same identifier, for the same customer, on the same plan. -/
theorem renew_paidUntil (s : Subscription) (periodEnd now : Instant) :
    s.PaidUntil periodEnd (s.renew periodEnd now).2 := by
  have hmoves := s.renew_moves periodEnd now
  have hactive := s.activate_status now
  refine ⟨hmoves.id, hmoves.customer, hmoves.plan, ?_, ?_⟩
  · by_cases hend : (s.activate now).2.expiresAt = periodEnd <;> simp [renew, hend, hactive]
  · by_cases hend : (s.activate now).2.expiresAt = periodEnd <;> simp [renew, hend]

end Subscription

/-- Every subscription of a customer was renewed where it stands, and those of
all others are as before. -/
def SubscriptionStore.Renewed (customer : CustomerId) (periodEnd : Instant)
    (before after : SubscriptionStore) : Prop :=
  List.Forall₂ (fun x y => y.1 = x.1 ∧
    (x.2.customer = customer → x.2.PaidUntil periodEnd y.2) ∧
    (x.2.customer ≠ customer → y.2 = x.2)) before.entries after.entries

/-- What may come of a paid invoice: the result, the world afterwards, and what
the publisher was handed. -/
inductive Payment (terms : Terms) (webhook : Webhook) (w w' : World) :
    Except WebhookError Intake.Receipt → List Envelope → Prop
  /-- No stored customer is meant, and the webhook is acknowledged. -/
  | unknown (hunknown : CustomerStore.ofBody? w.customers webhook.data = none)
      (hcustomers : w'.customers = w.customers) (hstore : w'.subscriptions = w.subscriptions) :
      Payment terms webhook w w' (.ok ⟨webhook.id, webhook.type, "InvoicePaidStrategy"⟩) []
  /-- The paid period would end out of range. -/
  | refused (customer : Customer)
      (hknown : CustomerStore.ofBody? w.customers webhook.data = some customer)
      (hend : w.clock.addDays? terms.periodDays.toNat = none)
      (hcustomers : w'.customers = w.customers) (hstore : w'.subscriptions = w.subscriptions) :
      Payment terms webhook w w' (.error (.failed terms.outOfRange)) []
  /-- The customer's subscriptions are renewed, and those that were not active
  are announced in the order of the listing. -/
  | renewed (customer : Customer) (periodEnd : Instant) (handed : List Envelope)
      (hknown : CustomerStore.ofBody? w.customers webhook.data = some customer)
      (hend : w.clock.addDays? terms.periodDays.toNat = some periodEnd)
      (hlisted : SubscriptionStore.ofCustomer w.subscriptions customer.id ≠ [])
      (hcustomers : w'.customers = w.customers)
      (hstore : SubscriptionStore.Renewed customer.id periodEnd w.subscriptions w'.subscriptions)
      (hhanded : List.Forall₂
        (fun s e => ∃ s', w'.subscriptions.find? s.id = some s' ∧ s.Announces s' e)
        ((SubscriptionStore.ofCustomer w.subscriptions customer.id).filter
          fun s => s.status != .active) handed) :
      Payment terms webhook w w' (.ok ⟨webhook.id, webhook.type, "InvoicePaidStrategy"⟩) handed
  /-- The customer had none, and gets one behind all others. -/
  | created (customer : Customer) (periodEnd : Instant) (s : Subscription)
      (hknown : CustomerStore.ofBody? w.customers webhook.data = some customer)
      (hend : w.clock.addDays? terms.periodDays.toNat = some periodEnd)
      (hlisted : SubscriptionStore.ofCustomer w.subscriptions customer.id = [])
      (hcustomers : w'.customers = w.customers)
      (hstore : w'.subscriptions.entries = w.subscriptions.entries ++ [(s.id, s)])
      (howner : s.customer = customer.id) (hstatus : s.status = .active)
      (hexpires : s.expiresAt = periodEnd)
      (hplan : s.plan = (Webhook.planReference webhook.data).getD terms.defaultPlan) :
      Payment terms webhook w w' (.ok ⟨webhook.id, webhook.type, "InvoicePaidStrategy"⟩) []

namespace Trial

/-- Nothing interrupts a pass against a plan without failures. -/
theorem pass_smooth {update : Update} (hsound : update.Sound) (htotal : update.Total)
    {listed : List Subscription} {t : Trial World}
    (hstored : ∀ s ∈ listed, t.state.subscriptions.find? s.id = some s)
    (hnodup : (listed.map Subscription.id).Nodup) :
    ∃ pairs, pairs.map Prod.fst = listed ∧
      (pass .smooth update (listed.map Subscription.id) t).1 = .ok () ∧
      Passed update t pairs (pass .smooth update (listed.map Subscription.id) t).2 := by
  rcases pass_cases .smooth hsound htotal hstored hnodup with h |
    ⟨pairs, s, rest, failure, t', -, -, -, hbroken⟩
  · exact h
  · generalize (pass .smooth update (listed.map Subscription.id) t).2 = t'' at hbroken
    cases hbroken with
    | blocked hcall => cases hcall
    | unheard s' tr hupdate hchanged hanswer => cases hanswer

/-- After a pass that was sound every subscription is found as the pass has left it. -/
theorem Passed.find {update : Update} (hsound : update.Sound) {t t' : Trial World}
    {pairs : List (Subscription × Subscription)} (h : Passed update t pairs t')
    {p : Subscription × Subscription} (hp : p ∈ pairs) :
    t'.state.subscriptions.find? p.1.id = some p.2 := by
  obtain ⟨tr, hmoves⟩ := (h.makes p hp).moves hsound
  rw [← hmoves.id]
  exact h.store.written p.2 (List.mem_map_of_mem hp)

section Renewal

variable {periodEnd : Instant} {t t' : Trial World} {customer : CustomerId}
  {pairs : List (Subscription × Subscription)}

/-- A pass of renewals leaves each subscription active and paid until the end of the
period. -/
theorem Passed.paidUntil (h : Passed (.renewal periodEnd) t pairs t')
    {p : Subscription × Subscription} (hp : p ∈ pairs) : p.1.PaidUntil periodEnd p.2 := by
  obtain ⟨now, tr, hrenewed⟩ := h.makes p hp
  have hpaid := p.1.renew_paidUntil periodEnd now
  have heq : p.1.renew periodEnd now = (tr, p.2) := Except.ok.inj hrenewed
  rwa [heq] at hpaid

/-- A pass of renewals over the listing of a customer renews every one of that
customer's subscriptions where it stands, and no other. In a keyed store the pass finds
each one where the listing had it. -/
theorem Passed.renewed (h : Passed (.renewal periodEnd) t pairs t')
    (hkeyed : SubscriptionStore.Keyed t.state.subscriptions)
    (hlisted : pairs.map Prod.fst = SubscriptionStore.ofCustomer t.state.subscriptions customer) :
    SubscriptionStore.Renewed customer periodEnd t.state.subscriptions t'.state.subscriptions := by
  refine OrderedMap.forall₂_entries (R := fun _ s s' =>
    (s.customer = customer → s.PaidUntil periodEnd s') ∧ (s.customer ≠ customer → s' = s))
    h.store.keys ?_
  intro id s hfind
  have hid := hkeyed id s hfind
  subst hid
  by_cases hcustomer : s.customer = customer
  · have hs := (SubscriptionStore.mem_ofCustomer_iff hkeyed).mpr ⟨hfind, hcustomer⟩
    rw [← hlisted] at hs
    obtain ⟨p, hp, rfl⟩ := List.mem_map.mp hs
    exact ⟨p.2, h.find (Update.renewal_sound periodEnd) hp, fun _ => h.paidUntil hp,
      fun hother => absurd hcustomer hother⟩
  · have hother : s.id ∉ (pairs.map Prod.snd).map Subscription.id := by
      rw [h.toUpdated.map_id (Update.renewal_sound periodEnd), hlisted]
      intro hmem
      obtain ⟨s₂, hs₂, hid⟩ := List.mem_map.mp hmem
      obtain ⟨hfind₂, hcustomer₂⟩ := SubscriptionStore.mem_ofCustomer hkeyed hs₂
      rw [hid, hfind] at hfind₂
      cases hfind₂
      exact hcustomer hcustomer₂
    exact ⟨s, (h.store.kept s.id hother).trans hfind, fun hown => absurd hown hcustomer,
      fun _ => rfl⟩

/-- Of the renewed subscriptions those were announced that had not been active. -/
theorem Passed.announced_renewals {new : Journal} (h : Passed (.renewal periodEnd) t pairs t')
    (hannounced : Announced pairs new.handed) :
    List.Forall₂ (fun s e => ∃ s', t'.state.subscriptions.find? s.id = some s' ∧ s.Announces s' e)
      ((pairs.map Prod.fst).filter fun s => s.status != .active) new.handed := by
  have hchanges : (pairs.map Prod.fst).filter (fun s => s.status != .active) =
      (changes pairs).map Prod.fst := by
    rw [List.filter_map, changes]
    refine congrArg (List.map Prod.fst) (List.filter_congr fun p hp => ?_)
    rw [Function.comp_apply, (h.paidUntil hp).status]
  rw [hchanges, List.forall₂_map_left_iff]
  have hstored : ∀ p ∈ changes pairs, t'.state.subscriptions.find? p.1.id = some p.2 :=
    fun p hp => h.find (Update.renewal_sound periodEnd) (List.mem_filter.mp hp).1
  refine ((List.forall₂_and_left _ _).mpr ⟨hstored, hannounced⟩).imp ?_
  rintro p e ⟨hfind, hannounces⟩
  exact ⟨p.2, hfind, hannounces⟩

end Renewal

/-- The result of a service as the intake reports it for a paid invoice. -/
def paidResult (webhook : Webhook) (result : Except Failure Unit) :
    Except WebhookError Intake.Receipt :=
  (result.mapError .failed).map fun _ => ⟨webhook.id, webhook.type, "InvoicePaidStrategy"⟩

section Known

variable (terms : Terms) {webhook : Webhook} {w : World} {customer : Customer} {j : Journal}
  {periodEnd : Instant}
  (hknown : CustomerStore.ofBody? w.customers webhook.data = some customer)
  (hend : w.clock.addDays? terms.periodDays.toNat = some periodEnd) (hquiet : j.handed = [])

include hknown hend hquiet

/-- A stored customer without subscriptions gets one: it is saved behind all the others,
and nothing is announced. -/
theorem renewal_created (hfresh : ⟨w.nextUuid⟩ ∉ w.subscriptions.keys)
    (hlisted : SubscriptionStore.ofCustomer w.subscriptions customer.id = []) :
    let r := renewal .smooth terms webhook.data customer (.ok periodEnd) (Trial.ticked ⟨w, j⟩)
    Payment terms webhook w r.2.state (paidResult webhook r.1) r.2.journal.handed := by
  intro r
  let t := (Trial.ticked ⟨w, j⟩).listing customer
  let s := firstOf terms customer webhook.data periodEnd t.state
  have hcreated : r = save .smooth t.drawn.ticked s := by
    have hnone : SubscriptionStore.ofCustomer (Trial.ticked ⟨w, j⟩).state.subscriptions
        customer.id = [] := hlisted
    simp only [r, renewal, hnone]
    rfl
  have hentries : (SubscriptionStore.save w.subscriptions s).entries =
      w.subscriptions.entries ++ [(s.id, s)] :=
    OrderedMap.entries_set_of_not_mem hfresh
  have hstill : r.2.journal.handed = [] := by
    rw [hcreated]
    show (j ++ [(Call.listSubscriptions customer.id, none)] ++
      [(Call.saveSubscription s, none)]).handed = []
    rw [Journal.handed_append, Journal.handed_append, hquiet]
    rfl
  rw [hstill, hcreated]
  exact .created customer periodEnd s hknown hend hlisted rfl hentries rfl rfl rfl rfl

/-- A stored customer with subscriptions has all of them renewed, and what was not
active is announced in the order of the listing. -/
theorem renewal_renewed (hkeyed : SubscriptionStore.Keyed w.subscriptions)
    (hlisted : SubscriptionStore.ofCustomer w.subscriptions customer.id ≠ []) :
    let r := renewal .smooth terms webhook.data customer (.ok periodEnd) (Trial.ticked ⟨w, j⟩)
    Payment terms webhook w r.2.state (paidResult webhook r.1) r.2.journal.handed := by
  intro r
  let t := (Trial.ticked ⟨w, j⟩).listing customer
  have hpass : r = pass .smooth (.renewal periodEnd)
      ((SubscriptionStore.ofCustomer w.subscriptions customer.id).map Subscription.id) t := by
    obtain ⟨s, rest, hcons⟩ := List.exists_cons_of_ne_nil hlisted
    have hsome : SubscriptionStore.ofCustomer (Trial.ticked ⟨w, j⟩).state.subscriptions
        customer.id = s :: rest := hcons
    rw [hcons]
    simp only [r, renewal, hsome]
    rfl
  obtain ⟨pairs, hfst, hok, hpassed⟩ :=
    pass_smooth (t := t) (Update.renewal_sound periodEnd) (Update.renewal_total periodEnd)
      (fun s hs => (SubscriptionStore.mem_ofCustomer hkeyed hs).1)
      (SubscriptionStore.nodup_ofCustomer hkeyed customer.id)
  rw [← hpass] at hok hpassed
  obtain ⟨new, hnew, -, hannounced⟩ := hpassed.journal
  have hevents : r.2.journal.handed = new.handed := by
    have hlisting : t.journal.handed = [] := by
      show (j ++ [(Call.listSubscriptions customer.id, none)]).handed = []
      rw [Journal.handed_append, hquiet]
      rfl
    rw [hnew, Journal.handed_append, hlisting, List.nil_append]
  rw [hok, hevents]
  refine .renewed customer periodEnd new.handed hknown hend hlisted hpassed.customers
    (hpassed.renewed hkeyed hfst) ?_
  rw [← hfst]
  exact hpassed.announced_renewals hannounced

end Known

end Trial

/-- **The effect of a paid invoice.**  Over keyed stores, when nothing fails and
the next UUID is a new one, a webhook about a paid invoice has one of the four
outcomes. -/
theorem invoicePaid_payment {H : Type} (terms : Terms) {w : World}
    (hkeyed : SubscriptionStore.Keyed w.subscriptions)
    (hfresh : ⟨w.nextUuid⟩ ∉ w.subscriptions.keys) {payload : String} {webhook : Webhook}
    (hparse : Webhook.parse payload = .ok webhook) (htype : webhook.type = Routes.invoicePaidType) :
    let r := Trial.run .smooth (Intake.receive ⟨Routes.standard terms⟩ payload :
      ExceptT WebhookError (Activity H World) Intake.Receipt) (.new w)
    Payment terms webhook w r.2.state r.1 r.2.journal.handed := by
  intro r
  have hservice : Routes.service (H := H) terms webhook.type = Routes.renew terms := by
    rw [Routes.service, if_pos htype]
  have hname : (Routes.routeOf terms webhook.type : Route H World).name =
      "InvoicePaidStrategy" := by
    rw [Routes.routeOf, if_pos htype]
    rfl
  have hreceive : r = _ := Trial.run_receive .smooth (.new w) hparse terms
  rw [hname, hservice, Routes.renew] at hreceive
  rcases Trial.customerOf_cases (H := H) .smooth (.new w) webhook.data Routes.invoicePaidType with
    ⟨providerId, failure, hcall, -⟩ | ⟨new, -, hquiet, hfound⟩
  · cases hcall
  · have hstart : (Trial.new w).state = w := rfl
    rw [hstart] at hfound
    cases hknown : CustomerStore.ofBody? w.customers webhook.data with
    | none =>
        rw [hknown] at hfound
        rw [Trial.run_forCustomer_none hfound] at hreceive
        rw [hreceive]
        show Payment terms webhook w w _ new.handed
        rw [hquiet]
        exact .unknown hknown rfl rfl
    | some customer =>
        rw [hknown] at hfound
        rw [Trial.run_forCustomer_some hfound, Trial.run_renewAll] at hreceive
        cases hend : w.clock.addDays? terms.periodDays.toNat with
        | none =>
            have hperiod : terms.periodEnd w.clock = _ := Terms.periodEnd_of_none hend
            rw [hperiod] at hreceive
            rw [hreceive]
            show Payment terms webhook w w.ticked (.error (.failed terms.outOfRange)) new.handed
            rw [hquiet]
            exact .refused customer hknown hend rfl rfl
        | some periodEnd =>
            have hperiod : terms.periodEnd w.clock = _ := Terms.periodEnd_of_some hend
            rw [hperiod] at hreceive
            rw [hreceive]
            by_cases hlisted : SubscriptionStore.ofCustomer w.subscriptions customer.id = []
            · exact Trial.renewal_created terms hknown hend hquiet hfresh hlisted
            · exact Trial.renewal_renewed terms hknown hend hquiet hkeyed hlisted

/-- A payment that renews four subscriptions. -/
theorem invoicePaid_payment_four :
    SubscriptionStore.Keyed Sample.world.subscriptions ∧
      ⟨Sample.world.nextUuid⟩ ∉ Sample.world.subscriptions.keys ∧
      Webhook.parse Sample.paid = .ok ⟨"evt_1", Routes.invoicePaidType, Sample.data⟩ ∧
      let r := Trial.run .smooth (Intake.receive ⟨Routes.standard default⟩ Sample.paid :
        ExceptT WebhookError (Activity Unit World) Intake.Receipt) (.new Sample.world)
      Payment default ⟨"evt_1", Routes.invoicePaidType, Sample.data⟩ Sample.world r.2.state r.1
        r.2.journal.handed := by
  have hkeyed : SubscriptionStore.Keyed Sample.world.subscriptions :=
    SubscriptionStore.keyed_iff_saved.mpr ⟨Sample.subscriptions, rfl⟩
  have hfresh : ⟨Sample.world.nextUuid⟩ ∉ Sample.world.subscriptions.keys := by decide
  exact ⟨hkeyed, hfresh, Sample.parse_paid,
    invoicePaid_payment default hkeyed hfresh Sample.parse_paid rfl⟩

namespace Sample

/-- Another customer whom the provider knows as `cus_1`. -/
def twin : Customer := ⟨⟨.ofNat 7⟩, "eve@example.com", none, some "cus_1"⟩

/-- Each of the two customers has a subscription. -/
def twins : World :=
  { world with
    customers := CustomerStore.save (CustomerStore.save .empty customer) twin
    subscriptions := [subscription 2 .pastDue,
      { subscription 3 .pastDue with customer := twin.id }].foldl SubscriptionStore.save .empty }

/-- The status of what is stored under an identifier. -/
def statusOf (w : World) (n : Nat) : Option Status :=
  (w.subscriptions.find? ⟨.ofNat n⟩).map Subscription.status

/-- The payment over the three subscriptions that stand apart. -/
def astrayPayment : Except WebhookError Intake.Receipt × Trial World := uninterrupted paid astray

/-- The payment that the provider may mean for either customer. -/
def twinPayment : Except WebhookError Intake.Receipt × Trial World := uninterrupted paid twins

set_option maxRecDepth 8000 in
/-- The payment ends with a lookup that finds nothing, when it has renewed the
subscription in front and announced it. -/
theorem astrayPayment_facts :
    (astrayPayment.1, statusOf astray 3, statusOf astrayPayment.2.state 3,
      astrayPayment.2.journal.handed.length) =
    (.error (.failed (SubscriptionStore.missing ⟨.ofNat 9⟩)), some .pastDue, some .active, 1) := by
  simp only [astrayPayment, uninterrupted, Trial.run_receive _ _ parse_paid]
  cbv

set_option maxRecDepth 8000 in
/-- The payment goes through, and of two customers with one provider id it renews the
subscription of one. -/
theorem twinPayment_facts :
    (twinPayment.1.isOk, statusOf twinPayment.2.state 2, statusOf twinPayment.2.state 3,
      twinPayment.2.journal.handed.length) = (true, some .active, some .pastDue, 1) := by
  simp only [twinPayment, uninterrupted, Trial.run_receive _ _ parse_paid]
  cbv

end Sample

/-- Where a subscription does not stand under its own identifier, a payment can be
refused after it renewed another one and announced that.  And of two customers with
one name at the provider only the first is renewed. -/
theorem renewal_kept_of_refused :
    Webhook.parse Sample.paid = .ok ⟨"evt_1", Routes.invoicePaidType, Sample.data⟩ ∧
      (Sample.astrayPayment.1 = .error (.failed (SubscriptionStore.missing ⟨.ofNat 9⟩)) ∧
        Sample.statusOf Sample.astray 3 = some .pastDue ∧
        Sample.statusOf Sample.astrayPayment.2.state 3 = some .active ∧
        Sample.astrayPayment.2.journal.handed.length = 1) ∧
      Sample.twin.providerId = Sample.customer.providerId ∧ Sample.twinPayment.1.isOk = true ∧
        Sample.statusOf Sample.twinPayment.2.state 2 = some .active ∧
        Sample.statusOf Sample.twinPayment.2.state 3 = some .pastDue ∧
        Sample.twinPayment.2.journal.handed.length = 1 := by
  have hastray := Sample.astrayPayment_facts
  have htwins := Sample.twinPayment_facts
  simp only [Prod.mk.injEq] at hastray htwins
  exact ⟨Sample.parse_paid, hastray, rfl, htwins⟩

end SubscriptionBilling
