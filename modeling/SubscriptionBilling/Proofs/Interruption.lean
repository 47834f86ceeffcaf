import SubscriptionBilling.Proofs.Pass
/-!
# What an interrupted webhook leaves behind

A webhook about a paid invoice or a deleted subscription can fail at any of its
calls, and what it did before stays done.  `receive_interrupted` says what that
can be, whatever the pattern of failures: the failure that comes back is that of
the first call that failed, unaltered, or says that the paid period would end out
of range, and no call follows it; and the subscriptions of the customer fall into
a front that is done with, one that was being worked on, and a rest that is as
before (`Interruption`).

This is so as long as every subscription stands under its own identifier, since
the pass looks each one up under the identifier that it has.
`front_skipped_by_interruption` is a store where it is not so.
-/

namespace SubscriptionBilling

/-- The calls end with the only one that failed. -/
def Journal.StoppedBy (j : Journal) (c : Call) (failure : Failure) : Prop :=
  ∃ front : Journal, front.Smooth ∧ j = front ++ [(c, some failure)]

/-- The stores are as in another world, and the publisher was handed nothing. -/
structure Trial.Untouched (w : World) (t : Trial World) : Prop where
  customers : t.state.customers = w.customers
  subscriptions : t.state.subscriptions = w.subscriptions
  handed : t.journal.handed = []

/-- The calls that come before any subscription is written. -/
inductive Call.Preparing : Call → Prop
  | find (providerId : String) : Preparing (.findLinkedCustomer providerId)
  | list (customer : CustomerId) : Preparing (.listSubscriptions customer)
  | save (s : Subscription) : Preparing (.saveSubscription s)

/-- What a webhook does to each subscription of the customer. -/
inductive Webhook.Applies (terms : Terms) (w : World) (type : String) : Update → Prop
  | renewal (periodEnd : Instant) (htype : type = Routes.invoicePaidType)
      (hend : w.clock.addDays? terms.periodDays.toNat = some periodEnd) :
      Applies terms w type (.renewal periodEnd)
  | cancellation (htype : type = Routes.subscriptionDeletedType) :
      Applies terms w type .cancellation

/-- What a webhook does to each subscription moves it along the table of the life cycle.
-/
theorem Webhook.Applies.sound {terms : Terms} {w : World} {type : String} {update : Update}
    (h : Applies terms w type update) : update.Sound := by
  cases h with
  | renewal periodEnd => exact Update.renewal_sound periodEnd
  | cancellation => exact Update.cancellation_sound

/-- What a webhook does to each subscription is never refused by one, whatever its
status. -/
theorem Webhook.Applies.total {terms : Terms} {w : World} {type : String} {update : Update}
    (h : Applies terms w type update) : update.Total := by
  cases h with
  | renewal periodEnd => exact Update.renewal_total periodEnd
  | cancellation => exact Update.cancellation_total

/-- Of the customer's subscriptions, in the order of the listing, a front was
updated, and the rest and everything else in the stores is as before. -/
structure Progress (terms : Terms) (webhook : Webhook) (w : World)
    (front : List (Subscription × Subscription)) (rest : List Subscription) (w' : World) :
    Prop where
  listed : ∃ customer, CustomerStore.ofBody? w.customers webhook.data = some customer ∧
    SubscriptionStore.ofCustomer w.subscriptions customer.id = front.map Prod.fst ++ rest
  makes : ∃ update, Webhook.Applies terms w webhook.type update ∧
    ∀ p ∈ front, update.Makes p.1 p.2
  store : SubscriptionStore.Rewritten w.subscriptions w'.subscriptions (front.map Prod.snd)
  rest : ∀ s ∈ rest, w'.subscriptions.find? s.id = some s
  customers : w'.customers = w.customers

/-- How a webhook that fails leaves a trial that began in a world. -/
inductive Interruption (terms : Terms) (webhook : Webhook) (w : World) (failure : Failure)
    (t : Trial World) : Prop
  /-- A lookup failed, or the first subscription could not be saved. -/
  | unprepared (c : Call) (hcall : c.Preparing) (hstopped : t.journal.StoppedBy c failure)
      (huntouched : t.Untouched w)
  /-- The paid period would end out of range.  No call failed; the customer was
  looked for, and that was the last call. -/
  | outOfRange (providerId : String) (htype : webhook.type = Routes.invoicePaidType)
      (hend : w.clock.addDays? terms.periodDays.toNat = none)
      (hfailure : failure = terms.outOfRange)
      (hjournal : t.journal = [(.findLinkedCustomer providerId, none)])
      (huntouched : t.Untouched w)
  /-- The next subscription could not be updated. -/
  | blocked (front : List (Subscription × Subscription)) (s : Subscription)
      (rest : List Subscription) (hprogress : Progress terms webhook w front (s :: rest) t.state)
      (hstopped : t.journal.StoppedBy (.modifySubscription s.id) failure)
      (haccepted : Announced front t.journal.accepted)
      (hhanded : t.journal.handed = t.journal.accepted)
  /-- A subscription was updated, and the publisher refused the announcement. -/
  | unheard (front : List (Subscription × Subscription)) (s s' : Subscription)
      (rest : List Subscription) (e : Envelope)
      (hprogress : Progress terms webhook w (front ++ [(s, s')]) rest t.state)
      (hstopped : t.journal.StoppedBy (.publish e) failure)
      (haccepted : Announced front t.journal.accepted)
      (hchanged : s.status ≠ s'.status) (hannounces : s.Announces s' e)
      (hhanded : t.journal.handed = t.journal.accepted ++ [e])

/-- A front of the customer's subscriptions that was updated, in stores that were
untouched before, is the progress of the webhook as far as it got. -/
theorem Updated.progress {terms : Terms} {webhook : Webhook} {w w₁ w₂ : World} {update : Update}
    {front : List (Subscription × Subscription)} (h : Updated update w₁ front w₂)
    (happlies : Webhook.Applies terms w webhook.type update)
    (hsubscriptions : w₁.subscriptions = w.subscriptions) (hcustomers : w₁.customers = w.customers)
    {customer : Customer} (hknown : CustomerStore.ofBody? w.customers webhook.data = some customer)
    {rest : List Subscription} (hlisted :
      SubscriptionStore.ofCustomer w.subscriptions customer.id = front.map Prod.fst ++ rest)
    (hrest : ∀ s ∈ rest, w₂.subscriptions.find? s.id = some s) :
    Progress terms webhook w front rest w₂ := by
  refine ⟨⟨customer, hknown, hlisted⟩, ⟨update, happlies, h.makes⟩, ?_, hrest,
    h.customers.trans hcustomers⟩
  rw [← hsubscriptions]
  exact h.store

namespace Trial

variable {terms : Terms} {webhook : Webhook} {w : World} {plan : Plan} {failure : Failure}

/-- Where a pass did not fail until now, no call of the journal failed, the publisher
accepted all that it was handed, and that is one announcement for each change, in order.
-/
theorem Passed.accepted {update : Update} {t t' : Trial World}
    {pairs : List (Subscription × Subscription)} (h : Passed update t pairs t')
    (hsmooth : t.journal.Smooth) (hquiet : t.journal.handed = []) :
    t'.journal.Smooth ∧ t'.journal.handed = t'.journal.accepted ∧
      Announced pairs t'.journal.accepted := by
  obtain ⟨new, hnew, hnewSmooth, hannounced⟩ := h.journal
  have hall : t'.journal.Smooth := hnew ▸ hsmooth.append hnewSmooth
  have hhanded : t'.journal.handed = new.handed := by
    rw [hnew, Journal.handed_append, hquiet, List.nil_append]
  refine ⟨hall, hall.accepted_eq.symm, ?_⟩
  rw [hall.accepted_eq, hhanded]
  exact hannounced

/-- A pass over the customer's subscriptions that breaks off after an update. -/
theorem interruption_of_unheard {customer : Customer} {update : Update} {t t' : Trial World}
    {front : List (Subscription × Subscription)} {s s' : Subscription}
    {rest : List Subscription} {tr : Transition}
    (hknown : CustomerStore.ofBody? w.customers webhook.data = some customer)
    (happlies : Webhook.Applies terms w webhook.type update) (hstores : t.Untouched w)
    (hpassed : Passed update t front t')
    (hlisted : SubscriptionStore.ofCustomer w.subscriptions customer.id =
      front.map Prod.fst ++ s :: rest)
    (hstored : ∀ s₂ ∈ front.map Prod.fst ++ s :: rest,
      t.state.subscriptions.find? s₂.id = some s₂)
    (hnodup : ((front.map Prod.fst ++ s :: rest).map Subscription.id).Nodup)
    (hsmooth : t.journal.Smooth) (hupdate : update t'.state.clock s = .ok (tr, s'))
    (hchanged : tr.changed = true) :
    Interruption terms webhook w failure
      ((t'.rewritten s.id s').handing (tr, s') (some failure)) := by
  obtain ⟨hsmooth', hhanded, haccepted⟩ := hpassed.accepted hsmooth hstores.handed
  have hmoves := happlies.sound _ _ _ _ hupdate
  have hrest := hpassed.toUpdated.stored happlies.sound
    (fun s₂ hs₂ => hstored s₂ (List.mem_append_right _ hs₂)) hnodup
  have hupdated := updated_handing (hrest s List.mem_cons_self) hupdate hmoves (some failure)
  -- The subscription whose announcement was refused counts as updated.
  have hsplit : front.map Prod.fst ++ s :: rest =
      (front ++ [(s, s')]).map Prod.fst ++ rest := by
    simp
  rw [hsplit] at hstored hnodup hlisted
  have hfront := hpassed.toUpdated.append hupdated happlies.sound
    (((List.sublist_append_left _ _).map _).nodup hnodup)
  have hrest' := hfront.stored happlies.sound
    (fun s₂ hs₂ => hstored s₂ (List.mem_append_right _ hs₂)) hnodup
  refine .unheard front s s' rest (announcement (t'.rewritten s.id s').state (tr, s')) ?_
    ⟨t'.journal ++ [(.modifySubscription s.id, none)],
      hsmooth'.append (Journal.smooth_singleton _), journal_handing _ _ _ _ _⟩ ?_
    (hmoves.changed_iff.mp hchanged) (announces_announcement _ hmoves) ?_
  · exact hfront.progress happlies hstores.subscriptions hstores.customers hknown hlisted hrest'
  · rwa [accepted_handing]
  · rw [handed_handing, accepted_handing, hhanded]

/-- A pass over the customer's subscriptions that fails. The turns before the one that
failed are the front, and that one was blocked, or was updated and not heard of. -/
theorem interruption_of_pass (hkeyed : SubscriptionStore.Keyed w.subscriptions)
    {customer : Customer} {update : Update}
    (hknown : CustomerStore.ofBody? w.customers webhook.data = some customer)
    (happlies : Webhook.Applies terms w webhook.type update) {t : Trial World}
    (hstores : t.Untouched w) (hsmooth : t.journal.Smooth) :
    let r := pass plan update
      ((SubscriptionStore.ofCustomer w.subscriptions customer.id).map Subscription.id) t
    r.1 = .error failure → Interruption terms webhook w failure r.2 := by
  intro r herror
  have hnodup := SubscriptionStore.nodup_ofCustomer hkeyed customer.id
  have hstored : ∀ s ∈ SubscriptionStore.ofCustomer w.subscriptions customer.id,
      t.state.subscriptions.find? s.id = some s := by
    rw [hstores.subscriptions]
    exact fun s hs => (SubscriptionStore.mem_ofCustomer hkeyed hs).1
  rcases pass_cases plan happlies.sound happlies.total hstored hnodup with
    ⟨pairs, -, hok, -⟩ | ⟨front, s, rest, failure', t', hlisted, herror', hpassed, hbroken⟩
  · cases herror.symm.trans hok
  · cases herror.symm.trans herror'
    obtain ⟨hsmooth', hhanded, haccepted⟩ := hpassed.accepted hsmooth hstores.handed
    rw [hlisted] at hstored hnodup
    have hrest := hpassed.toUpdated.stored happlies.sound
      (fun s₂ hs₂ => hstored s₂ (List.mem_append_right _ hs₂)) hnodup
    have hbroken' : Broken plan update t' s failure r.2 := hbroken
    generalize r.2 = t'' at hbroken' ⊢
    cases hbroken' with
    | blocked hcall =>
        refine .blocked front s rest ?_ ⟨t'.journal, hsmooth', rfl⟩ ?_ ?_
        · exact hpassed.toUpdated.progress happlies hstores.subscriptions hstores.customers hknown
            hlisted hrest
        · rw [journal_noted, Journal.accepted_append]
          exact (List.append_nil _).symm ▸ haccepted
        · rw [journal_noted, Journal.accepted_append, Journal.handed_append, hhanded]
          rfl
    | unheard s' tr hupdate hchanged hanswer =>
        exact interruption_of_unheard hknown happlies hstores hpassed hlisted hstored hnodup
          hsmooth hupdate hchanged

/-- Everything that can go wrong before a subscription is written. -/
theorem unprepared_noted {t : Trial World} (hstores : t.Untouched w) (hsmooth : t.journal.Smooth)
    {c : Call} (hcall : c.Preparing) :
    Interruption terms webhook w failure (t.noted c (some failure)) := by
  refine .unprepared c hcall ⟨t.journal, hsmooth, rfl⟩
    ⟨hstores.customers, hstores.subscriptions, ?_⟩
  rw [journal_noted, Journal.handed_append, hstores.handed]
  cases hcall <;> rfl

/-- A first subscription that could not be saved: the stores are as before, and the save
is the call that failed. -/
theorem interruption_of_save {t : Trial World} (hstores : t.Untouched w)
    (hsmooth : t.journal.Smooth) {s : Subscription}
    (herror : (save plan t s).1 = .error failure) :
    Interruption terms webhook w failure (save plan t s).2 := by
  unfold save at herror ⊢
  cases hsave : plan t.journal (.saveSubscription s) with
  | none =>
      rw [hsave] at herror
      cases herror
  | some failure' =>
      rw [hsave] at herror
      cases herror
      exact unprepared_noted hstores hsmooth (.save s)

/-- The listing was let through, and nothing was written yet. -/
theorem Untouched.listing {t : Trial World} (h : t.Untouched w) (customer : Customer) :
    (t.listing customer).Untouched w := by
  refine ⟨h.customers, h.subscriptions, ?_⟩
  rw [Trial.listing, journal_noted, Journal.handed_append, h.handed]
  rfl

/-- The end of a subscription at the provider that fails: the listing failed, and
nothing was written, or the pass over it did. -/
theorem interruption_of_cancellation (hkeyed : SubscriptionStore.Keyed w.subscriptions)
    (htype : webhook.type = Routes.subscriptionDeletedType) {customer : Customer}
    (hknown : CustomerStore.ofBody? w.customers webhook.data = some customer) {t : Trial World}
    (hstores : t.Untouched w) (hsmooth : t.journal.Smooth)
    (herror : (cancellation plan customer t).1 = .error failure) :
    Interruption terms webhook w failure (cancellation plan customer t).2 := by
  unfold cancellation at herror ⊢
  cases hcall : plan t.journal (.listSubscriptions customer.id) with
  | some failure' =>
      rw [hcall] at herror
      cases herror
      exact unprepared_noted hstores hsmooth (.list customer.id)
  | none =>
      rw [hcall] at herror
      dsimp only at herror ⊢
      rw [hstores.subscriptions] at herror ⊢
      exact interruption_of_pass hkeyed hknown (.cancellation htype) (hstores.listing customer)
        (hsmooth.append (Journal.smooth_singleton _)) herror

/-- A paid invoice that fails: the period would end out of range, the listing failed,
the first subscription could not be saved, or the pass failed. -/
theorem interruption_of_renewal (hkeyed : SubscriptionStore.Keyed w.subscriptions)
    (htype : webhook.type = Routes.invoicePaidType) {customer : Customer}
    (hknown : CustomerStore.ofBody? w.customers webhook.data = some customer) {t : Trial World}
    (hstores : t.Untouched w) (hlooked : t.journal = Journal.lookup webhook.data)
    (herror : (renewal plan terms webhook.data customer (terms.periodEnd w.clock) t).1 =
      .error failure) :
    Interruption terms webhook w failure
      (renewal plan terms webhook.data customer (terms.periodEnd w.clock) t).2 := by
  cases hend : w.clock.addDays? terms.periodDays.toNat with
  | none =>
      rw [Terms.periodEnd_of_none hend] at herror ⊢
      cases herror
      obtain ⟨providerId, hreference⟩ := CustomerStore.reference_of_ofBody? hknown
      have hjournal := hlooked.trans (Journal.lookup_of_reference hreference)
      exact .outOfRange providerId htype hend rfl hjournal hstores
  | some periodEnd =>
      rw [Terms.periodEnd_of_some hend, renewal] at herror ⊢
      have hlisting := hstores.listing customer
      have hsmooth : t.journal.Smooth := hlooked ▸ Journal.smooth_lookup webhook.data
      have hsmooth' : (t.listing customer).journal.Smooth :=
        hsmooth.append (Journal.smooth_singleton _)
      cases hcall : plan t.journal (.listSubscriptions customer.id) with
      | some failure' =>
          rw [hcall] at herror
          cases herror
          exact unprepared_noted hstores hsmooth (.list customer.id)
      | none =>
          rw [hcall] at herror
          dsimp only at herror ⊢
          rw [hstores.subscriptions] at herror ⊢
          cases hlisted : SubscriptionStore.ofCustomer w.subscriptions customer.id with
          | nil =>
              rw [hlisted] at herror
              exact interruption_of_save (t := (t.listing customer).drawn.ticked)
                ⟨hlisting.customers, hlisting.subscriptions, hlisting.handed⟩ hsmooth' herror
          | cons s rest =>
              rw [hlisted] at herror
              dsimp only at herror ⊢
              rw [← hlisted] at herror ⊢
              exact interruption_of_pass hkeyed hknown (.renewal periodEnd htype hend) hlisting
                hsmooth' herror

/-- A service that works for the customer of a webhook leaves what its work for
the customer leaves, which begins right behind the lookup, or the lookup failed. -/
theorem interruption_of_forCustomer {H : Type} {type : String} {work : Customer → Service H Unit}
    (hwork : ∀ customer, CustomerStore.ofBody? w.customers webhook.data = some customer →
      (run plan (work customer) ⟨w, Journal.lookup webhook.data⟩).1 = .error failure →
      Interruption terms webhook w failure
        (run plan (work customer) ⟨w, Journal.lookup webhook.data⟩).2)
    (herror : (run plan (Routes.forCustomer webhook.data type work) (.new w)).1 = .error failure) :
    Interruption terms webhook w failure
      (run plan (Routes.forCustomer webhook.data type work) (.new w)).2 := by
  rcases forCustomer_lookup plan webhook.data type work (.new w) with
    ⟨providerId, failure', hcall, hrun⟩ | hrun
  · rw [hrun] at herror ⊢
    cases herror
    exact unprepared_noted (t := .new w) ⟨rfl, rfl, rfl⟩ Journal.smooth_nil (.find providerId)
  · have hstart : (Trial.new w).state = w := rfl
    rw [hstart] at hrun
    rw [hrun] at herror ⊢
    cases hknown : CustomerStore.ofBody? w.customers webhook.data with
    | none =>
        rw [hknown] at herror
        cases herror
    | some customer =>
        rw [hknown] at herror
        exact hwork customer hknown herror

/-- A webhook of one of the two types that comes back with an error has a service
that failed, and what this left is one of the interruptions. -/
theorem interruption_of_receive {H : Type} (plan : Plan) (terms : Terms)
    (hkeyed : SubscriptionStore.Keyed w.subscriptions) {payload : String}
    (hparse : Webhook.parse payload = .ok webhook)
    (htype : webhook.type = Routes.invoicePaidType ∨
      webhook.type = Routes.subscriptionDeletedType) {error : WebhookError} :
    let r := run plan (Intake.receive ⟨Routes.standard terms⟩ payload :
      ExceptT WebhookError (Activity H World) Intake.Receipt) (.new w)
    r.1 = .error error →
      ∃ failure, error = .failed failure ∧ Interruption terms webhook w failure r.2 := by
  intro r herror
  have hreceive : r = _ := run_receive plan (.new w) hparse terms
  rw [hreceive] at herror ⊢
  dsimp only at herror ⊢
  obtain ⟨failure, hfailure, hservice⟩ : ∃ failure, error = .failed failure ∧
      (run plan (Routes.service terms webhook.type webhook.data : Service H Unit)
        (.new w)).1 = .error failure := by
    generalize (run plan (Routes.service terms webhook.type webhook.data : Service H Unit)
      (.new w)).1 = result at herror ⊢
    cases result with
    | ok u => cases herror
    | error failure => exact ⟨failure, (Except.error.inj herror).symm, rfl⟩
  refine ⟨failure, hfailure, ?_⟩
  rcases htype with hpaid | hdeleted
  · rw [Routes.service, if_pos hpaid] at hservice ⊢
    refine interruption_of_forCustomer ?_ hservice
    intro customer hknown herror
    rw [run_renewAll] at herror ⊢
    exact interruption_of_renewal hkeyed hpaid hknown
      ⟨rfl, rfl, Journal.handed_lookup webhook.data⟩ rfl herror
  · have hother : webhook.type ≠ Routes.invoicePaidType := by
      rw [hdeleted]
      decide
    rw [Routes.service, if_neg hother, if_pos hdeleted] at hservice ⊢
    refine interruption_of_forCustomer ?_ hservice
    intro customer hknown herror
    rw [run_cancelAll] at herror ⊢
    exact interruption_of_cancellation hkeyed hdeleted hknown
      ⟨rfl, rfl, Journal.handed_lookup webhook.data⟩ (Journal.smooth_lookup webhook.data) herror

end Trial

/-- **What an interrupted webhook leaves behind.**  Over keyed stores, whatever
calls fail, a webhook about a paid invoice or a deleted subscription that comes
back with an error comes back with a failure of its service, and leaves one of
the listed interruptions. -/
theorem receive_interrupted {H : Type} (plan : Plan) (terms : Terms) {w : World}
    (hkeyed : SubscriptionStore.Keyed w.subscriptions) {payload : String} {webhook : Webhook}
    (hparse : Webhook.parse payload = .ok webhook)
    (htype : webhook.type = Routes.invoicePaidType ∨
      webhook.type = Routes.subscriptionDeletedType) {error : WebhookError} :
    let r := Trial.run plan (Intake.receive ⟨Routes.standard terms⟩ payload :
      ExceptT WebhookError (Activity H World) Intake.Receipt) (.new w)
    r.1 = .error error →
      ∃ failure, error = .failed failure ∧ Interruption terms webhook w failure r.2 :=
  Trial.interruption_of_receive plan terms hkeyed hparse htype

set_option maxRecDepth 4000 in
/-- The publisher is down when it comes to the second announcement. -/
theorem receive_interrupted_failing :
    SubscriptionStore.Keyed Sample.world.subscriptions ∧
      Webhook.parse Sample.paid = .ok ⟨"evt_1", Routes.invoicePaidType, Sample.data⟩ ∧
      let r := Trial.run (.ofPublisher Sample.failing)
        (Intake.receive ⟨Routes.standard default⟩ Sample.paid :
          ExceptT WebhookError (Activity Unit World) Intake.Receipt) (.new Sample.world)
      r.1 = .error (.failed (.new .internalError "down")) ∧
        ∃ failure, WebhookError.failed (.new .internalError "down") = .failed failure ∧
          Interruption default ⟨"evt_1", Routes.invoicePaidType, Sample.data⟩ Sample.world failure
            r.2 := by
  have hkeyed : SubscriptionStore.Keyed Sample.world.subscriptions :=
    SubscriptionStore.keyed_iff_saved.mpr ⟨Sample.subscriptions, rfl⟩
  refine ⟨hkeyed, Sample.parse_paid, ?_⟩
  intro r
  have herror : r.1 = .error (.failed (.new .internalError "down")) := by
    have hreceive : r = _ :=
      Trial.run_receive (.ofPublisher Sample.failing) (.new Sample.world) Sample.parse_paid default
    rw [hreceive]
    rfl
  exact ⟨herror, receive_interrupted (.ofPublisher Sample.failing) default hkeyed Sample.parse_paid
    (.inl rfl) herror⟩

namespace Sample

/-- A paid invoice that is identified twice. -/
def doubled : String :=
  "\x7b\"id\":\"evt_1\",\"id\":\"evt_1\",\"type\":\"invoice.paid\",\"data\":\x7b\"object\":" ++
    "\x7b\"customer\":\"cus_1\"\x7d\x7d\x7d"

/-- The statuses of the customer's subscriptions, in the order of the listing. -/
def statuses (w : World) : List Status :=
  (SubscriptionStore.ofCustomer w.subscriptions customer.id).map Subscription.status

set_option maxRecDepth 8000 in
/-- The second subscription stands under its own identifier and is renewed; the one
before it does not, and was looked for under the identifier that it has. -/
theorem uninterrupted_astray :
    ((uninterrupted paid astray).1, statuses (uninterrupted paid astray).2.state) =
      (.error (.failed (SubscriptionStore.missing ⟨.ofNat 9⟩)), [.pastDue, .active, .pastDue]) := by
  simp only [uninterrupted, Trial.run_receive _ _ parse_paid]
  cbv

/-- A body with a member twice is not read. -/
theorem parse_doubled : ∃ why, Webhook.parse doubled = .error (.unreadable why) := by
  have hfails : (Webhook.schema.parse doubled).isOk = false := by cbv
  rw [Webhook.parse]
  cases hparse : Webhook.schema.parse doubled with
  | error fault => exact ⟨_, rfl⟩
  | ok webhook =>
      rw [hparse] at hfails
      cases hfails

end Sample

/-- Where a subscription does not stand under its own identifier, a webhook can break
off with another one updated than the first, and no call was made to fail.  And a
payload may name one of the two types and not be read. -/
theorem front_skipped_by_interruption :
    (Webhook.parse Sample.paid = .ok ⟨"evt_1", Routes.invoicePaidType, Sample.data⟩ ∧
      (Sample.uninterrupted Sample.paid Sample.astray).1 =
        .error (.failed (SubscriptionStore.missing ⟨.ofNat 9⟩)) ∧
      Sample.statuses Sample.astray = [.pastDue, .pastDue, .pastDue] ∧
      Sample.statuses (Sample.uninterrupted Sample.paid Sample.astray).2.state =
        [.pastDue, .active, .pastDue]) ∧
    ∃ error, (Sample.uninterrupted Sample.doubled Sample.world).1 = .error error ∧
      ∀ failure, error ≠ .failed failure := by
  have hastray := Sample.uninterrupted_astray
  simp only [Prod.mk.injEq] at hastray
  obtain ⟨why, hparse⟩ := Sample.parse_doubled
  have hunread : (Sample.uninterrupted Sample.doubled Sample.world).1 =
      .error (.unreadable why) := by
    rw [Sample.uninterrupted, Trial.run_receive_unread _ _ _ hparse]
  exact ⟨⟨Sample.parse_paid, hastray.1, by decide, hastray.2⟩, _, hunread, nofun⟩

end SubscriptionBilling
