import SubscriptionBilling.Proofs.Redelivery
/-!
# Webhooks that are refused for good

The provider does not deliver a webhook again if its error cannot be retried, and
whether it can be is told from the code of the error alone.  It does not follow
that nothing was done.  An error of any code comes back from the call that met
it, and by then other subscriptions may have been written, or this one, if it was
the publisher who refused to hear of it (`rewritten_of_refused`).

`receive_refused` says that this is all there is to it.  No customer is written,
and no subscription is new or gone.  If a subscription is written nevertheless,
then the error is what the last call of the delivery failed with, an update or an
announcement, and every other call was let through (`Trial.EndsAt`); and each
subscription that was written had been asked for (`Trial.Accounted`).  Reading and
looking up, the end of the paid period and the saving of a first subscription
fail before anything is written.
-/

namespace SubscriptionBilling

namespace Trial

/-! ## Subscriptions are written when they are asked for -/

/-- Subscriptions may have been written over, those of which the journal has an
update that was let through. -/
structure Accounted (t t' : Trial World) : Prop where
  customers : t'.state.customers = t.state.customers
  keys : t'.state.subscriptions.keys = t.state.subscriptions.keys
  journal : t.journal <+: t'.journal
  called : ∀ id, t'.state.subscriptions.find? id ≠ t.state.subscriptions.find? id →
    (.modifySubscription id, none) ∈ t'.journal

/-- The stores are as they were. -/
structure Unwritten (t t' : Trial World) : Prop where
  customers : t'.state.customers = t.state.customers
  subscriptions : t'.state.subscriptions = t.state.subscriptions
  journal : t.journal <+: t'.journal

variable {plan : Plan} {t t' t'' : Trial World}

theorem unwritten_noted (t : Trial World) (c : Call) (answer : Option Failure) :
    Unwritten t (t.noted c answer) :=
  ⟨rfl, rfl, List.prefix_append _ _⟩

/-- Where nothing was written there is nothing to account for. -/
theorem Unwritten.accounted (h : Unwritten t t') : Accounted t t' := by
  refine ⟨h.customers, congrArg OrderedMap.keys h.subscriptions, h.journal, ?_⟩
  intro id hchanged
  exact absurd (congrArg (OrderedMap.find? · id) h.subscriptions) hchanged

theorem accounted_refl (t : Trial World) : Accounted t t :=
  Unwritten.accounted ⟨rfl, rfl, List.prefix_refl _⟩

/-- What is accounted for on two stretches is accounted for on both together, by the
calls of the one or of the other. -/
theorem Accounted.trans (h : Accounted t t') (h' : Accounted t' t'') : Accounted t t'' := by
  refine ⟨h'.customers.trans h.customers, h'.keys.trans h.keys, h.journal.trans h'.journal, ?_⟩
  intro id hchanged
  by_cases hlater : t''.state.subscriptions.find? id = t'.state.subscriptions.find? id
  · have hearlier : (.modifySubscription id, none) ∈ t'.journal := by
      refine h.called id ?_
      rwa [← hlater]
    exact h'.journal.subset hearlier
  · exact h'.called id hlater

/-- The update of a subscription was let through, and wrote it. -/
theorem accounted_rewritten {id : SubscriptionId} {s : Subscription}
    (hfind : t.state.subscriptions.find? id = some s) (s' : Subscription) :
    Accounted t (t.rewritten id s') := by
  refine ⟨rfl, OrderedMap.keys_set_of_find? hfind s', List.prefix_append _ _, ?_⟩
  intro other hchanged
  have hwritten : (t.rewritten id s').state.subscriptions.find? other =
      if id = other then some s' else t.state.subscriptions.find? other :=
    OrderedMap.find?_set _ id other s'
  rw [hwritten] at hchanged
  by_cases hid : id = other
  · subst hid
    exact List.mem_append_right _ List.mem_cons_self
  · rw [if_neg hid] at hchanged
    exact absurd rfl hchanged

/-- A turn accounts for what it writes: the call of the modification stands in the
journal, and it succeeded. -/
theorem accounted_turn (plan : Plan) (update : Update) (id : SubscriptionId) (t : Trial World) :
    Accounted t (turn plan update id t).2 := by
  have hturn := turn_cases plan update id t
  generalize turn plan update id t = x at hturn ⊢
  obtain ⟨result, t'⟩ := x
  dsimp only at hturn ⊢
  cases hturn with
  | blocked failure => exact (unwritten_noted t _ _).accounted
  | missing => exact Unwritten.accounted ⟨rfl, rfl, List.prefix_append _ _⟩
  | refused => exact Unwritten.accounted ⟨rfl, rfl, List.prefix_append _ _⟩
  | silent s s' tr hcall hfind => exact accounted_rewritten hfind s'
  | answered s s' tr answer hcall hfind =>
      have hheard : Unwritten (t.rewritten id s') ((t.rewritten id s').handing (tr, s') answer) :=
        ⟨rfl, rfl, List.prefix_append _ _⟩
      exact (accounted_rewritten hfind s').trans hheard.accounted

/-! ## The call that failed -/

/-- What the last call of a delivery failed with: it was an update or an
announcement that was not let through, or an update of what is not stored. -/
inductive EndsAt (failure : Failure) (w : World) : Call × Option Failure → Prop
  | blocked (id : SubscriptionId) : EndsAt failure w (.modifySubscription id, some failure)
  | missing (id : SubscriptionId) (hfind : w.subscriptions.find? id = none)
      (hfailure : failure = SubscriptionStore.missing id) :
      EndsAt failure w (.modifySubscription id, none)
  | unheard (e : Envelope) : EndsAt failure w (.publish e, some failure)

/-- The journal ends with the call that failed. -/
def Ended (failure : Failure) (t : Trial World) : Prop :=
  ∃ front last, t.journal = front ++ [last] ∧ EndsAt failure t.state last

/-- A turn that fails ends at its own last call, which is a modification or a
publication. -/
theorem ended_turn {update : Update} (htotal : update.Total) {id : SubscriptionId}
    {failure : Failure} (herror : (turn plan update id t).1 = .error failure) :
    Ended failure (turn plan update id t).2 := by
  have hturn := turn_cases plan update id t
  generalize turn plan update id t = x at hturn herror ⊢
  obtain ⟨result, t'⟩ := x
  dsimp only at hturn herror ⊢
  cases hturn with
  | blocked =>
      cases herror
      exact ⟨_, _, rfl, .blocked id⟩
  | missing hcall hfind =>
      cases herror
      exact ⟨_, _, rfl, .missing id hfind rfl⟩
  | refused s _ hcall hfind hupdate =>
      obtain ⟨r, hr⟩ := htotal t.state.clock s
      cases hr.symm.trans hupdate
  | silent => cases herror
  | answered s s' tr answer =>
      cases answer with
      | none => cases herror
      | some refusal =>
          cases herror
          exact ⟨_, _, journal_handing t id s' (tr, s') (some failure), .unheard _⟩

/-- A pass that fails ends where the turn did that failed. -/
theorem ended_pass {update : Update} (htotal : update.Total) {failure : Failure}
    (ids : List SubscriptionId) {t : Trial World}
    (herror : (pass plan update ids t).1 = .error failure) :
    Ended failure (pass plan update ids t).2 := by
  induction ids generalizing t with
  | nil => cases herror
  | cons id rest ih =>
      have hfirst := @ended_turn plan t update htotal id failure
      rw [pass] at herror ⊢
      generalize turn plan update id t = x at hfirst herror ⊢
      obtain ⟨result, t'⟩ := x
      cases result with
      | ok r => exact ih herror
      | error refusal =>
          cases herror
          exact hfirst rfl

/-! ## Up to the whole delivery -/

/-- What a failure leaves behind: nothing is written, or the last call met it. -/
def Leaves {α : Type} (t : Trial World) (r : Except Failure α × Trial World) : Prop :=
  ∀ failure, r.1 = .error failure → Unwritten t r.2 ∨ Accounted t r.2 ∧ Ended failure r.2

/-- What wrote nothing leaves everything, however it ended. -/
theorem Unwritten.leaves {α : Type} {result : Except Failure α} (h : Unwritten t t') :
    Leaves t (result, t') :=
  fun _ _ => .inl h

/-- What was left alone before matters to nobody: what the later part accounts for, both
parts together account for. -/
theorem Leaves.after {α : Type} {r : Except Failure α × Trial World} (h : Leaves t' r)
    (hbefore : Unwritten t t') : Leaves t r := by
  intro failure herror
  rcases h failure herror with hnothing | ⟨haccounted, hended⟩
  · exact .inl ⟨hnothing.customers.trans hbefore.customers,
      hnothing.subscriptions.trans hbefore.subscriptions, hbefore.journal.trans hnothing.journal⟩
  · exact .inr ⟨hbefore.accounted.trans haccounted, hended⟩

/-- What a pass leaves: everything written is accounted for, and a failure is that of
its last call. -/
theorem leaves_pass {update : Update} (htotal : update.Total) (ids : List SubscriptionId)
    (t : Trial World) : Leaves t (pass plan update ids t) := by
  intro failure herror
  have haccounted := related_pass Accounted accounted_refl (fun h h' => h.trans h')
    (fun id (_ : id ∈ ids) t => accounted_turn plan update id t) t
  exact .inr ⟨haccounted, ended_pass htotal ids herror⟩

/-- A save that fails saves nothing, and one that succeeds leaves no failure to speak
of. -/
theorem leaves_save (plan : Plan) (t : Trial World) (s : Subscription) :
    Leaves t (save plan t s) := by
  rw [save]
  cases plan t.journal (.saveSubscription s) with
  | some failure => exact (unwritten_noted t _ _).leaves
  | none =>
      intro failure herror
      cases herror

/-- What a paid invoice leaves. Up to the listing nothing is written, also where the
period would end out of range; behind it there is the save of a first subscription or a
pass. -/
theorem leaves_renewal (plan : Plan) (terms : Terms) (data : Json) (customer : Customer)
    (period : Except Failure Instant) (t : Trial World) :
    Leaves t (renewal plan terms data customer period t) := by
  unfold renewal
  cases period with
  | error failure => exact Unwritten.leaves ⟨rfl, rfl, List.prefix_refl _⟩
  | ok periodEnd =>
    cases plan t.journal (.listSubscriptions customer.id) with
    | some failure => exact (unwritten_noted t _ _).leaves
    | none =>
      have hlisting : Unwritten t (t.listing customer) := unwritten_noted t _ none
      dsimp only
      cases SubscriptionStore.ofCustomer t.state.subscriptions customer.id with
      | nil =>
          have hdrawn : Unwritten t (t.listing customer).drawn.ticked :=
            ⟨rfl, rfl, hlisting.journal⟩
          exact (leaves_save plan _ _).after hdrawn
      | cons s rest =>
          exact (leaves_pass (Update.renewal_total periodEnd) _ _).after hlisting

/-- What the end of a subscription at the provider leaves: a listing writes nothing, and
the rest is a pass. -/
theorem leaves_cancellation (plan : Plan) (customer : Customer) (t : Trial World) :
    Leaves t (cancellation plan customer t) := by
  unfold cancellation
  cases plan t.journal (.listSubscriptions customer.id) with
  | some failure => exact (unwritten_noted t _ _).leaves
  | none =>
      exact (leaves_pass Update.cancellation_total _ _).after (unwritten_noted t _ none)

variable {H : Type}

/-- Looking for the customer of a body writes nothing, and what is left behind it is
what the work for the customer leaves. -/
theorem leaves_forCustomer {work : Customer → Service H Unit}
    (hwork : ∀ customer t, Leaves t (run plan (work customer) t)) (data : Json) (type : String)
    (t : Trial World) : Leaves t (run plan (Routes.forCustomer data type work) t) := by
  rcases forCustomer_cases plan data type work t with
    ⟨providerId, failure, -, hrun⟩ | ⟨new, -, -, hrun⟩
  · rw [hrun]
    exact (unwritten_noted t _ _).leaves
  · have hlooked : Unwritten t ⟨t.state, t.journal ++ new⟩ := ⟨rfl, rfl, List.prefix_append _ _⟩
    rw [hrun]
    cases CustomerStore.ofBody? t.state.customers data with
    | none => exact hlooked.leaves
    | some customer => exact (hwork customer _).after hlooked

/-- Whichever service a webhook leads to, it leaves what is accounted for. -/
theorem leaves_service (plan : Plan) (terms : Terms) (type : String) (data : Json)
    (t : Trial World) :
    Leaves t (run plan (Routes.service terms type data : Service H Unit) t) := by
  unfold Routes.service
  split
  · refine leaves_forCustomer (fun customer t => ?_) data _ t
    rw [run_renewAll]
    exact (leaves_renewal plan terms data customer _ t.ticked).after
      ⟨rfl, rfl, List.prefix_refl _⟩
  · split
    · refine leaves_forCustomer (fun customer t => ?_) data _ t
      rw [run_cancelAll]
      exact leaves_cancellation plan customer t
    · exact Unwritten.leaves ⟨rfl, rfl, List.prefix_refl _⟩

/-- The calls before the last one were let through, where things went straight: a
failure before it would have been the last call itself. -/
theorem Straight.smooth_front {α : Type} {r : Except Failure α × Trial World} {w : World}
    (h : Straight (.new w) r) {front : Journal} {last : Call × Option Failure}
    (hjournal : r.2.journal = front ++ [last]) : front.Smooth := by
  obtain ⟨new, hnew, hend⟩ := h
  have hsame : front ++ [last] = new := hjournal.symm.trans hnew
  rcases hend with hsmooth | ⟨c, failure, ⟨front', hsmooth, rfl⟩, -⟩
  · exact fun entry hentry => hsmooth entry (hsame ▸ List.mem_append_left _ hentry)
  · exact (List.append_inj' hsame rfl).1 ▸ hsmooth

/-- A subscription that was written had been asked for before the last call. -/
theorem Accounted.called_before (h : Accounted t t') {failure : Failure} {front : Journal}
    {last : Call × Option Failure} (hjournal : t'.journal = front ++ [last])
    (hends : EndsAt failure t'.state last) {id : SubscriptionId}
    (hchanged : t'.state.subscriptions.find? id ≠ t.state.subscriptions.find? id) :
    (.modifySubscription id, none) ∈ front := by
  have hcalled := h.called id hchanged
  rw [hjournal, List.mem_append, List.mem_singleton] at hcalled
  rcases hcalled with hfront | hlast
  · exact hfront
  · -- What the last call did not find was not there before either.
    subst hlast
    cases hends with
    | missing _ hnone =>
        have hkey : id ∉ t.state.subscriptions.keys := by
          rw [← h.keys, OrderedMap.mem_keys_iff, hnone]
          simp
        have hbefore : t.state.subscriptions.find? id = none := by
          rw [OrderedMap.mem_keys_iff, ← Option.isSome_iff_exists] at hkey
          simpa using hkey
        exact absurd (hnone.trans hbefore.symm) hchanged

end Trial

/-- **Refused for good.**  A webhook comes back with an error that cannot be
retried.  No customer was written, and no subscription is new or gone.  Nor was
any subscription written, unless the error is what the last call failed with,
while all others were let through, and then only subscriptions that had been
asked for. -/
theorem receive_refused {H : Type} {plan : Plan} {terms : Terms} {payload : String} {w : World}
    {error : WebhookError} {t : Trial World}
    (hreceive : Trial.run plan (Intake.receive ⟨Routes.standard terms⟩ payload :
      ExceptT WebhookError (Activity H World) Intake.Receipt) (.new w) = (.error error, t))
    (hfinal : error.isRetryable = false) :
    t.state.customers = w.customers ∧ t.state.subscriptions.keys = w.subscriptions.keys ∧
      (t.state.subscriptions = w.subscriptions ∨
        ∃ failure front last, error = .failed failure ∧
          failure.code ≠ .databaseError ∧ failure.code ≠ .internalError ∧
          t.journal = front ++ [last] ∧ Journal.Smooth front ∧ Trial.EndsAt failure t.state last ∧
          ∀ id, t.state.subscriptions.find? id ≠ w.subscriptions.find? id →
            (.modifySubscription id, none) ∈ front) := by
  cases hparse : Webhook.parse payload with
  | error unread =>
      rw [Trial.run_receive_unread plan _ _ hparse] at hreceive
      cases hreceive
      exact ⟨rfl, rfl, .inl rfl⟩
  | ok webhook =>
      rw [Trial.run_receive plan _ hparse] at hreceive
      have hleaves := Trial.leaves_service (H := H) plan terms webhook.type webhook.data (.new w)
      have hstraight :=
        Trial.straight_service (H := H) plan terms webhook.type webhook.data (.new w)
      generalize Trial.run plan (Routes.service terms webhook.type webhook.data : Service H Unit)
        (.new w) = r at hreceive hleaves hstraight
      obtain ⟨result, t'⟩ := r
      cases result with
      | ok a => cases hreceive
      | error failure =>
          cases hreceive
          have hcode : failure.code ≠ .databaseError ∧ failure.code ≠ .internalError := by
            simpa [WebhookError.isRetryable] using hfinal
          rcases hleaves failure rfl with hnothing | ⟨haccounted, front, last, hjournal, hends⟩
          · exact ⟨hnothing.customers, congrArg OrderedMap.keys hnothing.subscriptions,
              .inl hnothing.subscriptions⟩
          · refine ⟨haccounted.customers, haccounted.keys, .inr ⟨failure, front, last, rfl,
              hcode.1, hcode.2, hjournal, hstraight.smooth_front hjournal, hends, ?_⟩⟩
            intro id hchanged
            exact haccounted.called_before hjournal hends hchanged

namespace Sample

/-- A publisher that takes no event for a valid one. -/
def rejecting (_ : List Envelope) (_ : Envelope) : Option Failure :=
  some (.new .validationFailed "refused")

/-- The customer has paid, and nobody wants to hear of it. -/
def refusedPayment : Except WebhookError Intake.Receipt × Trial World :=
  Trial.run (.ofPublisher rejecting) (Intake.receive ⟨Routes.standard default⟩ paid :
    ExceptT WebhookError (Activity Empty World) Intake.Receipt) (.new world)

set_option maxRecDepth 8000 in
theorem result_refusedPayment :
    refusedPayment.1 = .error (.failed (.new .validationFailed "refused")) := by
  simp only [refusedPayment, run_paid]
  cbv

set_option maxRecDepth 8000 in
/-- The first of the customer's four subscriptions was past due. -/
theorem status_refusedPayment :
    (refusedPayment.2.state.subscriptions.find? ⟨.ofNat 2⟩).map Subscription.status =
      some .active := by
  simp only [refusedPayment, run_paid]
  cbv

end Sample

/-- The announcement of the first renewal is refused. -/
theorem receive_refused_unheard :
    ∃ t, Sample.refusedPayment = (.error (.failed (.new .validationFailed "refused")), t) ∧
      (WebhookError.failed (.new .validationFailed "refused")).isRetryable = false ∧
      t.state.customers = Sample.world.customers ∧
      ∃ front last, t.journal = front ++ [last] ∧ Journal.Smooth front ∧
        Trial.EndsAt (.new .validationFailed "refused") t.state last ∧
        (.modifySubscription ⟨.ofNat 2⟩, none) ∈ front := by
  have hreceive : Sample.refusedPayment =
      (.error (.failed (.new .validationFailed "refused")), Sample.refusedPayment.2) := by
    rw [← Sample.result_refusedPayment]
  have hfinal : (WebhookError.failed (.new .validationFailed "refused")).isRetryable = false := rfl
  have hbefore : (Sample.world.subscriptions.find? ⟨.ofNat 2⟩).map Subscription.status =
      some .pastDue := rfl
  have hstatus := Sample.status_refusedPayment
  generalize Sample.refusedPayment.2 = t at hreceive hstatus
  have hchanged : t.state.subscriptions.find? ⟨.ofNat 2⟩ ≠
      Sample.world.subscriptions.find? ⟨.ofNat 2⟩ := by
    intro hsame
    rw [hsame, hbefore] at hstatus
    cases hstatus
  obtain ⟨hcustomers, -, hkept | hwritten⟩ := receive_refused hreceive hfinal
  · rw [hkept] at hchanged
    exact absurd rfl hchanged
  · obtain ⟨failure, front, last, herror, -, -, hjournal, hsmooth, hends, hcalled⟩ := hwritten
    cases herror
    exact ⟨t, hreceive, hfinal, hcustomers, front, last, hjournal, hsmooth, hends,
      hcalled _ hchanged⟩

/-- A subscription is written by a delivery that the provider will not repeat. -/
theorem rewritten_of_refused :
    Sample.refusedPayment.1 = .error (.failed (.new .validationFailed "refused")) ∧
      (WebhookError.failed (.new .validationFailed "refused")).isRetryable = false ∧
      (Sample.world.subscriptions.find? ⟨.ofNat 2⟩).map Subscription.status = some .pastDue ∧
      (Sample.refusedPayment.2.state.subscriptions.find? ⟨.ofNat 2⟩).map Subscription.status =
        some .active :=
  ⟨Sample.result_refusedPayment, rfl, rfl, Sample.status_refusedPayment⟩

end SubscriptionBilling
