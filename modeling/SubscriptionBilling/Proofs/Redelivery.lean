import SubscriptionBilling.Proofs.History
import SubscriptionBilling.Proofs.Interruption
import SubscriptionBilling.Proofs.Repetition
/-!
# Redelivering a webhook that failed

A webhook that came back with an error is delivered again, and this time it
succeeds.  What the first delivery wrote stays written, and the second one finds
it done and announces nothing of it.  `changes_handed_of_redelivery` says that
no change of status is missed all the same: each one was handed to the publisher,
which accepted it in one of the two deliveries, or refused it in the first one,
as the last call that this delivery made and with the error that came back.
The announcement that was refused is lost (`change_lost`): where every subscription
stands under its own identifier, the second delivery announces nothing of it.

Three facts make this.  A subscription that is followed through the ledger has the
status that it had, or one that was announced (`Ledger.Reach.follow`); the calls of
a webhook are `Straight`: the first that fails is the last one; and whatever a
webhook announces is that a stored subscription comes to the one status to which
webhooks of its type lead, so that it has nothing to announce of a subscription
that is there already (`tells_of_receive`).
-/

namespace SubscriptionBilling

/-- The envelope announces that a subscription has come to a status. -/
def Envelope.LeadsTo (e : Envelope) (id : SubscriptionId) (status : Status) : Prop :=
  e.isStatusChangeOf id = true ∧ e.status? "to" = some status

/-- An announcement of a change says to which status the subscription has come. -/
theorem Subscription.Announces.leadsTo {s s' : Subscription} {e : Envelope}
    (h : s.Announces s' e) : e.LeadsTo s'.id s'.status := by
  refine ⟨?_, h.target⟩
  rw [Envelope.isStatusChangeOf, h.topic, h.aggregateId, beq_self_eq_true, beq_self_eq_true,
    Bool.and_true]

/-- An announcement about an identifier is of the subscription that has it. -/
theorem Subscription.Announces.id_of_about {s s' : Subscription} {e : Envelope}
    (h : s.Announces s' e) {id : SubscriptionId} (habout : e.isStatusChangeOf id = true) :
    s'.id = id := by
  rw [Envelope.isStatusChangeOf, Bool.and_eq_true, beq_iff_eq, beq_iff_eq] at habout
  exact SubscriptionId.text_injective (h.aggregateId.symm.trans habout.2)

/-! ## One subscription through the ledger -/

namespace Ledger

variable {uuids : Nat → Uuid} {l l' : Ledger} {id : SubscriptionId} {s : Subscription}

/-- What was handed to the publisher stays handed over, whatever step the ledger takes.
-/
theorem Step.handed_subset (h : Step uuids l l') : l.handed ⊆ l'.handed := by
  cases h with
  | drew => exact List.Subset.refl _
  | other => exact List.subset_append_left _ _
  | created => exact List.Subset.refl _
  | kept => exact List.Subset.refl _
  | changed => exact List.subset_append_left _ _

/-- The subscription that stands under an identifier has become another one: it
has the status that it had, or one that was announced. -/
def Followed (l : Ledger) (id : SubscriptionId) (s : Subscription) : Prop :=
  ∃ s', l.store.find? id = some s' ∧ s'.id = s.id ∧
    (s'.status = s.status ∨ ∃ e ∈ l.handed, e.LeadsTo s.id s'.status)

/-- A subscription that is found as it is has been followed. -/
theorem followed_of_find (hfind : l.store.find? id = some s) : l.Followed id s :=
  ⟨s, hfind, rfl, .inl rfl⟩

/-- **One step.**  The subscription is followed, unless its own identifier is
given to a new one. -/
theorem Step.follow (h : Step uuids l l')
    (hfresh : ∀ i, l.drawn ≤ i → i < l'.drawn → id ≠ ⟨uuids i⟩)
    (hfind : l.store.find? id = some s) : l'.Followed id s := by
  cases h with
  | drew => exact followed_of_find hfind
  | other e htopic => exact followed_of_find hfind
  | created new hid hstatus =>
      have hother : new.id ≠ id := by
        have hnew := hfresh l.drawn (Nat.le_refl _) (Nat.lt_succ_self _)
        rw [hid]
        exact hnew.symm
      refine followed_of_find ?_
      show (l.store.set new.id new).find? id = some s
      rw [OrderedMap.find?_set, if_neg hother]
      exact hfind
  | kept id' s₁ s₁' tr hfind' hmoves hsame =>
      by_cases hid : id' = id
      · subst hid
        cases hfind.symm.trans hfind'
        refine ⟨s₁', ?_, hmoves.id, .inl hsame.symm⟩
        rw [OrderedMap.find?_set, if_pos rfl]
      · refine followed_of_find ?_
        show (OrderedMap.set l.store id' s₁').find? id = some s
        rw [OrderedMap.find?_set, if_neg hid]
        exact hfind
  | changed id' s₁ s₁' tr e hfind' hmoves hchanged hannounces =>
      by_cases hid : id' = id
      · subst hid
        cases hfind.symm.trans hfind'
        have hleads : e.LeadsTo s.id s₁'.status := hmoves.id ▸ hannounces.leadsTo
        refine ⟨s₁', ?_, hmoves.id, .inr ⟨e, by simp, hleads⟩⟩
        rw [OrderedMap.find?_set, if_pos rfl]
      · refine followed_of_find ?_
        show (OrderedMap.set l.store id' s₁').find? id = some s
        rw [OrderedMap.find?_set, if_neg hid]
        exact hfind

/-- **Any number of steps.** The induction is on the steps: one that writes the
subscription keeps its status or announces the new one, and none takes its identifier
for another. -/
theorem Reach.follow (h : Reach uuids l l')
    (hfresh : ∀ i, l.drawn ≤ i → i < l'.drawn → id ≠ ⟨uuids i⟩)
    (hfind : l.store.find? id = some s) : l'.Followed id s := by
  induction h with
  | refl => exact followed_of_find hfind
  | @tail mid last hreach hstep ih =>
      obtain ⟨s₁, hfind₁, hid₁, hstatus₁⟩ :=
        ih fun i hstart hend => hfresh i hstart (hend.trans_le hstep.drawn_le)
      have hreached : l.drawn ≤ mid.drawn := Reach.drawn_le hreach
      obtain ⟨s₂, hfind₂, hid₂, hstatus₂⟩ :=
        hstep.follow (fun i hstart hend => hfresh i (hreached.trans hstart) hend) hfind₁
      refine ⟨s₂, hfind₂, hid₂.trans hid₁, ?_⟩
      -- A step that keeps the status leaves the last announcement standing.
      rcases hstatus₂ with hsame | ⟨e, he, hleads⟩
      · rw [hsame]
        exact hstatus₁.imp_right fun ⟨e, he, hleads⟩ => ⟨e, hstep.handed_subset he, hleads⟩
      · exact .inr ⟨e, he, hid₁ ▸ hleads⟩

end Ledger

/-! ## The first failure is the last call -/

/-- Of the events handed over until a call failed, the publisher accepted all but
the one that it refused. -/
theorem Journal.StoppedBy.accepted_or_eq {j : Journal} {c : Call} {failure : Failure}
    (h : j.StoppedBy c failure) {e : Envelope} (he : e ∈ j.handed) :
    e ∈ j.accepted ∨ c = .publish e := by
  obtain ⟨front, hsmooth, rfl⟩ := h
  rw [handed_append, List.mem_append] at he
  rw [accepted_append, List.mem_append, hsmooth.accepted_eq]
  rcases he with hfront | hlast
  · exact .inl (.inl hfront)
  · cases c with
    | publish e' => exact .inr (congrArg Call.publish (List.mem_singleton.mp hlast).symm)
    | _ => exact absurd hlast List.not_mem_nil

/-- There is one call only that stopped a journal, as it is the last one. -/
theorem Journal.StoppedBy.call_unique {j : Journal} {c c' : Call} {failure failure' : Failure}
    (h : j.StoppedBy c failure) (h' : j.StoppedBy c' failure') : c = c' := by
  obtain ⟨front, -, rfl⟩ := h
  obtain ⟨front', -, heq⟩ := h'
  have hlast := congrArg List.getLast? heq
  rw [List.getLast?_concat, List.getLast?_concat] at hlast
  exact (Prod.mk.inj (Option.some.inj hlast)).1

namespace Trial

variable {α β : Type}

/-- The calls made on the way to a result were all let through, or they end with
the only one that failed, and its failure is the result. -/
def Straight (t : Trial World) (r : Except Failure α × Trial World) : Prop :=
  ∃ new : Journal, r.2.journal = t.journal ++ new ∧
    (new.Smooth ∨ ∃ c failure, new.StoppedBy c failure ∧ r.1 = .error failure)

variable {plan : Plan} {t t' : Trial World}

theorem straight_refl (result : Except Failure α) (hjournal : t'.journal = t.journal) :
    Straight t (result, t') :=
  ⟨[], hjournal.trans (List.append_nil _).symm, .inl Journal.smooth_nil⟩

/-- Calls of which none failed are straight, whatever came of them. -/
theorem straight_of_smooth (result : Except Failure α) (new : Journal) (hsmooth : new.Smooth)
    (hjournal : t'.journal = t.journal ++ new) : Straight t (result, t') :=
  ⟨new, hjournal, .inl hsmooth⟩

/-- One call that fails, and nothing behind it. -/
theorem straight_noted (t : Trial World) (c : Call) (failure : Failure) :
    Straight t ((.error failure : Except Failure α), t.noted c (some failure)) :=
  ⟨[(c, some failure)], rfl, .inr ⟨c, failure, ⟨[], Journal.smooth_nil, rfl⟩, rfl⟩⟩

/-- The result of what went straight may be told otherwise; that changes no call. -/
theorem Straight.map {result : Except Failure α} (h : Straight t (result, t')) (f : α → β) :
    Straight t (result.map f, t') := by
  obtain ⟨new, hjournal, hsmooth | ⟨c, failure, hstopped, herror⟩⟩ := h
  · exact ⟨new, hjournal, .inl hsmooth⟩
  · cases herror
    exact ⟨new, hjournal, .inr ⟨c, failure, hstopped, rfl⟩⟩

/-- What follows a success goes on straight: the calls of the first part did not fail,
so the first failure is one of the second part. -/
theorem Straight.trans {a : α} {r : Except Failure β × Trial World}
    (hfirst : Straight t (.ok a, t')) (hnext : Straight t' r) : Straight t r := by
  obtain ⟨front, hfront, hsmooth | ⟨c, failure, -, herror⟩⟩ := hfirst
  · have hfront' : t'.journal = t.journal ++ front := hfront
    obtain ⟨new, hnew, hend⟩ := hnext
    refine ⟨front ++ new, ?_, ?_⟩
    · rw [hnew, hfront', List.append_assoc]
    · rcases hend with hsmooth' | ⟨c, failure, ⟨back, hback, rfl⟩, herror⟩
      · exact .inl (hsmooth.append hsmooth')
      · exact .inr ⟨c, failure, ⟨front ++ back, hsmooth.append hback,
          (List.append_assoc _ _ _).symm⟩, herror⟩
  · cases herror

/-- A turn has two calls at most. If the modification fails there is no publication, and
a publication is the last call. -/
theorem straight_turn (plan : Plan) (update : Update) (id : SubscriptionId) (t : Trial World) :
    Straight t (turn plan update id t) := by
  have hturn := turn_cases plan update id t
  generalize turn plan update id t = x at hturn ⊢
  obtain ⟨result, t'⟩ := x
  dsimp only at hturn
  have hone := Journal.smooth_singleton (.modifySubscription id)
  cases hturn with
  | blocked failure hcall => exact straight_noted t _ failure
  | missing => exact straight_of_smooth _ _ hone rfl
  | refused => exact straight_of_smooth _ _ hone rfl
  | silent => exact straight_of_smooth _ _ hone rfl
  | answered s s' tr answer hcall hfind hupdate hchanged hanswer =>
      have hwritten : Straight t (.ok (), (t.rewritten id s').drawn) :=
        straight_of_smooth (.ok ()) _ hone rfl
      cases answer with
      | some failure => exact hwritten.trans (straight_noted _ _ failure)
      | none =>
          exact hwritten.trans (straight_of_smooth _ _ (Journal.smooth_singleton _) rfl)

/-- A pass goes straight: a turn that fails ends it, and no turn behind it is begun. -/
theorem straight_pass (plan : Plan) (update : Update) (ids : List SubscriptionId)
    (t : Trial World) : Straight t (pass plan update ids t) := by
  induction ids generalizing t with
  | nil => exact straight_refl _ rfl
  | cons id rest ih =>
      have hturn := straight_turn plan update id t
      rw [pass]
      generalize turn plan update id t = x at hturn ⊢
      obtain ⟨result, t'⟩ := x
      cases result with
      | error failure => exact hturn.map fun _ => ()
      | ok r => exact hturn.trans (ih t')

/-- To save the first subscription of a customer is one call. -/
theorem straight_save (plan : Plan) (t : Trial World) (s : Subscription) :
    Straight t (save plan t s) := by
  rw [save]
  cases plan t.journal (.saveSubscription s) with
  | some failure => exact straight_noted t _ failure
  | none => exact straight_of_smooth _ _ (Journal.smooth_singleton _) rfl

/-- What follows the listing of a customer that did not fail is straight from there, and
so from before it. -/
theorem straight_listing (customer : Customer) {r : Except Failure α × Trial World}
    (h : Straight (t.listing customer) r) : Straight t r :=
  (straight_of_smooth (.ok ()) _ (Journal.smooth_singleton _) rfl).trans h

/-- A paid invoice goes straight, with a pass or with a first subscription. -/
theorem straight_renewal (plan : Plan) (terms : Terms) (data : Json) (customer : Customer)
    (period : Except Failure Instant) (t : Trial World) :
    Straight t (renewal plan terms data customer period t) := by
  unfold renewal
  cases period with
  | error failure => exact straight_refl _ rfl
  | ok periodEnd =>
    cases plan t.journal (.listSubscriptions customer.id) with
    | some failure => exact straight_noted t _ failure
    | none =>
      dsimp only
      cases SubscriptionStore.ofCustomer t.state.subscriptions customer.id with
      | nil => exact straight_listing customer (straight_save plan _ _)
      | cons s rest => exact straight_listing customer (straight_pass plan _ _ _)

/-- The end of a subscription at the provider goes straight: a listing, then a pass. -/
theorem straight_cancellation (plan : Plan) (customer : Customer) (t : Trial World) :
    Straight t (cancellation plan customer t) := by
  unfold cancellation
  cases plan t.journal (.listSubscriptions customer.id) with
  | some failure => exact straight_noted t _ failure
  | none => exact straight_listing customer (straight_pass plan _ _ _)

variable {H : Type}

/-- Looking for the customer of a body, and what follows it. -/
theorem straight_forCustomer {work : Customer → Service H Unit}
    (hwork : ∀ customer t, Straight t (run plan (work customer) t)) (data : Json) (type : String)
    (t : Trial World) : Straight t (run plan (Routes.forCustomer data type work) t) := by
  rcases forCustomer_cases plan data type work t with
    ⟨providerId, failure, -, hrun⟩ | ⟨new, hsmooth, -, hrun⟩
  · rw [hrun]
    exact straight_noted t _ failure
  · rw [hrun]
    cases CustomerStore.ofBody? t.state.customers data with
    | none => exact straight_of_smooth _ new hsmooth rfl
    | some customer => exact (straight_of_smooth (.ok ()) new hsmooth rfl).trans (hwork customer _)

/-- Whichever service a webhook leads to, it goes straight. -/
theorem straight_service (plan : Plan) (terms : Terms) (type : String) (data : Json)
    (t : Trial World) :
    Straight t (run plan (Routes.service terms type data : Service H Unit) t) := by
  unfold Routes.service
  split
  · refine straight_forCustomer (fun customer t => ?_) data _ t
    rw [run_renewAll]
    exact (straight_refl (.ok ()) rfl).trans (straight_renewal plan terms data customer _ t.ticked)
  · split
    · refine straight_forCustomer (fun customer t => ?_) data _ t
      rw [run_cancelAll]
      exact straight_cancellation plan customer t
    · exact straight_refl _ rfl

/-- What a webhook hands over is accepted, or refused as its last call. -/
theorem handed_receive (plan : Plan) (terms : Terms) (payload : String) (w : World) :
    let r := run plan (Intake.receive ⟨Routes.standard terms⟩ payload :
      ExceptT WebhookError (Activity H World) Intake.Receipt) (.new w)
    ∀ e ∈ r.2.journal.handed, e ∈ r.2.journal.accepted ∨
      ∃ failure, r.1 = .error (.failed failure) ∧ r.2.journal.StoppedBy (.publish e) failure := by
  intro r e he
  cases hparse : Webhook.parse payload with
  | error error =>
      have hreceive : r = (.error error, .new w) := run_receive_unread plan (.new w) _ hparse
      rw [hreceive] at he
      exact absurd he List.not_mem_nil
  | ok webhook =>
      have hreceive : r = _ := run_receive plan (.new w) hparse terms
      obtain ⟨new, hjournal, hend⟩ :=
        straight_service (H := H) plan terms webhook.type webhook.data (.new w)
      have hnew : r.2.journal = new := by
        rw [hreceive]
        exact hjournal
      rw [hnew] at he ⊢
      rcases hend with hsmooth | ⟨c, failure, hstopped, herror⟩
      · exact .inl (hsmooth.accepted_eq ▸ he)
      · rcases hstopped.accepted_or_eq he with haccepted | rfl
        · exact .inl haccepted
        · refine .inr ⟨failure, ?_, hstopped⟩
          rw [hreceive, herror]
          rfl

end Trial

/-! ## What a redelivery leaves out -/

/-- The status to which webhooks of a type lead. -/
inductive Webhook.Targets (type : String) : Status → Prop
  | active (htype : type = Routes.invoicePaidType) : Targets type .active
  | cancelled (htype : type = Routes.subscriptionDeletedType) : Targets type .cancelled

/-- There is one such status at most, since no type is both. -/
theorem Webhook.Targets.unique {type : String} {status status' : Status}
    (h : Targets type status) (h' : Targets type status') : status = status' := by
  cases h with
  | active htype =>
      cases h' with
      | active => rfl
      | cancelled htype' => exact absurd (htype.symm.trans htype') (by decide)
  | cancelled htype =>
      cases h' with
      | active htype' => exact absurd (htype'.symm.trans htype) (by decide)
      | cancelled => rfl

/-- Whatever a webhook makes of a subscription has that status. -/
theorem Webhook.Applies.targets {terms : Terms} {w : World} {type : String} {update : Update}
    (h : Applies terms w type update) {s s' : Subscription} (hmakes : update.Makes s s') :
    Targets type s'.status := by
  obtain ⟨now, tr, hupdate⟩ := hmakes
  cases h with
  | renewal periodEnd htype =>
      rw [(Update.renewal_leads periodEnd now s tr s' hupdate).status]
      exact .active htype
  | cancellation htype =>
      rw [(Update.cancellation_leads now s tr s' hupdate).status]
      exact .cancelled htype

/-- A keyed store that is written over under the identifiers of what is written stays
keyed. -/
theorem SubscriptionStore.Rewritten.keyed {before after : SubscriptionStore}
    {subscriptions : List Subscription} (h : Rewritten before after subscriptions)
    (hkeyed : before.Keyed) : after.Keyed := by
  intro id s hfind
  by_cases hid : id ∈ subscriptions.map Subscription.id
  · obtain ⟨s', hs', rfl⟩ := List.mem_map.mp hid
    cases hfind.symm.trans (h.written s' hs')
    rfl
  · exact hkeyed id s ((h.kept id hid).symm.trans hfind)

/-- Each announcement is of one of the pairs, and of a change. -/
theorem Announced.exists_change {pairs : List (Subscription × Subscription)}
    {events : List Envelope} (h : Announced pairs events) {e : Envelope} (he : e ∈ events) :
    ∃ p ∈ pairs, p.1.status ≠ p.2.status ∧ p.1.Announces p.2 e := by
  obtain ⟨p, hp, hannounces⟩ : ∃ p ∈ changes pairs, p.1.Announces p.2 e := by
    rw [Announced] at h
    generalize changes pairs = changed at h ⊢
    induction h with
    | nil => cases he
    | @cons p e' rest events hfirst hrest ih =>
        rcases List.mem_cons.mp he with rfl | hmem
        · exact ⟨p, List.mem_cons_self, hfirst⟩
        · obtain ⟨p', hp', hannounces⟩ := ih hmem
          exact ⟨p', List.mem_cons_of_mem _ hp', hannounces⟩
  obtain ⟨hmem, hchanged⟩ := List.mem_filter.mp hp
  exact ⟨p, hmem, by simpa using hchanged, hannounces⟩

namespace Trial

/-- The event tells of a stored subscription that comes to the status to which
webhooks of a type lead, from another one. -/
def Tells (type : String) (store : SubscriptionStore) (e : Envelope) : Prop :=
  ∃ s s', store.find? s.id = some s ∧ s'.id = s.id ∧ s.status ≠ s'.status ∧
    Webhook.Targets type s'.status ∧ s.Announces s' e

variable {plan : Plan} {terms : Terms} {w : World} {type : String} {customer : Customer}
  {t t' : Trial World}

/-- A pass over the subscriptions of a customer that gets through. -/
theorem tells_of_pass {update : Update} (happlies : Webhook.Applies terms w type update)
    (hkeyed : SubscriptionStore.Keyed t.state.subscriptions) (hquiet : t.journal.handed = [])
    (hok : pass plan update (t.listed customer.id) t = (.ok (), t')) :
    ∀ e ∈ t'.journal.handed, Tells type t.state.subscriptions e := by
  intro e he
  have hstored : ∀ s ∈ SubscriptionStore.ofCustomer t.state.subscriptions customer.id,
      t.state.subscriptions.find? s.id = some s :=
    fun s hs => (SubscriptionStore.mem_ofCustomer hkeyed hs).1
  have hcases := pass_cases plan happlies.sound happlies.total hstored
    (SubscriptionStore.nodup_ofCustomer hkeyed customer.id)
  rw [listed] at hok
  rw [hok] at hcases
  rcases hcases with ⟨pairs, hlisted, -, hpassed⟩ | ⟨_, _, _, _, _, -, herror, -⟩
  · obtain ⟨new, hnew, -, hannounced⟩ := hpassed.journal
    have hnew' : t'.journal = t.journal ++ new := hnew
    rw [hnew', Journal.handed_append, hquiet, List.nil_append] at he
    obtain ⟨p, hp, hchanged, hannounces⟩ := hannounced.exists_change he
    have hmakes : update.Makes p.1 p.2 := hpassed.makes p hp
    obtain ⟨tr, hmoves⟩ := hmakes.moves happlies.sound
    refine ⟨p.1, p.2, hstored p.1 ?_, hmoves.id, hchanged, happlies.targets hmakes, hannounces⟩
    rw [← hlisted]
    exact List.mem_map_of_mem hp
  · cases herror

/-- **A paid invoice that gets through.** Of a stored customer who has subscriptions in
a keyed store, it announces those that were not active, as active; of one who has none
it announces nothing. -/
theorem tells_of_renewal {data : Json} {w : World}
    (hkeyed : SubscriptionStore.Keyed w.subscriptions) {t : Trial World}
    (hstate : t.state.subscriptions = w.subscriptions) (hquiet : t.journal.handed = [])
    (hok : renewal plan terms data customer (terms.periodEnd w.clock) t = (.ok (), t')) :
    ∀ e ∈ t'.journal.handed, Tells Routes.invoicePaidType w.subscriptions e := by
  obtain ⟨periodEnd, hperiod, ⟨-, hhanded, -⟩ | ⟨-, hpass⟩⟩ := renewal_ok hok
  · intro e he
    rw [hhanded, hquiet] at he
    exact absurd he List.not_mem_nil
  · have happlies : Webhook.Applies terms w Routes.invoicePaidType (.renewal periodEnd) :=
      .renewal periodEnd rfl (Terms.periodEnd_eq_ok_iff.mp hperiod)
    rw [← hstate] at hkeyed ⊢
    have hlisting : (t.listing customer).journal.handed = [] :=
      (unmoved_append t rfl).handed.trans hquiet
    exact tells_of_pass (t := t.listing customer) happlies hkeyed hlisting hpass

variable {H : Type}

/-- A service for the customer of a body tells what its work tells, since looking
for the customer tells nothing. -/
theorem tells_of_forCustomer {data : Json} {route : String} {work : Customer → Service H Unit}
    (hwork : ∀ customer t', run plan (work customer) ⟨w, Journal.lookup data⟩ = (.ok (), t') →
      ∀ e ∈ t'.journal.handed, Tells type w.subscriptions e)
    (hok : run plan (Routes.forCustomer data route work) (.new w) = (.ok (), t')) :
    ∀ e ∈ t'.journal.handed, Tells type w.subscriptions e := by
  rcases forCustomer_lookup plan data route work (.new w) with
    ⟨providerId, failure, -, hrun⟩ | hrun
  · rw [hrun] at hok
    cases hok
  · rw [hrun] at hok
    have hstart : (Trial.new w).state = w := rfl
    rw [hstart] at hok
    cases hknown : CustomerStore.ofBody? w.customers data with
    | none =>
        rw [hknown] at hok
        cases hok
        intro e he
        have hquiet : e ∈ (Journal.lookup data).handed := he
        rw [Journal.handed_lookup] at hquiet
        exact absurd hquiet List.not_mem_nil
    | some customer =>
        rw [hknown] at hok
        exact hwork customer t' hok

/-- **What a webhook announces when it succeeds**, over a keyed store: that stored
subscriptions come to the status to which webhooks of its type lead. -/
theorem tells_of_receive {payload : String} {webhook : Webhook} {receipt : Intake.Receipt}
    (hkeyed : SubscriptionStore.Keyed w.subscriptions)
    (hparse : Webhook.parse payload = .ok webhook)
    (hok : receive H plan terms payload w = (.ok receipt, t')) :
    ∀ e ∈ t'.journal.handed, Tells webhook.type w.subscriptions e := by
  obtain ⟨hrun, -⟩ := (receive_eq_ok_iff hparse).mp hok
  rw [Routes.service] at hrun
  split at hrun
  · rename_i hpaid
    rw [hpaid]
    refine tells_of_forCustomer (fun customer t' hwork => ?_) hrun
    rw [run_renewAll] at hwork
    exact tells_of_renewal hkeyed rfl (Journal.handed_lookup webhook.data) hwork
  · split at hrun
    · rename_i hdeleted
      rw [hdeleted]
      refine tells_of_forCustomer (fun customer t' hwork => ?_) hrun
      rw [run_cancelAll] at hwork
      have happlies : Webhook.Applies terms w Routes.subscriptionDeletedType .cancellation :=
        .cancellation rfl
      let t : Trial World := ⟨w, Journal.lookup webhook.data⟩
      have hlisting : (t.listing customer).journal.handed = [] :=
        (unmoved_append t rfl).handed.trans (Journal.handed_lookup webhook.data)
      exact tells_of_pass (t := t.listing customer) happlies hkeyed hlisting (cancellation_ok hwork)
    · cases hrun
      exact List.forall_mem_nil _

variable {payload : String} {webhook : Webhook} {error : WebhookError} {e : Envelope}
  {failure : Failure}

/-- Webhooks of the other types never fail once they are read. -/
theorem type_of_receive_error (hparse : Webhook.parse payload = .ok webhook)
    (herror : receive H plan terms payload w = (.error error, t)) :
    webhook.type = Routes.invoicePaidType ∨ webhook.type = Routes.subscriptionDeletedType := by
  by_contra hother
  obtain ⟨hpaid, hdeleted⟩ := not_or.mp hother
  rw [receive, run_receive plan (.new w) hparse, Routes.service, if_neg hpaid, if_neg hdeleted]
    at herror
  cases herror

/-- The change whose announcement was refused stays stored, and the store keyed. -/
theorem refused_change (hkeyed : SubscriptionStore.Keyed w.subscriptions)
    (hparse : Webhook.parse payload = .ok webhook)
    (herror : receive H plan terms payload w = (.error error, t))
    (hrefused : t.journal.StoppedBy (.publish e) failure) :
    SubscriptionStore.Keyed t.state.subscriptions ∧ ∃ s s' : Subscription,
      t.state.subscriptions.find? s'.id = some s' ∧ Webhook.Targets webhook.type s'.status ∧
        s.Announces s' e := by
  obtain ⟨failure', -, hinterrupted⟩ := interruption_of_receive (H := H) plan terms hkeyed hparse
    (type_of_receive_error hparse herror) (congrArg Prod.fst herror)
  have hafter : (receive H plan terms payload w).2 = t := congrArg Prod.snd herror
  rw [receive] at hafter
  rw [hafter] at hinterrupted
  -- The other interruptions end with another call.
  cases hinterrupted with
  | unprepared c hcall hstopped =>
      cases hstopped.call_unique hrefused
      cases hcall
  | outOfRange providerId htype hend hfailure hjournal =>
      obtain ⟨front, -, hlast⟩ := hrefused
      rw [hjournal] at hlast
      have hcall := congrArg List.getLast? hlast
      simp at hcall
  | blocked front s rest hprogress hstopped => cases hstopped.call_unique hrefused
  | unheard front s s' rest e' hprogress hstopped haccepted hchanged hannounces =>
      cases hstopped.call_unique hrefused
      obtain ⟨update, happlies, hmakes⟩ := hprogress.makes
      have hwritten := hprogress.store.written s' (by simp)
      exact ⟨hprogress.store.keyed hkeyed, s, s', hwritten,
        happlies.targets (hmakes (s, s') (by simp)), hannounces⟩

/-- **What a redelivery leaves out.**  A change whose announcement was refused is not
announced by the delivery that succeeds: it finds the subscription where it leads. -/
theorem not_announced_again {again : Plan} {receipt : Intake.Receipt}
    (hkeyed : SubscriptionStore.Keyed w.subscriptions)
    (hfirst : receive H plan terms payload w = (.error error, t))
    (hsecond : receive H again terms payload t.state = (.ok receipt, t'))
    (hrefused : t.journal.StoppedBy (.publish e) failure) {id : SubscriptionId}
    (habout : e.isStatusChangeOf id = true) :
    ∀ e' ∈ t'.journal.handed, e'.isStatusChangeOf id = false := by
  intro e' he'
  rw [Bool.eq_false_iff]
  intro habout'
  cases hparse : Webhook.parse payload with
  | error unread =>
      rw [receive, run_receive_unread again _ _ hparse] at hsecond
      cases hsecond
  | ok webhook =>
      obtain ⟨hkeyed', s, s', hfind, htarget, hannounces⟩ :=
        refused_change hkeyed hparse hfirst hrefused
      obtain ⟨s₁, s₁', hfind₁, hid₁, hchanged, htarget₁, hannounces₁⟩ :=
        tells_of_receive hkeyed' hparse hsecond e' he'
      have hsame : s₁.id = s'.id :=
        (hid₁.symm.trans (hannounces₁.id_of_about habout')).trans (hannounces.id_of_about habout).symm
      rw [hsame, hfind] at hfind₁
      cases hfind₁
      exact hchanged (htarget.unique htarget₁)

end Trial

/-- **No change is missed.**  A webhook fails at its first delivery and succeeds at
the second.  A subscription that was stored, and whose identifier is not given
to another one meanwhile, is still stored; and if its status is another one now,
that was announced, and the publisher accepted the announcement in one of the two
deliveries, or refused it in the first one, which ended with that.  An announcement
that was refused is lost: over a keyed store, the second delivery announces nothing
of the subscription. -/
theorem changes_handed_of_redelivery {H : Type} {plan again : Plan} {terms : Terms}
    {payload : String} {w : World} {error : WebhookError} {receipt : Intake.Receipt}
    {first second : Trial World}
    (hfirst : Trial.run plan (Intake.receive ⟨Routes.standard terms⟩ payload :
      ExceptT WebhookError (Activity H World) Intake.Receipt) (.new w) = (.error error, first))
    (hsecond : Trial.run again (Intake.receive ⟨Routes.standard terms⟩ payload :
      ExceptT WebhookError (Activity H World) Intake.Receipt) (.new first.state) =
        (.ok receipt, second))
    {id : SubscriptionId} {s : Subscription} (hfind : w.subscriptions.find? id = some s)
    (hfresh : ∀ i ∈ Set.Ico w.supply.drawn second.state.supply.drawn, id ≠ ⟨w.supply.uuids i⟩) :
    ∃ s', second.state.subscriptions.find? id = some s' ∧ s'.id = s.id ∧
      (s'.status ≠ s.status → ∃ e : Envelope, e.LeadsTo s.id s'.status ∧
        (e ∈ first.journal.accepted ∨ e ∈ second.journal.accepted ∨
          ∃ failure, error = .failed failure ∧ first.journal.StoppedBy (.publish e) failure)) ∧
      (SubscriptionStore.Keyed w.subscriptions → ∀ e failure,
        first.journal.StoppedBy (.publish e) failure → e.isStatusChangeOf s.id = true →
        ∀ e' ∈ second.journal.handed, e'.isStatusChangeOf s.id = false) := by
  have hevolution := Trial.evolves_receive (H := H) terms payload plan (.new w)
  have hevolution' := Trial.evolves_receive (H := H) terms payload again (.new first.state)
  have hhanded := Trial.handed_receive (H := H) plan terms payload w
  have hhanded' := Trial.handed_receive (H := H) again terms payload first.state
  rw [hfirst] at hevolution hhanded
  rw [hsecond] at hevolution' hhanded'
  have huuids : first.state.supply.uuids = w.supply.uuids := hevolution.uuids
  have hdrawn : w.supply.drawn ≤ first.state.supply.drawn := hevolution.reach.drawn_le
  have hdrawn' : first.state.supply.drawn ≤ second.state.supply.drawn := hevolution'.reach.drawn_le
  obtain ⟨s₁, hfind₁, hid₁, hstatus₁⟩ := hevolution.reach.follow
    (fun i hstart hend => hfresh i ⟨hstart, hend.trans_le hdrawn'⟩) hfind
  obtain ⟨s₂, hfind₂, hid₂, hstatus₂⟩ := hevolution'.reach.follow
    (fun i hstart hend => huuids.symm ▸ hfresh i ⟨hdrawn.trans hstart, hend⟩) hfind₁
  refine ⟨s₂, hfind₂, hid₂.trans hid₁, fun hchanged => ?_, fun hkeyed e failure hrefused habout =>
    Trial.not_announced_again hkeyed hfirst hsecond hrefused habout⟩
  rcases hstatus₂ with hsame | ⟨e, he, hleads⟩
  · -- The second delivery found it done.
    rcases hstatus₁ with hsame' | ⟨e, he, hleads⟩
    · exact absurd (hsame.trans hsame') hchanged
    · refine ⟨e, hsame ▸ hleads, ?_⟩
      rcases hhanded e he with hheard | ⟨failure, hfailed, hstopped⟩
      · exact .inl hheard
      · exact .inr (.inr ⟨failure, Except.error.inj hfailed, hstopped⟩)
  · refine ⟨e, hid₁ ▸ hleads, .inr (.inl ?_)⟩
    rcases hhanded' e he with hheard | ⟨failure, hfailed, -⟩
    · exact hheard
    · cases hfailed

namespace Sample

/-- The invoice is paid while the publisher accepts one event only. -/
def firstTry : Except WebhookError Intake.Receipt × Trial World :=
  Trial.run (.ofPublisher failing) (Intake.receive ⟨Routes.standard default⟩ paid :
    ExceptT WebhookError (Activity Empty World) Intake.Receipt) (.new world)

/-- The webhook is delivered again, and nothing fails. -/
def secondTry : Except WebhookError Intake.Receipt × Trial World :=
  Trial.run .smooth (Intake.receive ⟨Routes.standard default⟩ paid :
    ExceptT WebhookError (Activity Empty World) Intake.Receipt) (.new firstTry.2.state)

/-- A paid invoice comes to its service, with the failure renamed. -/
theorem run_paid (plan : Plan) (t : Trial World) :
    Trial.run plan (Intake.receive ⟨Routes.standard default⟩ paid :
        ExceptT WebhookError (Activity Empty World) Intake.Receipt) t =
      (((Trial.run plan (Routes.renew default data : Service Empty Unit) t).1.mapError
          WebhookError.failed).map fun _ =>
            ⟨"evt_1", Routes.invoicePaidType, (Routes.routeOf default Routes.invoicePaidType :
              Route Empty World).name⟩,
        (Trial.run plan (Routes.renew default data : Service Empty Unit) t).2) :=
  Trial.run_receive plan t parse_paid default

set_option maxRecDepth 8000 in
/-- The first delivery comes back with the publisher's failure. -/
theorem result_firstTry : firstTry.1 = .error (.failed (.new .internalError "down")) := by
  simp only [firstTry, run_paid]
  cbv

set_option maxRecDepth 8000 in
/-- The second delivery succeeds. -/
theorem result_secondTry : secondTry.1.isOk = true := by
  simp only [secondTry, firstTry, run_paid]
  cbv

set_option maxRecDepth 8000 in
/-- The third of the customer's four subscriptions was cancelled; it is active
again, and three UUIDs were taken for announcements. -/
theorem status_secondTry :
    ((secondTry.2.state.subscriptions.find? ⟨.ofNat 3⟩).map Subscription.status,
      secondTry.2.state.supply.drawn) = (some .active, 3) := by
  simp only [secondTry, firstTry, run_paid]
  cbv

set_option maxRecDepth 8000 in
/-- In both deliveries together the publisher accepts nothing about the subscription. -/
theorem accepted_tries :
    (firstTry.2.journal.accepted ++ secondTry.2.journal.accepted).filter
      (Envelope.isStatusChangeOf · ⟨.ofNat 3⟩) = [] := by
  simp only [secondTry, firstTry, run_paid]
  cbv

end Sample

/-- The publisher refuses the announcement of the third subscription, and the second
delivery does not repeat it. -/
theorem changes_handed_of_redelivery_refused :
    ∃ receipt first second s' e,
      Sample.firstTry = (.error (.failed (.new .internalError "down")), first) ∧
      Sample.secondTry = (.ok receipt, second) ∧
      Sample.world.subscriptions.find? ⟨.ofNat 3⟩ = some (Sample.subscription 3 .cancelled) ∧
      (∀ i ∈ Set.Ico Sample.world.supply.drawn second.state.supply.drawn,
        (⟨.ofNat 3⟩ : SubscriptionId) ≠ ⟨Sample.world.supply.uuids i⟩) ∧
      second.state.subscriptions.find? ⟨.ofNat 3⟩ = some s' ∧ s'.id = ⟨.ofNat 3⟩ ∧
      s'.status = .active ∧ SubscriptionStore.Keyed Sample.world.subscriptions ∧
      e.LeadsTo ⟨.ofNat 3⟩ .active ∧
      first.journal.StoppedBy (.publish e) (.new .internalError "down") ∧
      ∀ e' ∈ second.journal.handed, e'.isStatusChangeOf ⟨.ofNat 3⟩ = false := by
  obtain ⟨hstatus, hdrawn⟩ := Prod.mk.inj Sample.status_secondTry
  have hok := Sample.result_secondTry
  have hfirst : Sample.firstTry = (.error (.failed (.new .internalError "down")),
      Sample.firstTry.2) := by
    rw [← Sample.result_firstTry]
  obtain ⟨receipt, hsecond⟩ : ∃ receipt, Sample.secondTry = (.ok receipt, Sample.secondTry.2) := by
    cases hresult : Sample.secondTry.1 with
    | ok receipt =>
        refine ⟨receipt, ?_⟩
        rw [← hresult]
    | error error =>
        rw [hresult] at hok
        cases hok
  have hfind : Sample.world.subscriptions.find? ⟨.ofNat 3⟩ =
      some (Sample.subscription 3 .cancelled) := rfl
  have hfresh : ∀ i ∈ Set.Ico Sample.world.supply.drawn Sample.secondTry.2.state.supply.drawn,
      (⟨.ofNat 3⟩ : SubscriptionId) ≠ ⟨Sample.world.supply.uuids i⟩ := by
    have hother : ∀ i < 3, Uuid.ofNat 3 ≠ Uuid.ofNat (i + 100) := by decide
    intro i hi heq
    rw [hdrawn] at hi
    exact hother i hi.2 (SubscriptionId.mk.inj heq)
  have hkeyed : SubscriptionStore.Keyed Sample.world.subscriptions :=
    SubscriptionStore.keyed_iff_saved.mpr ⟨Sample.subscriptions, rfl⟩
  obtain ⟨s', hfind', hid, hannounced, hlost⟩ :=
    changes_handed_of_redelivery hfirst hsecond hfind hfresh
  rw [hfind'] at hstatus
  have hactive : s'.status = .active := Option.some.inj hstatus
  have hchanged : s'.status ≠ (Sample.subscription 3 .cancelled).status := by
    rw [hactive]
    decide
  obtain ⟨e, hleads, hanswered⟩ := hannounced hchanged
  have hleads : e.LeadsTo ⟨.ofNat 3⟩ .active := hactive ▸ hleads
  -- Neither delivery had such an announcement accepted.
  have hunheard : e ∉ Sample.firstTry.2.journal.accepted ++ Sample.secondTry.2.journal.accepted :=
    fun hmem => List.filter_eq_nil_iff.mp Sample.accepted_tries e hmem hleads.1
  rw [List.mem_append, not_or] at hunheard
  rcases hanswered with hheard | hheard | ⟨failure, hfailure, hrefused⟩
  · exact absurd hheard hunheard.1
  · exact absurd hheard hunheard.2
  · cases hfailure
    exact ⟨receipt, _, _, s', e, hfirst, hsecond, hfind, hfresh, hfind', hid, hactive, hkeyed,
      hleads, hrefused, hlost hkeyed e _ hrefused hleads.1⟩

/-- A status changed for good, and the publisher never accepted the announcement. -/
theorem change_lost :
    Sample.firstTry.1 = .error (.failed (.new .internalError "down")) ∧
      Sample.secondTry.1.isOk = true ∧
      (Sample.world.subscriptions.find? ⟨.ofNat 3⟩).map Subscription.status = some .cancelled ∧
      (Sample.secondTry.2.state.subscriptions.find? ⟨.ofNat 3⟩).map Subscription.status =
        some .active ∧
      (Sample.firstTry.2.journal.accepted ++ Sample.secondTry.2.journal.accepted).filter
        (Envelope.isStatusChangeOf · ⟨.ofNat 3⟩) = [] :=
  ⟨Sample.result_firstTry, Sample.result_secondTry, rfl,
    (Prod.mk.inj Sample.status_secondTry).1, Sample.accepted_tries⟩

end SubscriptionBilling
