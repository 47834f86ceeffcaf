import SubscriptionBilling.Proofs.Delivery
import SubscriptionBilling.Proofs.Keyed
/-!
# A pass over the subscriptions of a customer

A pass gives each listed subscription its turn and stops at the first failure.
`pass_cases` says how far it got: it is through, or a front of the list is done
with, one subscription is where it broke off, and the rest was not looked at.

What is done with is a list of pairs, each a subscription and what it became.
`Passed` says all there is to say of it, one turn at a time (`turn_stored`):
the store holds what the subscriptions became and keeps everything else
(`SubscriptionStore.Rewritten`), and the publisher accepted one announcement for
each change of status, in order (`Announced`).
-/

namespace SubscriptionBilling

namespace Update

/-- The update is never refused. -/
def Total (update : Update) : Prop := ∀ now s, ∃ r, update now s = .ok r

/-- A renewal refuses no subscription, whatever its status. -/
theorem renewal_total (periodEnd : Instant) : (renewal periodEnd).Total :=
  fun now s => ⟨s.renew periodEnd now, rfl⟩

/-- A cancellation refuses no subscription, whatever its status. -/
theorem cancellation_total : cancellation.Total :=
  fun now s => ⟨s.cancel now, rfl⟩

/-- At some reading of the clock, the update makes one subscription of another. -/
def Makes (update : Update) (s s' : Subscription) : Prop := ∃ now t, update now s = .ok (t, s')

/-- What a sound update makes of a subscription is what some transition makes of it. -/
theorem Makes.moves {update : Update} (hsound : update.Sound) {s s' : Subscription}
    (h : update.Makes s s') : ∃ t, s.Moves t s' := by
  obtain ⟨now, t, hupdate⟩ := h
  exact ⟨t, hsound now s t s' hupdate⟩

end Update

namespace SubscriptionStore

/-- Some subscriptions were written over the stored ones, and everything else is
kept, each at its place. -/
structure Rewritten (before after : SubscriptionStore) (subscriptions : List Subscription) :
    Prop where
  keys : after.keys = before.keys
  written : ∀ s ∈ subscriptions, after.find? s.id = some s
  kept : ∀ id, id ∉ subscriptions.map Subscription.id → after.find? id = before.find? id

theorem rewritten_refl (store : SubscriptionStore) : Rewritten store store [] :=
  ⟨rfl, fun _ h => absurd h List.not_mem_nil, fun _ _ => rfl⟩

/-- To write over a stored subscription rewrites just that one: the keys stay, and so
does everything under the others. -/
theorem rewritten_set {store : SubscriptionStore} {s s' : Subscription}
    (hfind : store.find? s.id = some s) (hid : s'.id = s.id) :
    Rewritten store (OrderedMap.set store s.id s') [s'] := by
  refine ⟨OrderedMap.keys_set_of_find? hfind s', ?_, ?_⟩
  · intro other hother
    rw [List.mem_singleton] at hother
    rw [hother, OrderedMap.find?_set, if_pos hid.symm]
  · intro id hother
    have hne : s.id ≠ id := fun h => hother (by simp [hid, h])
    rw [OrderedMap.find?_set, if_neg hne]

/-- To rewrite some subscriptions and then others rewrites all of them, if none of the
first is written over again. -/
theorem Rewritten.trans {before mid after : SubscriptionStore} {xs ys : List Subscription}
    (hfront : Rewritten before mid xs) (hback : Rewritten mid after ys)
    (hapart : ∀ s ∈ xs, s.id ∉ ys.map Subscription.id) : Rewritten before after (xs ++ ys) := by
  refine ⟨hback.keys.trans hfront.keys, ?_, ?_⟩
  · intro s hs
    rcases List.mem_append.mp hs with hx | hy
    · rw [hback.kept s.id (hapart s hx)]
      exact hfront.written s hx
    · exact hback.written s hy
  · intro id hid
    rw [List.map_append, List.mem_append, not_or] at hid
    rw [hback.kept id hid.2, hfront.kept id hid.1]

end SubscriptionStore

/-- The pairs that changed their status. -/
def changes (pairs : List (Subscription × Subscription)) : List (Subscription × Subscription) :=
  pairs.filter fun p => p.1.status != p.2.status

/-- There is one announcement for each change of status, in order. -/
def Announced (pairs : List (Subscription × Subscription)) (events : List Envelope) : Prop :=
  List.Forall₂ (fun p e => p.1.Announces p.2 e) (changes pairs) events

/-- What is announced for two lists of pairs one after the other is announced for all of
them, in the same order. -/
theorem Announced.append {pairs pairs' : List (Subscription × Subscription)}
    {events events' : List Envelope} (h : Announced pairs events)
    (h' : Announced pairs' events') : Announced (pairs ++ pairs') (events ++ events') := by
  rw [Announced, changes, List.filter_append]
  exact List.rel_append h h'

/-- Some subscriptions of a world were updated, and everything else in the stores
is as before. -/
structure Updated (update : Update) (w : World) (pairs : List (Subscription × Subscription))
    (w' : World) : Prop where
  makes : ∀ p ∈ pairs, update.Makes p.1 p.2
  store : SubscriptionStore.Rewritten w.subscriptions w'.subscriptions (pairs.map Prod.snd)
  customers : w'.customers = w.customers

section Updated

variable {update : Update} {w w' w'' : World} {front back : List (Subscription × Subscription)}

/-- What became of subscriptions keeps their identifiers, in their order, if the update
is sound. -/
theorem Updated.map_id (h : Updated update w front w') (hsound : update.Sound) :
    (front.map Prod.snd).map Subscription.id = (front.map Prod.fst).map Subscription.id := by
  rw [List.map_map, List.map_map]
  refine List.map_congr_left fun p hp => ?_
  obtain ⟨tr, hmoves⟩ := (h.makes p hp).moves hsound
  exact hmoves.id

/-- Updates of two lists of subscriptions add up, if no subscription is in both: then
the second list leaves alone what the first one wrote. -/
theorem Updated.append (hfront : Updated update w front w') (hback : Updated update w' back w'')
    (hsound : update.Sound) (hnodup : (((front ++ back).map Prod.fst).map Subscription.id).Nodup) :
    Updated update w (front ++ back) w'' := by
  refine ⟨?_, ?_, hback.customers.trans hfront.customers⟩
  · intro p hp
    rcases List.mem_append.mp hp with h | h
    · exact hfront.makes p h
    · exact hback.makes p h
  · rw [List.map_append]
    refine hfront.store.trans hback.store ?_
    intro s hs hmem
    rw [List.map_append, List.map_append, ← hfront.map_id hsound, ← hback.map_id hsound,
      List.nodup_append] at hnodup
    exact hnodup.2.2 s.id (List.mem_map_of_mem hs) s.id hmem rfl

/-- What was not updated is stored as it was, since no two subscriptions of a listing
have one identifier. -/
theorem Updated.stored (h : Updated update w front w') (hsound : update.Sound)
    {rest : List Subscription} (hstored : ∀ s ∈ rest, w.subscriptions.find? s.id = some s)
    (hnodup : ((front.map Prod.fst ++ rest).map Subscription.id).Nodup) :
    ∀ s ∈ rest, w'.subscriptions.find? s.id = some s := by
  intro s hs
  rw [List.map_append, ← h.map_id hsound, List.nodup_append] at hnodup
  have hother : s.id ∉ (front.map Prod.snd).map Subscription.id :=
    fun hmem => hnodup.2.2 s.id hmem s.id (List.mem_map_of_mem hs) rfl
  rw [h.store.kept s.id hother]
  exact hstored s hs

end Updated

namespace Trial

/-- What becomes of a trial while some subscriptions are gone through without a
failure. -/
structure Passed (update : Update) (t : Trial World) (pairs : List (Subscription × Subscription))
    (t' : Trial World) : Prop extends Updated update t.state pairs t'.state where
  journal : ∃ new, t'.journal = t.journal ++ new ∧ Journal.Smooth new ∧
    Announced pairs new.handed

/-- A pass may be cut anywhere: a front that has passed and a back that passes from
there are one pass. -/
theorem Passed.append {update : Update} {t t' t'' : Trial World}
    {front back : List (Subscription × Subscription)} (hfront : Passed update t front t')
    (hback : Passed update t' back t'') (hsound : update.Sound)
    (hnodup : (((front ++ back).map Prod.fst).map Subscription.id).Nodup) :
    Passed update t (front ++ back) t'' := by
  obtain ⟨new, hnew, hsmooth, hannounced⟩ := hfront.journal
  obtain ⟨new', hnew', hsmooth', hannounced'⟩ := hback.journal
  refine ⟨hfront.toUpdated.append hback.toUpdated hsound hnodup, new ++ new', ?_,
    hsmooth.append hsmooth', ?_⟩
  · rw [hnew', hnew, List.append_assoc]
  · rw [Journal.handed_append]
    exact hannounced.append hannounced'

theorem passed_nil (update : Update) (t : Trial World) : Passed update t [] t :=
  ⟨⟨fun _ h => absurd h List.not_mem_nil, SubscriptionStore.rewritten_refl _, rfl⟩,
    [], (List.append_nil _).symm, Journal.smooth_nil, .nil⟩

section Turn

variable {update : Update} {t : Trial World} {s s' : Subscription} {tr : Transition}
  (hfind : t.state.subscriptions.find? s.id = some s)
  (hupdate : update t.state.clock s = .ok (tr, s')) (hmoves : s.Moves tr s')

include hfind hupdate hmoves

/-- One turn that succeeded is a pass over one subscription. -/
theorem updated_rewritten : Updated update t.state [(s, s')] (t.rewritten s.id s').state := by
  refine ⟨?_, SubscriptionStore.rewritten_set hfind hmoves.id, rfl⟩
  intro p hp
  rw [List.mem_singleton] at hp
  exact hp ▸ ⟨t.state.clock, tr, hupdate⟩

/-- The announcement leaves the stores alone, whatever the publisher answers. -/
theorem updated_handing (answer : Option Failure) :
    Updated update t.state [(s, s')] ((t.rewritten s.id s').handing (tr, s') answer).state := by
  have h := updated_rewritten hfind hupdate hmoves
  exact ⟨h.makes, h.store, h.customers⟩

/-- A turn without a change of status has one call, the modification, and hands nothing
over. -/
theorem passed_silent (hsame : tr.changed = false) :
    Passed update t [(s, s')] (t.rewritten s.id s') := by
  refine ⟨updated_rewritten hfind hupdate hmoves,
    [(.modifySubscription s.id, none)], rfl, Journal.smooth_singleton _, ?_⟩
  have hnone : changes [(s, s')] = [] := by simp [changes, hmoves.unchanged_iff.mp hsame]
  rw [Announced, hnone]
  exact .nil

/-- A turn with a change of status, of which the publisher took note. -/
theorem passed_heard (hchanged : tr.changed = true) :
    Passed update t [(s, s')] ((t.rewritten s.id s').handing (tr, s') none) := by
  have hannounces := announces_announcement (t.rewritten s.id s').state hmoves
  refine ⟨updated_handing hfind hupdate hmoves none,
    [(.modifySubscription s.id, none),
      (.publish (announcement (t.rewritten s.id s').state (tr, s')), none)],
    List.append_assoc _ _ _, (Journal.smooth_singleton _).append (Journal.smooth_singleton _), ?_⟩
  have hone : changes [(s, s')] = [(s, s')] := by
    simp [changes, hmoves.changed_iff.mp hchanged]
  rw [Announced, hone]
  exact .cons hannounces .nil

end Turn

/-- Where a pass broke off: its next subscription was left alone, or it was
updated and the publisher refused the announcement. -/
inductive Broken (plan : Plan) (update : Update) (t : Trial World) (s : Subscription)
    (failure : Failure) : Trial World → Prop
  | blocked (hcall : plan t.journal (.modifySubscription s.id) = some failure) :
      Broken plan update t s failure (t.noted (.modifySubscription s.id) (some failure))
  | unheard (s' : Subscription) (tr : Transition)
      (hupdate : update t.state.clock s = .ok (tr, s')) (hchanged : tr.changed = true)
      (hanswer : plan (t.rewritten s.id s').journal
        (.publish (announcement (t.rewritten s.id s').state (tr, s'))) = some failure) :
      Broken plan update t s failure ((t.rewritten s.id s').handing (tr, s') (some failure))

variable (plan : Plan) {update : Update}

/-- One subscription that is stored is gone through, or it is where the pass
breaks off. -/
theorem turn_stored (hsound : update.Sound) (htotal : update.Total) {t : Trial World}
    {s : Subscription} (hfind : t.state.subscriptions.find? s.id = some s) :
    (∃ tr s', (turn plan update s.id t).1 = .ok (tr, s') ∧
      Passed update t [(s, s')] (turn plan update s.id t).2) ∨
    ∃ failure, (turn plan update s.id t).1 = .error failure ∧
      Broken plan update t s failure (turn plan update s.id t).2 := by
  have hturn := turn_cases plan update s.id t
  generalize turn plan update s.id t = x at hturn ⊢
  obtain ⟨result, t'⟩ := x
  dsimp only at hturn ⊢
  cases hturn with
  | blocked failure hcall => exact .inr ⟨failure, rfl, .blocked hcall⟩
  | missing _ hnone => cases hfind.symm.trans hnone
  | refused s₁ failure _ _ hupdate =>
      obtain ⟨r, hr⟩ := htotal t.state.clock s₁
      cases hr.symm.trans hupdate
  | silent s₁ s' tr hcall hs₁ hupdate hsame =>
      cases hfind.symm.trans hs₁
      have hmoves := hsound _ _ _ _ hupdate
      exact .inl ⟨tr, s', rfl, passed_silent hfind hupdate hmoves hsame⟩
  | answered s₁ s' tr answer hcall hs₁ hupdate hchanged hanswer =>
      cases hfind.symm.trans hs₁
      have hmoves := hsound _ _ _ _ hupdate
      cases answer with
      | none => exact .inl ⟨tr, s', rfl, passed_heard hfind hupdate hmoves hchanged⟩
      | some failure => exact .inr ⟨failure, rfl, .unheard s' tr hupdate hchanged hanswer⟩

/-- **How far a pass gets.**  Over stored subscriptions with identifiers of their
own, an update that is never refused gets through, or breaks off at one of them. -/
theorem pass_cases (hsound : update.Sound) (htotal : update.Total) {listed : List Subscription}
    {t : Trial World} (hstored : ∀ s ∈ listed, t.state.subscriptions.find? s.id = some s)
    (hnodup : (listed.map Subscription.id).Nodup) :
    (∃ pairs, pairs.map Prod.fst = listed ∧
      (pass plan update (listed.map Subscription.id) t).1 = .ok () ∧
      Passed update t pairs (pass plan update (listed.map Subscription.id) t).2) ∨
    ∃ pairs s rest failure t', listed = pairs.map Prod.fst ++ s :: rest ∧
      (pass plan update (listed.map Subscription.id) t).1 = .error failure ∧
      Passed update t pairs t' ∧
      Broken plan update t' s failure (pass plan update (listed.map Subscription.id) t).2 := by
  induction listed generalizing t with
  | nil => exact .inl ⟨[], rfl, rfl, passed_nil update t⟩
  | cons s rest ih =>
      rw [List.map_cons, pass]
      have hturn := turn_stored plan hsound htotal (hstored s List.mem_cons_self)
      generalize turn plan update s.id t = x at hturn ⊢
      obtain ⟨result, t₁⟩ := x
      rcases hturn with ⟨tr, s', hresult, hfront⟩ | ⟨failure, hresult, hbroken⟩
      · dsimp only at hresult hfront
        subst hresult
        have hstored₁ := hfront.toUpdated.stored hsound
          (fun s₂ hs₂ => hstored s₂ (List.mem_cons_of_mem s hs₂)) hnodup
        rcases ih hstored₁ (List.nodup_cons.mp hnodup).2 with ⟨pairs, hfst, hok, hback⟩ |
          ⟨pairs, s₂, rest', failure, t₂, hlisted, herror, hback, hbroken⟩
        · refine .inl ⟨(s, s') :: pairs, by rw [List.map_cons, hfst], hok, ?_⟩
          refine hfront.append hback hsound ?_
          rwa [List.singleton_append, List.map_cons, hfst]
        · refine .inr ⟨(s, s') :: pairs, s₂, rest', failure, t₂, by rw [hlisted]; rfl, herror, ?_,
            hbroken⟩
          refine hfront.append hback hsound ?_
          have hsub : ((s :: pairs.map Prod.fst).map Subscription.id).Sublist
              ((s :: rest).map Subscription.id) := by
            rw [hlisted]
            exact ((List.sublist_append_left _ _).cons_cons s).map _
          exact hsub.nodup hnodup
      · dsimp only at hresult hbroken
        subst hresult
        exact .inr ⟨[], s, rest, failure, t, rfl, rfl, passed_nil update t, hbroken⟩

end Trial

end SubscriptionBilling
