import SubscriptionBilling.Proofs.Lifecycle
import SubscriptionBilling.Proofs.Turn
/-!
# What a command comes to

A command performs one action on one subscription, and three things can keep it
from being reported: nothing is stored under the identifier, the life cycle does
not allow the action, or the publisher refuses the announcement.  The first two
leave the stores as they were and the publisher unasked; the third comes when
the new status is stored already, and it stays.

`perform_outcome` says this for every state of the stores and every publisher,
which may go by all that it was handed before.  A command is a turn
(`Trial.run_perform`), so that the ways in which a turn can end are all that
there is to look at; `command_eq_ok_iff` and `command_eq_error_iff` tell them
apart by the life cycle.
-/

namespace SubscriptionBilling

/-! ## The update of a command -/

namespace Update

/-- A status command succeeds just if the status allows the action, and then only the
status and the time of the change are new. -/
theorem command_eq_ok_iff {action : Action} {now : Instant} {s : Subscription}
    {r : Transition × Subscription} :
    command action now s = .ok r ↔
      ∃ next, s.status.apply action = .ok next ∧ s.replaceStatus next now = r := by
  rw [command, Subscription.perform]
  cases s.status.apply action with
  | error error =>
      constructor
      · intro h
        cases h
      · rintro ⟨next, hnext, _⟩
        cases hnext
  | ok next =>
      constructor
      · intro h
        exact ⟨next, rfl, Except.ok.inj h⟩
      · rintro ⟨_, hnext, hr⟩
        cases hnext
        exact congrArg Except.ok hr

/-- A status command is refused just if the status forbids the action, with the failure
that names both. -/
theorem command_eq_error_iff {action : Action} {now : Instant} {s : Subscription}
    {failure : Failure} :
    command action now s = .error failure ↔
      ∃ error, s.status.apply action = .error error ∧ error.toFailure = failure := by
  rw [command, Subscription.perform]
  cases s.status.apply action with
  | error error =>
      constructor
      · intro h
        exact ⟨error, rfl, Except.error.inj h⟩
      · rintro ⟨_, herror, hfailure⟩
        cases herror
        exact congrArg Except.error hfailure
  | ok next =>
      constructor
      · intro h
        cases h
      · rintro ⟨error, herror, _⟩
        cases herror

end Update

/-- A status refuses an action in one way only, with the code for an illegal transition.
-/
theorem StatusError.code_of_apply {s : Status} {action : Action} {error : StatusError}
    (h : s.apply action = .error error) : error.toFailure.code = .invalidStateTransition := by
  obtain ⟨_, _, rfl⟩ := Status.apply_eq_error_iff.mp h
  rfl

/-! ## Outcomes -/

/-- A subscription has a new status, and everything else is as it was; the time of
the last change is that of this one, if there was one. -/
structure Subscription.PutInto (s : Subscription) (next : Status) (now : Instant)
    (s' : Subscription) : Prop where
  status : s'.status = next
  rest : s' = { s with status := s'.status, updatedAt := s'.updatedAt }
  updatedAt : s'.updatedAt = if s.status = next then s.updatedAt else now

/-- A subscription whose status was replaced is the old one in a new status, at the
given time if the status is another. -/
theorem Subscription.putInto_replaceStatus (s : Subscription) (next : Status) (now : Instant) :
    s.PutInto next now (s.replaceStatus next now).2 := by
  by_cases hsame : s.status = next
  · subst hsame
    rw [replaceStatus_self]
    exact ⟨rfl, rfl, (if_pos rfl).symm⟩
  · rw [replaceStatus_of_ne hsame]
    exact ⟨rfl, rfl, (if_neg hsame).symm⟩

/-- One subscription was replaced where it stands, and nothing else. -/
structure SubscriptionStore.Replaced (store : SubscriptionStore) (id : SubscriptionId)
    (s : Subscription) (store' : SubscriptionStore) : Prop where
  stored : store'.find? id = some s
  keys : store'.keys = store.keys
  others : ∀ other, other ≠ id → store'.find? other = store.find? other

/-- To write over what is found under an identifier replaces that one and leaves the
order and the others. -/
theorem SubscriptionStore.replaced_set {store : SubscriptionStore} {id : SubscriptionId}
    {s : Subscription} (h : store.find? id = some s) (s' : Subscription) :
    Replaced store id s' (store.set id s') where
  stored := by rw [OrderedMap.find?_set, if_pos rfl]
  keys := OrderedMap.keys_set_of_find? h s'
  others := by
    intro other hother
    rw [OrderedMap.find?_set, if_neg (Ne.symm hother)]

/-- The publisher was asked nothing, and the world is the same, later readings of
the clock apart. -/
def Trial.LeftAlone (t t' : Trial World) : Prop :=
  t'.journal.handed = t.journal.handed ∧ t'.state = { t.state with supply := t'.state.supply }

/-- The report of a command that was carried out, and what the publisher was
handed for it: exactly the announcement of the change, if there was one. -/
inductive Reported (answer : List Envelope → Envelope → Option Failure) (before : Journal)
    (s s' : Subscription) : Except Failure StatusChange.Report → Journal → Prop
  /-- The status stays, and nothing is published. -/
  | silent (after : Journal) (hsame : s'.status = s.status)
      (hhanded : after.handed = before.handed) :
      Reported answer before s s' (.ok ⟨s'.id, s'.status, false⟩) after
  /-- The publisher accepts the announcement. -/
  | accepted (after : Journal) (e : Envelope) (hchanged : s'.status ≠ s.status)
      (hannounces : s.Announces s' e) (hhanded : after.handed = before.handed ++ [e])
      (hanswer : answer before.handed e = none) :
      Reported answer before s s' (.ok ⟨s'.id, s'.status, true⟩) after
  /-- The publisher refuses it, and its failure comes back unaltered. -/
  | refused (after : Journal) (e : Envelope) (failure : Failure) (hchanged : s'.status ≠ s.status)
      (hannounces : s.Announces s' e) (hhanded : after.handed = before.handed ++ [e])
      (hanswer : answer before.handed e = some failure) :
      Reported answer before s s' (.error failure) after

/-- Everything that a command can come to, by what is stored and by what the life
cycle allows. -/
structure CommandOutcome (answer : List Envelope → Envelope → Option Failure)
    (id : SubscriptionId) (action : Action) (t : Trial World)
    (result : Except Failure StatusChange.Report) (t' : Trial World) : Prop where
  /-- There is no such subscription. -/
  missing : t.state.subscriptions.find? id = none →
    result = .error (SubscriptionStore.missing id) ∧
      (SubscriptionStore.missing id).code = .subscriptionNotFound ∧ t.LeftAlone t'
  /-- The life cycle does not allow the action. -/
  illegal : ∀ s error, t.state.subscriptions.find? id = some s →
    s.status.apply action = .error error →
      result = .error error.toFailure ∧ error.toFailure.code = .invalidStateTransition ∧
        t.LeftAlone t'
  /-- The action is carried out on this one subscription, whatever the publisher
  says to it. -/
  legal : ∀ s next, t.state.subscriptions.find? id = some s →
    s.status.apply action = .ok next →
      ∃ s', s.PutInto next t.state.clock s' ∧
        SubscriptionStore.Replaced t.state.subscriptions id s' t'.state.subscriptions ∧
        t'.state = { t.state with
          subscriptions := t'.state.subscriptions, supply := t'.state.supply } ∧
        Reported answer t.journal s s' result t'.journal

namespace Trial

variable {H : Type} {answer : List Envelope → Envelope → Option Failure} {id : SubscriptionId}
  {action : Action} {t t' : Trial World}

/-- A modification that found nothing to modify, or was refused, has asked the store and
the clock and written nothing. -/
theorem leftAlone_asked (id : SubscriptionId) (t : Trial World) : t.LeftAlone (t.asked id) := by
  refine ⟨?_, rfl⟩
  show Journal.handed (t.journal ++ [(.modifySubscription id, none)]) = t.journal.handed
  rw [Journal.handed_append]
  exact List.append_nil _

/-- What a turn comes to as a report. -/
def reportOf (result : Except Failure (Transition × Subscription)) :
    Except Failure StatusChange.Report :=
  result.map fun r => ⟨r.2.id, r.2.status, r.1.changed⟩

/-- For a stored subscription only what the life cycle says is left to see. -/
theorem outcome_of_find {result : Except Failure StatusChange.Report} {s : Subscription}
    (hfind : t.state.subscriptions.find? id = some s)
    (hillegal : ∀ error, s.status.apply action = .error error →
      result = .error error.toFailure ∧ t.LeftAlone t')
    (hlegal : ∀ next, s.status.apply action = .ok next → ∃ s', s.PutInto next t.state.clock s' ∧
      SubscriptionStore.Replaced t.state.subscriptions id s' t'.state.subscriptions ∧
      t'.state = { t.state with
        subscriptions := t'.state.subscriptions, supply := t'.state.supply } ∧
      Reported answer t.journal s s' result t'.journal) :
    CommandOutcome answer id action t result t' := by
  refine ⟨?_, ?_, ?_⟩
  · intro hnone
    rw [hfind] at hnone
    cases hnone
  · intro found error hfound herror
    rw [hfind] at hfound
    cases hfound
    obtain ⟨hresult, hidle⟩ := hillegal error herror
    exact ⟨hresult, StatusError.code_of_apply herror, hidle⟩
  · intro found next hfound hnext
    rw [hfind] at hfound
    cases hfound
    exact hlegal next hnext

/-- A turn in which the action is carried out is a legal outcome, whatever is
reported of it. -/
theorem outcome_of_update {result : Except Failure StatusChange.Report} {s s' : Subscription}
    {tr : Transition} (hfind : t.state.subscriptions.find? id = some s)
    (hupdate : Update.command action t.state.clock s = .ok (tr, s'))
    (hstore : t'.state.subscriptions = t.state.subscriptions.set id s')
    (hworld : t'.state = { t.state with
      subscriptions := t'.state.subscriptions, supply := t'.state.supply })
    (hreported : Reported answer t.journal s s' result t'.journal) :
    CommandOutcome answer id action t result t' := by
  obtain ⟨next, hnext, hreplaced⟩ := Update.command_eq_ok_iff.mp hupdate
  apply outcome_of_find hfind
  · intro error herror
    rw [hnext] at herror
    cases herror
  · intro other hother
    rw [hnext] at hother
    cases hother
    have hput : s.PutInto next t.state.clock s' := by
      have h := s.putInto_replaceStatus next t.state.clock
      rwa [hreplaced] at h
    refine ⟨s', hput, ?_, hworld, hreported⟩
    rw [hstore]
    exact SubscriptionStore.replaced_set hfind s'

/-- However the turn of a command ends, it is one of the outcomes. -/
theorem outcome_of_turn {result : Except Failure (Transition × Subscription)}
    (h : Turn (.ofPublisher answer) (.command action) id t result t') :
    CommandOutcome answer id action t (reportOf result) t' := by
  cases h with
  | blocked failure hcall => cases hcall
  | missing hcall hfind =>
      refine ⟨fun _ => ⟨rfl, rfl, leftAlone_asked id t⟩, ?_, ?_⟩
      · intro s error hfound
        rw [hfind] at hfound
        cases hfound
      · intro s next hfound
        rw [hfind] at hfound
        cases hfound
  | refused s failure hcall hfind hupdate =>
      obtain ⟨error, herror, rfl⟩ := Update.command_eq_error_iff.mp hupdate
      apply outcome_of_find hfind
      · intro other hother
        rw [herror] at hother
        cases hother
        exact ⟨rfl, leftAlone_asked id t⟩
      · intro next hnext
        rw [herror] at hnext
        cases hnext
  | silent s s' tr hcall hfind hupdate hsame =>
      have hmoves := Update.command_sound action _ _ _ _ hupdate
      have hstatus : s'.status = s.status := (hmoves.unchanged_iff.mp hsame).symm
      refine outcome_of_update hfind hupdate rfl rfl ?_
      show Reported answer t.journal s s' (.ok ⟨s'.id, s'.status, tr.changed⟩)
        (t.rewritten id s').journal
      rw [hsame]
      exact .silent _ hstatus (leftAlone_asked id t).1
  | answered s s' tr reply hcall hfind hupdate hchanged hanswer =>
      have hmoves := Update.command_sound action _ _ _ _ hupdate
      have hstatus : s'.status ≠ s.status := (hmoves.changed_iff.mp hchanged).symm
      have hannounces := announces_announcement (t.rewritten id s').state hmoves
      have hhanded := handed_handing t id s' (tr, s') reply
      -- The publisher goes by what it was handed, and the update handed nothing over.
      have hreply : answer t.journal.handed
          (announcement (t.rewritten id s').state (tr, s')) = reply := by
        rw [← (leftAlone_asked id t).1]
        exact hanswer
      refine outcome_of_update hfind hupdate rfl rfl ?_
      cases reply with
      | none =>
          show Reported answer t.journal s s' (.ok ⟨s'.id, s'.status, tr.changed⟩) _
          rw [hchanged]
          exact .accepted _ _ hstatus hannounces hhanded hreply
      | some failure => exact .refused _ _ failure hstatus hannounces hhanded hreply

/-- **What a command comes to.**  For every state of the stores, every action and
every publisher that leaves the stores alone. -/
theorem perform_outcome (answer : List Envelope → Envelope → Option Failure)
    (id : SubscriptionId) (action : Action) (t : Trial World) :
    CommandOutcome answer id action t
      (run (.ofPublisher answer)
        (StatusChange.perform id action : Service H StatusChange.Report) t).1
      (run (.ofPublisher answer)
        (StatusChange.perform id action : Service H StatusChange.Report) t).2 := by
  rw [run_perform]
  exact outcome_of_turn (turn_cases _ _ id t)

end Trial

end SubscriptionBilling
