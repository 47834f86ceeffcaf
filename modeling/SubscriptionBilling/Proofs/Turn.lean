import SubscriptionBilling.Proofs.Calls
import SubscriptionBilling.Webhook.Routes
/-!
# One subscription's turn

Three services work on a single stored subscription: a renewal, a cancellation
and a command.  Each updates it, writes to the log and announces the change of
status, if there is one; but the routes and the command are written apart.
`Trial.turn` is what all three come to in a trial, by `run_renewOne`,
`run_cancelOne` and `run_perform`, and `Turn` is the list of everything that can
happen in a turn, each with the journal that it leaves.

`Subscription.Moves` is what the three updates have in common: a subscription
keeps its identifier, its customer and its plan, and its status goes where the
life cycle allows.
-/

namespace SubscriptionBilling

/-- What is done to a subscription at a reading of the clock. -/
abbrev Update := Instant → Subscription → Except Failure (Transition × Subscription)

namespace Subscription

/-- An operation led from one subscription to another, and told the transition
that it made. -/
structure Moves (s : Subscription) (t : Transition) (s' : Subscription) : Prop where
  id : s'.id = s.id
  customer : s'.customer = s.customer
  plan : s'.plan = s.plan
  source : t.source = s.status
  target : t.target = s'.status
  legal : s.status.canBecome s'.status = true

/-- A status may be put in place of another only along the table of the life cycle; the
transition then names the two. -/
theorem replaceStatus_moves {s : Subscription} {next : Status} (now : Instant)
    (h : s.status.canBecome next = true) :
    s.Moves (s.replaceStatus next now).1 (s.replaceStatus next now).2 := by
  by_cases hsame : s.status = next
  · subst hsame
    rw [replaceStatus_self]
    exact ⟨rfl, rfl, rfl, rfl, rfl, h⟩
  · rw [replaceStatus_of_ne hsame]
    exact ⟨rfl, rfl, rfl, rfl, rfl, h⟩

theorem cancel_moves (s : Subscription) (now : Instant) :
    s.Moves (s.cancel now).1 (s.cancel now).2 :=
  replaceStatus_moves now (by cases s.status <;> rfl)

theorem activate_moves (s : Subscription) (now : Instant) :
    s.Moves (s.activate now).1 (s.activate now).2 :=
  replaceStatus_moves now (by cases s.status <;> rfl)

/-- An action that is carried out moves the status along the table. -/
theorem perform_moves {s s' : Subscription} {action : Action} {now : Instant} {t : Transition}
    (h : s.perform action now = .ok (t, s')) : s.Moves t s' := by
  unfold perform at h
  cases hnext : s.status.apply action with
  | error e => simp [hnext, Except.map] at h
  | ok next =>
      rw [hnext] at h
      have hreplaced : s.replaceStatus next now = (t, s') := Except.ok.inj h
      have hmoves := replaceStatus_moves now (Status.apply_canBecome hnext)
      rwa [hreplaced] at hmoves

/-- A renewal is an activation with a later end: it moves the status as an activation
does, and keeps who the subscription is and whose. -/
theorem renew_moves (s : Subscription) (periodEnd now : Instant) :
    s.Moves (s.renew periodEnd now).1 (s.renew periodEnd now).2 := by
  have hactive := activate_moves s now
  by_cases hend : (s.activate now).2.expiresAt = periodEnd
  · simpa [renew, hend] using hactive
  · have hrenewed : (s.renew periodEnd now).2 =
        { (s.activate now).2 with expiresAt := periodEnd, updatedAt := now } := by
      simp [renew, hend]
    rw [hrenewed]
    exact ⟨hactive.id, hactive.customer, hactive.plan, hactive.source, hactive.target,
      hactive.legal⟩

end Subscription

/-- Whatever an update does is a move. -/
def Update.Sound (update : Update) : Prop :=
  ∀ now s t s', update now s = .ok (t, s') → s.Moves t s'

/-- Renewing until an instant. -/
def Update.renewal (periodEnd : Instant) : Update := fun now s => .ok (s.renew periodEnd now)

/-- Cancelling. -/
def Update.cancellation : Update := fun now s => .ok (s.cancel now)

/-- Performing an action. -/
def Update.command (action : Action) : Update := fun now s =>
  (s.perform action now).mapError StatusError.toFailure

namespace Update

/-- A renewal takes every subscription where its transition says, and leaves its
identifier and its customer alone. -/
theorem renewal_sound (periodEnd : Instant) : (renewal periodEnd).Sound := by
  intro now s t s' h
  have hrenewed : s.renew periodEnd now = (t, s') := Except.ok.inj h
  have hmoves := s.renew_moves periodEnd now
  rwa [hrenewed] at hmoves

/-- A cancellation takes every subscription where its transition says, and leaves its
identifier and its customer alone. -/
theorem cancellation_sound : cancellation.Sound := by
  intro now s t s' h
  have hcancelled : s.cancel now = (t, s') := Except.ok.inj h
  have hmoves := s.cancel_moves now
  rwa [hcancelled] at hmoves

/-- A status command that is not refused takes the subscription where its transition
says. -/
theorem command_sound (action : Action) : (command action).Sound := by
  intro now s t s' h
  rw [command] at h
  cases hperform : s.perform action now with
  | error e =>
      rw [hperform] at h
      cases h
  | ok r =>
      rw [hperform] at h
      have hr : r = (t, s') := Except.ok.inj h
      rw [hr] at hperform
      exact Subscription.perform_moves hperform

end Update

/-- An envelope announces that a subscription became another one. -/
def Subscription.Announces (s s' : Subscription) (e : Envelope) : Prop :=
  ∃ id, e = StatusChanged.envelope ⟨id, s'.id, s'.customer, s.status, s'.status, s'.updatedAt⟩

/-- A transition counts as a change just if the statuses before and after differ. -/
theorem Subscription.Moves.changed_iff {s s' : Subscription} {t : Transition}
    (h : s.Moves t s') : t.changed = true ↔ s.status ≠ s'.status := by
  rw [Transition.changed, h.source, h.target, bne_iff_ne]

theorem Subscription.Moves.unchanged_iff {s s' : Subscription} {t : Transition}
    (h : s.Moves t s') : t.changed = false ↔ s.status = s'.status := by
  rw [Transition.changed, h.source, h.target, bne_eq_false_iff_eq]

namespace Trial

variable {H β : Type}

/-- The announcement of a change of status, with the next UUID as its
identifier. -/
def announcement (w : World) (r : Transition × Subscription) : Envelope :=
  StatusChanged.envelope
    ⟨.ofUuid w.nextUuid, r.2.id, r.2.customer, r.1.source, r.1.target, r.2.updatedAt⟩

/-- The envelope that is made for a transition announces it: topic, subscription, and
the statuses before and after. -/
theorem announces_announcement (w : World) {s s' : Subscription} {t : Transition}
    (h : s.Moves t s') : s.Announces s' (announcement w (t, s')) := by
  refine ⟨.ofUuid w.nextUuid, ?_⟩
  rw [announcement, h.source, h.target]

/-- Hands over the announcement of a change of status, if there was one. -/
def announce (plan : Plan) (r : Transition × Subscription) (t : Trial World) :
    Except Failure Unit × Trial World :=
  if r.1.changed then
    let call := Call.publish (announcement t.state r)
    let answer := plan t.journal call
    (verdict answer, t.drawn.noted call answer)
  else (.ok (), t)

/-- One subscription's turn: its update, and the announcement of it. -/
def turn (plan : Plan) (update : Update) (id : SubscriptionId) (t : Trial World) :
    Except Failure (Transition × Subscription) × Trial World :=
  match modify plan t id update with
  | (.error failure, t) => (.error failure, t)
  | (.ok r, t) => ((announce plan r t).1.map fun _ => r, (announce plan r t).2)

/-- What the routes do about a transition is to announce it, if it is a change, and
nothing otherwise. -/
theorem run_publishChange (plan : Plan) (r : Transition × Subscription) (t : Trial World) :
    run plan (Routes.publishChange r.2 r.1 : Service H Unit) t = announce plan r t := by
  unfold Routes.publishChange StatusChange.announcement announce
  by_cases hchanged : r.1.changed
  · simp [hchanged, StatusChanged.ofTransition, StatusChanged.ofEvent_eq, announcement]
  · simp [hchanged]

/-- What follows an update hands over the announcement and then reports. -/
def Reports (plan : Plan) (follow : Transition × Subscription → Service H β)
    (report : Transition × Subscription → β) : Prop :=
  ∀ r t, run plan (follow r) t =
    ((announce plan r t).1.map fun _ => report r, (announce plan r t).2)

/-- An update that is followed by its announcement is a turn. -/
theorem run_modify_reports {plan : Plan} {follow : Transition × Subscription → Service H β}
    {report : Transition × Subscription → β} (hfollow : Reports plan follow report)
    (update : Update) (id : SubscriptionId) (t : Trial World) :
    run plan (Subscriptions.modify id update >>= follow) t =
      ((turn plan update id t).1.map report, (turn plan update id t).2) := by
  rw [run_bind, run_modify]
  unfold turn
  obtain ⟨result, t'⟩ := modify plan t id update
  cases result with
  | error failure => rfl
  | ok r =>
      simp only [hfollow r t']
      obtain ⟨answer, t''⟩ := announce plan r t'
      cases answer <;> rfl

/-- The routes write to the log, and hand over the announcement. -/
theorem reports_publishChange (plan : Plan) (level : Log.Level) (message : String)
    (fields : Transition × Subscription → List (String × Log.Value)) :
    Reports plan (fun r => do
        Service.tell level message (fields r)
        Routes.publishChange r.2 r.1 : Transition × Subscription → Service H Unit)
      fun _ => () := by
  intro r t
  rw [run_bind, run_tell]
  dsimp only
  rw [run_publishChange]
  obtain ⟨answer, t'⟩ := announce plan r t
  cases answer <;> rfl

/-- To renew one subscription is a turn: a modification and, if the status changed, its
announcement. -/
theorem run_renewOne (plan : Plan) (customer : Customer) (periodEnd : Instant)
    (id : SubscriptionId) (t : Trial World) :
    run plan (Routes.renewOne customer periodEnd id : Service H Unit) t =
      ((turn plan (.renewal periodEnd) id t).1.map fun _ => (),
        (turn plan (.renewal periodEnd) id t).2) :=
  run_modify_reports (reports_publishChange plan _ _ _) (.renewal periodEnd) id t

/-- To cancel one subscription for the provider is a turn like a renewal, with another
update. -/
theorem run_cancelOne (plan : Plan) (customer : Customer) (id : SubscriptionId)
    (t : Trial World) :
    run plan (Routes.cancelOne customer id : Service H Unit) t =
      ((turn plan .cancellation id t).1.map fun _ => (), (turn plan .cancellation id t).2) :=
  run_modify_reports (reports_publishChange plan _ _ _) .cancellation id t

/-- A command is a turn, and reports the identifier, the status it came to, and whether
that is another. -/
theorem run_perform (plan : Plan) (id : SubscriptionId) (action : Action) (t : Trial World) :
    run plan (StatusChange.perform id action : Service H StatusChange.Report) t =
      ((turn plan (.command action) id t).1.map fun r =>
          ⟨r.2.id, r.2.status, r.1.changed⟩,
        (turn plan (.command action) id t).2) := by
  refine run_modify_reports ?_ (.command action) id t
  intro r t
  unfold announce StatusChange.announcement
  by_cases hchanged : r.1.changed
  · simp only [hchanged, if_true, run_bind, run_tell, run_freshUuid, run_pure,
      StatusChanged.ofTransition, Service.publishEvent, StatusChanged.ofEvent_eq, run_publish,
      journal_drawn, announcement]
    generalize plan t.journal (.publish _) = answer
    cases answer <;> rfl
  · simp only [hchanged, run_bind, run_tell]
    rfl

/-! ## Everything that can happen in a turn -/

/-- The update was let through and read the clock. -/
def asked (id : SubscriptionId) (t : Trial World) : Trial World :=
  (t.noted (.modifySubscription id) none).ticked

/-- The update wrote what it made of the subscription. -/
def rewritten (id : SubscriptionId) (s : Subscription) (t : Trial World) : Trial World :=
  (t.asked id).withSubscriptions (t.state.subscriptions.set id s)

/-- The publisher was handed an announcement, and answered. -/
def handing (r : Transition × Subscription) (answer : Option Failure) (t : Trial World) :
    Trial World :=
  t.drawn.noted (.publish (announcement t.state r)) answer

section Handing

variable (t : Trial World) (id : SubscriptionId) (s : Subscription)
  (r : Transition × Subscription)

/-- A turn that announces makes two calls, in this order: the modification, which
succeeded, and the publication with its answer. -/
theorem journal_handing (answer : Option Failure) :
    ((t.rewritten id s).handing r answer).journal =
      t.journal ++ [(.modifySubscription id, none)] ++
        [(.publish (announcement (t.rewritten id s).state r), answer)] := rfl

/-- Whatever the publisher answers, a turn that announces hands over one envelope,
behind all that was handed over before. -/
theorem handed_handing (answer : Option Failure) :
    ((t.rewritten id s).handing r answer).journal.handed =
      t.journal.handed ++ [announcement (t.rewritten id s).state r] := by
  rw [journal_handing, Journal.handed_append, Journal.handed_append]
  exact congrArg (· ++ _) (List.append_nil _)

/-- A refused announcement is not among those that were accepted. -/
theorem accepted_handing (failure : Failure) :
    ((t.rewritten id s).handing r (some failure)).journal.accepted = t.journal.accepted := by
  rw [journal_handing, Journal.accepted_append, Journal.accepted_append]
  exact (List.append_nil _).trans (List.append_nil _)

end Handing

/-- How a turn can end. -/
inductive Turn (plan : Plan) (update : Update) (id : SubscriptionId) (t : Trial World) :
    Except Failure (Transition × Subscription) → Trial World → Prop
  /-- The update is not let through. -/
  | blocked (failure : Failure) (hcall : plan t.journal (.modifySubscription id) = some failure) :
      Turn plan update id t (.error failure) (t.noted (.modifySubscription id) (some failure))
  /-- There is nothing to update. -/
  | missing (hcall : plan t.journal (.modifySubscription id) = none)
      (hfind : t.state.subscriptions.find? id = none) :
      Turn plan update id t (.error (SubscriptionStore.missing id)) (t.asked id)
  /-- The update is refused. -/
  | refused (s : Subscription) (failure : Failure)
      (hcall : plan t.journal (.modifySubscription id) = none)
      (hfind : t.state.subscriptions.find? id = some s)
      (hupdate : update t.state.clock s = .error failure) :
      Turn plan update id t (.error failure) (t.asked id)
  /-- The status stays, and there is nothing to announce. -/
  | silent (s s' : Subscription) (tr : Transition)
      (hcall : plan t.journal (.modifySubscription id) = none)
      (hfind : t.state.subscriptions.find? id = some s)
      (hupdate : update t.state.clock s = .ok (tr, s')) (hsame : tr.changed = false) :
      Turn plan update id t (.ok (tr, s')) (t.rewritten id s')
  /-- The status changes, and the publisher answers the announcement. -/
  | answered (s s' : Subscription) (tr : Transition) (answer : Option Failure)
      (hcall : plan t.journal (.modifySubscription id) = none)
      (hfind : t.state.subscriptions.find? id = some s)
      (hupdate : update t.state.clock s = .ok (tr, s')) (hchanged : tr.changed = true)
      (hanswer : plan (t.rewritten id s').journal
        (.publish (announcement (t.rewritten id s').state (tr, s'))) = answer) :
      Turn plan update id t ((verdict answer).map fun _ => (tr, s'))
        ((t.rewritten id s').handing (tr, s') answer)

/-- **The turns.** Every turn ends in one of these ways: the modification fails, finds
nothing or is refused, or it succeeds silently, or with an announcement that the
publisher accepts or refuses. -/
theorem turn_cases (plan : Plan) (update : Update) (id : SubscriptionId) (t : Trial World) :
    Turn plan update id t (turn plan update id t).1 (turn plan update id t).2 := by
  unfold turn modify SubscriptionStore.modify
  cases hcall : plan t.journal (.modifySubscription id) with
  | some failure => exact .blocked failure hcall
  | none =>
      cases hfind : t.state.subscriptions.find? id with
      | none => exact .missing hcall hfind
      | some s =>
          cases hupdate : update t.state.clock s with
          | error failure => simpa [hupdate] using .refused s failure hcall hfind hupdate
          | ok r =>
              obtain ⟨tr, s'⟩ := r
              cases hchanged : tr.changed with
              | false =>
                  simp only [hupdate, announce, hchanged, Bool.false_eq_true, if_false]
                  exact .silent s s' tr hcall hfind hupdate hchanged
              | true =>
                  simp only [hupdate, announce, hchanged, if_true]
                  exact .answered s s' tr _ hcall hfind hupdate hchanged rfl

end Trial

end SubscriptionBilling
