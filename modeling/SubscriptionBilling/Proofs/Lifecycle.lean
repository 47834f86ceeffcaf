import SubscriptionBilling.Subscription.Basic
/-!
# The life of a subscription

A subscription is cancelled, activated, marked past due and renewed, any number of
times and in any order, and it keeps to a few rules all its life
(`life_of_calls`).  Its status goes by the table (`Status.table`), the end of its
paid period goes where a renewal puts it, and the time that it notes is that of
the last change of one of the two; nothing else about it ever changes.

All that a single call can do is in `Call.Outcome`.  It is one law for all acts:
what is not a renewal performs an action, and a renewal performs one and moves the
end of the period on top (`Call.attempt_eq`).  It may do either without the other,
and reads the clock for each that it does.
-/

namespace SubscriptionBilling

/-! ## The table -/

namespace Status

/-- Where each action leads from each status.  A cancelled subscription cannot be
marked past due. -/
def table : List (Status × Action × Status) :=
  [(active, .cancel, cancelled), (active, .activate, active), (active, .markPastDue, pastDue),
    (cancelled, .cancel, cancelled), (cancelled, .activate, active),
    (pastDue, .cancel, cancelled), (pastDue, .activate, active), (pastDue, .markPastDue, pastDue)]

/-- The table has just the actions that a status allows, with what they lead to. -/
theorem mem_table_iff {s t : Status} {action : Action} :
    (s, action, t) ∈ table ↔ s.apply action = .ok t := by
  cases s <;> cases action <;> cases t <;> simp [table, apply, cancel, activate, markPastDue]

/-- Only one action is ever refused: a cancelled subscription cannot become past due. -/
theorem apply_eq_error_iff {s : Status} {action : Action} {error : StatusError} :
    s.apply action = .error error ↔
      action = .markPastDue ∧ s = .cancelled ∧ error = .illegal .cancelled .markPastDue := by
  cases s <;> cases action <;>
    simp [apply, cancel, activate, markPastDue, eq_comm (a := error)]

end Status

/-- The last that there is to tell of the members of a list. -/
def lastOf? {α β : Type} (tell : α → Option β) (xs : List α) : Option β :=
  (xs.filterMap tell).getLast?

/-- What is told last by a list is told by its rest, or else by the first item. -/
theorem lastOf?_cons {α β : Type} (tell : α → Option β) (x : α) (xs : List α) :
    lastOf? tell (x :: xs) = (lastOf? tell xs).or (tell x) := by
  rw [lastOf?, lastOf?, List.filterMap_cons]
  cases tell x with
  | none => rw [Option.or_none]
  | some b =>
      dsimp only
      rw [List.getLast?_cons]
      cases (xs.filterMap tell).getLast? <;> rfl

namespace Subscription

/-! ## Changes -/

/-- The end of the paid period was put somewhere or left, a change of it or of the
status was noted with its time, and everything else is as before. -/
structure Amends (s : Subscription) (periodEnd : Option Instant) (first second : Instant)
    (s' : Subscription) : Prop where
  id : s'.id = s.id
  customer : s'.customer = s.customer
  plan : s'.plan = s.plan
  expiresAt : s'.expiresAt = periodEnd.getD s.expiresAt
  updatedAt : s'.updatedAt =
    if s'.expiresAt ≠ s.expiresAt then second
    else if s'.status ≠ s.status then first else s.updatedAt

theorem amends_self (s : Subscription) (first second : Instant) :
    s.Amends none first second s :=
  ⟨rfl, rfl, rfl, rfl, by rw [if_neg (· rfl), if_neg (· rfl)]⟩

/-- A status that is put in place of another amends the subscription at the first
reading of the clock, and leaves the end of the period. -/
theorem amends_replaceStatus (s : Subscription) (next : Status) (first second : Instant) :
    s.Amends none first second (s.replaceStatus next first).2 := by
  by_cases hsame : s.status = next
  · subst hsame
    rw [replaceStatus_self]
    exact s.amends_self first second
  · rw [replaceStatus_of_ne hsame]
    exact ⟨rfl, rfl, rfl, rfl, by rw [if_neg (· rfl), if_pos (Ne.symm hsame)]⟩

/-- A later end of the period amends once more, at the second reading. -/
theorem Amends.extended {s s' : Subscription} {first second : Instant}
    (h : s.Amends none first second s') (periodEnd : Instant) :
    s.Amends (some periodEnd) first second (s'.extended periodEnd second) := by
  have hkept : s'.expiresAt = s.expiresAt := h.expiresAt
  rw [Subscription.extended]
  by_cases hend : s'.expiresAt = periodEnd
  · rw [if_pos hend]
    exact ⟨h.id, h.customer, h.plan, hend, h.updatedAt⟩
  · rw [if_neg hend]
    have hmoved : periodEnd ≠ s.expiresAt := fun heq => hend (hkept.trans heq.symm)
    exact ⟨h.id, h.customer, h.plan, rfl, (if_pos hmoved).symm⟩

theorem extended_status (s : Subscription) (periodEnd now : Instant) :
    (s.extended periodEnd now).status = s.status := by
  rw [extended]
  split <;> rfl

/-! ## Calls -/

/-- What can be asked of a subscription. -/
inductive Act where
  | cancel
  | activate
  | markPastDue
  | perform (action : Action)
  | renew (periodEnd : Instant)

namespace Act

/-- The act of the name of an action. -/
def named : Action → Act
  | .cancel => cancel
  | .activate => activate
  | .markPastDue => markPastDue

/-- The action that an act performs. -/
def action : Act → Action
  | cancel => .cancel
  | activate => .activate
  | markPastDue => .markPastDue
  | perform action => action
  | renew _ => .activate

/-- Where an act puts the end of the paid period. -/
def periodEnd? : Act → Option Instant
  | renew periodEnd => some periodEnd
  | _ => none

end Act

/-- An act with the readings of the clock that it may take, one for a change of the
status and one for a change of the end of the paid period. -/
structure Call where
  act : Act
  first : Instant
  second : Instant

namespace Call

/-- The operation that is asked for.  A renewal is given the reading that it would
leave. -/
def attempt (call : Call) (s : Subscription) : Except StatusError (Transition × Subscription) :=
  match call.act with
  | .cancel => .ok (s.cancel call.first)
  | .activate => .ok (s.activate call.first)
  | .markPastDue => s.markPastDue call.first
  | .perform action => s.perform action call.first
  | .renew periodEnd =>
    .ok (s.renew periodEnd (if s.expiresAt = periodEnd then call.first else call.second))

/-- The answer to a call, and the subscription after it; a refused one is the
same as before. -/
def on (call : Call) (s : Subscription) : Except StatusError Transition × Subscription :=
  match call.attempt s with
  | .ok (t, s') => (.ok t, s')
  | .error error => (.error error, s)

/-- Every act performs its action, and moves the end of the paid period if it has
one to put. -/
theorem attempt_eq (call : Call) (s : Subscription) :
    call.attempt s = (s.perform call.act.action call.first).map fun (t, s') =>
      (t, call.act.periodEnd?.elim s' fun periodEnd => s'.extended periodEnd call.second) := by
  obtain ⟨act, first, second⟩ := call
  have hperform : ∀ action, s.perform action first =
      (s.perform action first).map fun (t, s') => (t, s') := by
    intro action
    cases s.perform action first <;> rfl
  cases act with
  | cancel => rfl
  | activate => rfl
  | markPastDue => exact hperform .markPastDue
  | perform action => exact hperform action
  | renew periodEnd => exact congrArg Except.ok (s.extended_activate periodEnd first second).symm

/-- Everything that a call can come to. -/
inductive Outcome (call : Call) (s : Subscription) :
    Except StatusError Transition → Subscription → Prop
  /-- A cancelled subscription is not marked past due, and stays as it is. -/
  | refused (haction : call.act.action = .markPastDue) (hstatus : s.status = .cancelled) :
      Outcome call s (.error (.illegal .cancelled .markPastDue)) s
  /-- The status goes by the table. -/
  | done (s' : Subscription) (hopen : ¬ (call.act.action = .markPastDue ∧ s.status = .cancelled))
      (htable : (s.status, call.act.action, s'.status) ∈ Status.table)
      (hallowed : s.status.canBecome s'.status = true)
      (hamends : s.Amends call.act.periodEnd? call.first call.second s') :
      Outcome call s (.ok ⟨s.status, s'.status⟩) s'

/-- **One call.**  Whatever is asked for, at any readings of the clock. -/
theorem outcome_on (call : Call) (s : Subscription) :
    Outcome call s (call.on s).1 (call.on s).2 := by
  rw [on, attempt_eq, Subscription.perform]
  cases hnext : s.status.apply call.act.action with
  | error error =>
      obtain ⟨haction, hstatus, rfl⟩ := Status.apply_eq_error_iff.mp hnext
      exact .refused haction hstatus
  | ok next =>
      have hopen : ¬ (call.act.action = .markPastDue ∧ s.status = .cancelled) := by
        rintro ⟨haction, hstatus⟩
        rw [haction, hstatus] at hnext
        cases hnext
      have hstatus := s.replaceStatus_status next call.first
      have hamends := s.amends_replaceStatus next call.first call.second
      have htransition : (s.replaceStatus next call.first).1 = ⟨s.status, next⟩ := rfl
      dsimp only [Except.map]
      rw [htransition]
      generalize (s.replaceStatus next call.first).2 = s' at hstatus hamends
      subst hstatus
      have htable := Status.mem_table_iff.mpr hnext
      have hallowed := Status.apply_canBecome hnext
      cases hend : call.act.periodEnd? with
      | none => exact .done s' hopen htable hallowed (hend ▸ hamends)
      | some periodEnd =>
          have hkept := s'.extended_status periodEnd call.second
          have hdone : Outcome call s (.ok ⟨s.status, (s'.extended periodEnd call.second).status⟩)
              (s'.extended periodEnd call.second) :=
            .done _ hopen (hkept ▸ htable) (hkept ▸ hallowed) (hend ▸ hamends.extended periodEnd)
          rw [hkept] at hdone
          exact hdone

variable {call : Call} {s s' : Subscription} {answer : Except StatusError Transition}

/-- A refused call puts the end of the paid period nowhere. -/
theorem Outcome.amends (h : Outcome call s answer s') :
    s.Amends call.act.periodEnd? call.first call.second s' := by
  cases h with
  | refused haction hstatus =>
      have hend : call.act.periodEnd? = none := by
        cases hact : call.act with
        | renew periodEnd =>
            rw [hact] at haction
            cases haction
        | _ => rfl
      rw [hend]
      exact s.amends_self _ _
  | done s' hopen htable hallowed hamends => exact hamends

/-- To perform an action is to do what has its name. -/
theorem on_perform (action : Action) (first second : Instant) (s : Subscription) :
    on ⟨.perform action, first, second⟩ s = on ⟨.named action, first, second⟩ s := by
  cases action <;> rfl

end Call

/-! ## Any number of calls -/

/-- A call and what came of it. -/
structure Step where
  call : Call
  before : Subscription
  answer : Except StatusError Transition
  after : Subscription

/-- What a call comes to. -/
def step (s : Subscription) (call : Call) : Step := ⟨call, s, (call.on s).1, (call.on s).2⟩

/-- The calls with what came of them, one after the other. -/
def course (s : Subscription) : List Call → List Step
  | [] => []
  | call :: rest => s.step call :: (s.step call).after.course rest

/-- The subscription after some calls. -/
def afterAll (s : Subscription) (calls : List Call) : Subscription :=
  calls.foldl (fun s call => (s.step call).after) s

/-- The last reading of the clock that a call took, for a change of the status or of
the end of the paid period. -/
def Step.reading? (x : Step) : Option Instant :=
  if x.after.expiresAt ≠ x.before.expiresAt then some x.call.second
  else if x.after.status ≠ x.before.status then some x.call.first else none

/-- **One call.** Whatever it is, a call on a subscription has the outcome that the laws
say. -/
theorem outcome_step (s : Subscription) (call : Call) :
    call.Outcome s (s.step call).answer (s.step call).after :=
  call.outcome_on s

/-- The time that is noted after a call: that of the last change in it, or the old one
if it changed nothing. -/
theorem updatedAt_step (s : Subscription) (call : Call) :
    (s.step call).after.updatedAt = (s.step call).reading?.getD s.updatedAt := by
  have hbefore : (s.step call).before = s := rfl
  have hcall : (s.step call).call = call := rfl
  rw [(s.outcome_step call).amends.updatedAt, Step.reading?, hbefore, hcall]
  split
  · rfl
  · split <;> rfl

/-- The rules that a subscription keeps to while it is called. -/
structure Life (s : Subscription) (calls : List Call) : Prop where
  /-- Every call has its answer, in order. -/
  answered : (s.course calls).map Step.call = calls
  /-- Each call finds what the one before it left. -/
  linked : (s.course calls).map Step.before ++ [s.afterAll calls] =
    s :: (s.course calls).map Step.after
  outcomes : ∀ x ∈ s.course calls, x.call.Outcome x.before x.answer x.after
  id : (s.afterAll calls).id = s.id
  customer : (s.afterAll calls).customer = s.customer
  plan : (s.afterAll calls).plan = s.plan
  expiresAt : (s.afterAll calls).expiresAt =
    (lastOf? (fun call => call.act.periodEnd?) calls).getD s.expiresAt
  updatedAt : (s.afterAll calls).updatedAt =
    (lastOf? Step.reading? (s.course calls)).getD s.updatedAt

/-- **One more call** at the beginning. What the life that follows says of the
subscription behind this call, the whole life says of the one before it. -/
theorem Life.cons {s : Subscription} {call : Call} {calls : List Call}
    (h : (s.step call).after.Life calls) : s.Life (call :: calls) := by
  have houtcome := s.outcome_step call
  have hamends := houtcome.amends
  refine ⟨congrArg (call :: ·) h.answered, congrArg (s :: ·) h.linked, ?_, h.id.trans hamends.id,
    h.customer.trans hamends.customer, h.plan.trans hamends.plan, ?_, ?_⟩
  · intro x hx
    rcases List.mem_cons.mp hx with rfl | hrest
    · exact houtcome
    · exact h.outcomes x hrest
  · rw [lastOf?_cons, Option.getD_or, ← hamends.expiresAt]
    exact h.expiresAt
  · rw [course, lastOf?_cons, Option.getD_or]
    exact h.updatedAt.trans (congrArg _ (s.updatedAt_step call))

/-- **Any calls.** The induction is on the calls, with the first one in front. -/
theorem life (s : Subscription) (calls : List Call) : s.Life calls := by
  induction calls generalizing s with
  | nil => exact ⟨rfl, rfl, fun _ hx => absurd hx List.not_mem_nil, rfl, rfl, rfl, rfl, rfl⟩
  | cons call rest ih => exact (ih _).cons

end Subscription

/-- **A life by the table.**  Call any subscription any number of times.  It keeps to
the rules; what is called next answers to an action as to the act of its name; and
the word for its status is the only one that is read as that status. -/
theorem life_of_calls (s : Subscription) (calls : List Subscription.Call) :
    s.Life calls ∧
      (∀ action first second,
        Subscription.Call.on ⟨.perform action, first, second⟩ (s.afterAll calls) =
          Subscription.Call.on ⟨.named action, first, second⟩ (s.afterAll calls)) ∧
      ∀ word, Status.parse word = .ok (s.afterAll calls).status ↔
        word = (s.afterAll calls).status.token :=
  ⟨s.life calls, fun action first second => Subscription.Call.on_perform action first second _,
    fun _ => Status.parse_eq_ok_iff⟩

end SubscriptionBilling
