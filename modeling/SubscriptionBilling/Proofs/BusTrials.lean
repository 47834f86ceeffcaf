import Mathlib
import SubscriptionBilling.Proofs.AuditTrail
/-!
# What a trial says of the bus

A trial runs an activity against a plan of failures and without a bus.  If the
activity subscribes nobody and publishes at most once, at its very end
(`Activity.Closing`), then on the bus it does the same, against the failures that
were asked for there: the result and the state are those of the trial, and it
goes on to the bus just if the publisher accepted an event in the trial
(`run_closing`).
-/

namespace SubscriptionBilling

namespace Activity

variable {H σ α β : Type}

/-- The activity neither subscribes nor publishes. -/
def Quiet : Activity H σ α → Prop
  | done _ => True
  | read next => ∀ s, (next s).Quiet
  | write _ next => next.Quiet
  | call c next => (∀ e, c ≠ .publish e) ∧ ∀ answer, (next answer).Quiet
  | log _ next => next.Quiet
  | subscribe _ _ _ => False
  | publish _ _ => False

/-- The activity subscribes nobody, and if it publishes, it ends with that. -/
inductive Closing : Activity H σ (Except Failure Unit) → Prop where
  | quiet {x} (h : x.Quiet) : Closing x
  | publish (e : Envelope) : Closing (Service.publish e : ExceptT Failure (Activity H σ) Unit).run
  | read {next} (h : ∀ s, Closing (next s)) : Closing (.read next)
  | write {s next} (h : Closing next) : Closing (.write s next)
  | call {c next} (hc : ∀ e, c ≠ .publish e) (h : ∀ answer, Closing (next answer)) :
      Closing (.call c next)
  | log {entry next} (h : Closing next) : Closing (.log entry next)

/-- A quiet activity with a quiet one behind it is quiet, whatever the first one comes
back with. -/
theorem Quiet.andThen {x : Activity H σ α} {f : α → Activity H σ β} (hx : x.Quiet)
    (hf : ∀ a, (f a).Quiet) : (x.andThen f).Quiet := by
  induction x with
  | done a => exact hf a
  | read next ih => exact fun s => ih s (hx s)
  | write s next ih => exact ih hx
  | call c next ih => exact ⟨hx.1, fun answer => ih answer (hx.2 answer)⟩
  | log entry next ih => exact ih hx
  | subscribe topic handler next => exact hx.elim
  | publish e next => exact hx.elim

/-- An activity that publishes at its end only may begin with anything quiet. -/
theorem Quiet.closing {x : Activity H σ α} {f : α → Activity H σ (Except Failure Unit)}
    (hx : x.Quiet) (hf : ∀ a, (f a).Closing) : (x.andThen f).Closing := by
  induction x with
  | done a => exact hf a
  | read next ih => exact .read fun s => ih s (hx s)
  | write s next ih => exact .write (ih hx)
  | call c next ih => exact .call hx.1 fun answer => ih answer (hx.2 answer)
  | log entry next ih => exact .log (ih hx)
  | subscribe topic handler next => exact hx.elim
  | publish e next => exact hx.elim

end Activity

/-! ## Services -/

namespace Service

variable {H α β : Type}

/-- The service neither subscribes nor publishes. -/
def Quiet (x : Service H α) : Prop := x.run.Quiet

/-- The service subscribes nobody and publishes at its end only. -/
def Closing (x : Service H Unit) : Prop := x.run.Closing

/-- Two quiet services one after the other are quiet; a failure of the first one only
makes the second one fall away. -/
theorem Quiet.bind {x : Service H α} {f : α → Service H β} (hx : Quiet x)
    (hf : ∀ a, Quiet (f a)) : Quiet (x >>= f) := by
  refine Activity.Quiet.andThen hx fun result => ?_
  cases result with
  | ok a => exact hf a
  | error failure => trivial

/-- A service that publishes at its end only may begin with a quiet one, which may also
fail. -/
theorem Quiet.closing {x : Service H α} {f : α → Service H Unit} (hx : Quiet x)
    (hf : ∀ a, Closing (f a)) : Closing (x >>= f) := by
  refine Activity.Quiet.closing hx fun result => ?_
  cases result with
  | ok a => exact hf a
  | error failure => exact .quiet trivial

/-- A quiet service is quiet when its failures are caught by quiet services. -/
theorem Quiet.tryCatch {x : Service H α} {handler : Failure → Service H α} (hx : Quiet x)
    (hhandler : ∀ failure, Quiet (handler failure)) : Quiet (tryCatch x handler) := by
  refine Activity.Quiet.andThen hx fun result => ?_
  cases result with
  | ok a => trivial
  | error failure => exact hhandler failure

theorem quiet_pure (a : α) : Quiet (pure a : Service H α) := trivial

theorem quiet_throw (failure : Failure) : Quiet (throw failure : Service H α) := trivial

theorem quiet_ofExcept (x : Except Failure α) : Quiet (liftM x : Service H α) := by
  cases x <;> trivial

theorem quiet_lift {x : Activity H World α} (hx : x.Quiet) : Quiet (lift x) :=
  hx.andThen fun _ => trivial

/-- A call that may fail publishes nothing, unless it is a publication. -/
theorem quiet_attempt {c : Call} (hc : ∀ e, c ≠ .publish e) :
    Quiet (attempt c : Service H Unit) := by
  refine ⟨hc, fun answer => ?_⟩
  cases answer <;> trivial

theorem quiet_tell (level : Log.Level) (message : String) (fields : List (String × Log.Value)) :
    Quiet (tell level message fields : Service H Unit) := trivial

theorem quiet_world : Quiet (world : Service H World) := fun _ => trivial

theorem quiet_change (f : World → World) : Quiet (change f : Service H Unit) := fun _ => trivial

theorem quiet_now : Quiet (now : Service H Instant) := fun _ => trivial

theorem quiet_freshUuid : Quiet (freshUuid : Service H Uuid) := fun _ => trivial

end Service

namespace Provisioning

open Service

variable {H : Type}

theorem quiet_customerExists (id : CustomerId) :
    Quiet (Customers.exists? id : Service H Bool) := by
  have hfind : Quiet (Customers.find? id : Service H (Option Customer)) :=
    (quiet_attempt (c := .findCustomer id) fun _ h => Call.noConfusion h).bind fun _ =>
      quiet_world.bind fun _ => quiet_pure _
  exact hfind.bind fun _ => quiet_pure _

/-- To create an account asks the gateway and publishes nothing. -/
theorem quiet_createAccount (request : AccountRequest) :
    Quiet (Accounts.create request : Service H Account) := by
  have hanswered : ∀ answer, (Trial.answered request answer : Activity H World _).Quiet := by
    rintro (error | account) <;> trivial
  have hrequest : (Accounts.request request : Activity H World _).Quiet :=
    fun _ _ => hanswered _
  refine (quiet_attempt (c := .createAccount request) fun _ h => Call.noConfusion h).bind fun _ =>
    (quiet_lift hrequest).bind fun answer => ?_
  cases answer with
  | error error => exact quiet_throw error.toFailure
  | ok account => exact quiet_pure account

/-- To store a customer publishes nothing, not even where somebody else was faster and
the failure is caught. -/
theorem quiet_store (customer : Customer) (user : UserId) :
    Quiet (store customer user : Service H Bool) := by
  have hinsert : Quiet (Customers.insert customer : Service H Unit) := by
    refine (quiet_attempt (c := .insertCustomer customer) fun _ h => Call.noConfusion h).bind
      fun _ => quiet_world.bind fun w => ?_
    cases CustomerStore.insert w.customers customer with
    | error failure => exact quiet_throw failure
    | ok store => exact quiet_change _
  refine Quiet.tryCatch (hinsert.bind fun _ => quiet_pure true) fun failure => ?_
  split
  · exact (quiet_tell _ _ _).bind fun _ => quiet_pure false
  · exact quiet_throw failure

/-- To provision publishes once at most, and then it is over: whatever comes before the
announcement is quiet. -/
theorem closing_handle (e : Envelope) : Closing (handle e : Service H Unit) := by
  refine (quiet_ofExcept _).closing fun user => (quiet_customerExists _).closing fun known => ?_
  cases known with
  | true => exact .quiet trivial
  | false =>
    refine (quiet_createAccount _).closing fun account =>
      (quiet_store _ _).closing fun stored => ?_
    cases stored with
    | false => exact .quiet trivial
    | true =>
      exact (quiet_tell _ _ _).closing fun _ => quiet_freshUuid.closing fun id =>
        quiet_now.closing fun now => (quiet_ofExcept _).closing fun announced =>
          .publish announced

end Provisioning

/-! ## On the bus -/

namespace Bus

variable {H σ α : Type}

namespace Host

/-- The failures that were asked for, as a plan. -/
def plan (host : Host H σ) : Plan := fun _ c => host.faults c.operation

/-- The host in the state that a trial reached. -/
def reaching (host : Host H σ) (t : Trial σ) (log : List Log.Entry) : Host H σ :=
  { host with state := t.state, log := log }

end Host

/-- Only what goes to the publisher can be accepted by it, so any other call leaves that
list alone. -/
theorem accepted_noted {t : Trial σ} {c : Call} (hc : ∀ e, c ≠ .publish e)
    (answer : Option Failure) : (t.noted c answer).journal.accepted = t.journal.accepted := by
  have hnothing : Journal.accepted [(c, answer)] = [] := by
    cases c with
    | publish e => exact absurd rfl (hc e)
    | _ => rfl
  rw [Trial.journal_noted, Journal.accepted_append, hnothing, List.append_nil]

/-- **A quiet activity** does on the bus what it does in a trial. -/
theorem run_quiet {x : Activity H σ α} (hx : x.Quiet) {host : Host H σ} {t : Trial σ}
    (ht : t.state = host.state) :
    (x.trial host.plan t).2.journal.accepted = t.journal.accepted ∧ ∃ log,
      (∀ name publish, run name publish x host =
        some ((x.trial host.plan t).1, host.reaching (x.trial host.plan t).2 log)) ∧
      ∀ name publish meanwhile, publications name publish meanwhile x host = [] := by
  induction x generalizing host t with
  | done a =>
      refine ⟨rfl, host.log, fun name publish => ?_, fun _ _ _ => rfl⟩
      rw [Activity.trial, Host.reaching, ht]
      rfl
  | read next ih =>
      have hnext := ih host.state (hx host.state) ht
      rw [Activity.trial, ht]
      exact hnext
  | write s next ih => exact @ih hx { host with state := s } (t.inState s) rfl
  | call c next ih =>
      have hnext := ih (host.faults c.operation) (hx.2 _)
        (t := t.noted c (host.faults c.operation)) ht
      rw [accepted_noted hx.1] at hnext
      exact hnext
  | log entry next ih => exact @ih hx { host with log := host.log ++ [entry] } t ht
  | subscribe topic handler next => exact hx.elim
  | publish e next => exact hx.elim

/-- How an activity that closes with what it publishes can end on the bus, given
what a trial of it came to. -/
inductive Closes (x : Activity H σ (Except Failure Unit)) (host : Host H σ) (before : Journal) :
    Except Failure Unit × Trial σ → Prop
  /-- The publisher accepted nothing, and nothing is published. -/
  | still {result t} (log : List Log.Entry) (haccepted : t.journal.accepted = before.accepted)
      (hrun : ∀ name publish, run name publish x host = some (result, host.reaching t log))
      (hpublished : ∀ name publish meanwhile, publications name publish meanwhile x host = []) :
      Closes x host before (result, t)
  /-- The publisher accepted an event, and that is published at the end. -/
  | handing {result t} (e : Envelope) (log : List Log.Entry)
      (haccepted : t.journal.accepted = before.accepted ++ [e])
      (hrun : ∀ name publish, run name publish x host = publish e (host.reaching t log))
      (hpublished : ∀ name publish meanwhile, publications name publish meanwhile x host =
        e :: meanwhile e (host.reaching t log)) : Closes x host before (result, t)

/-- One step that publishes nothing, and then the rest: what closes from there closes
from here, if the step leads bus and trial to the same place. -/
theorem Closes.step {x y : Activity H σ (Except Failure Unit)} {host host' : Host H σ}
    {before before' : Journal} {r : Except Failure Unit × Trial σ} (h : Closes y host' before' r)
    (hbefore : before'.accepted = before.accepted)
    (hhost : ∀ t log, host'.reaching t log = host.reaching t log)
    (hrun : ∀ name publish, run name publish x host = run name publish y host')
    (hpublished : ∀ name publish meanwhile,
      publications name publish meanwhile x host = publications name publish meanwhile y host') :
    Closes x host before r := by
  cases h with
  | still log haccepted hrest hquiet =>
      refine .still log (hbefore ▸ haccepted) (fun name publish => ?_)
        fun name publish meanwhile => ?_
      · rw [hrun, hrest, hhost]
      · rw [hpublished, hquiet]
  | handing e log haccepted hrest hlast =>
      refine .handing e log (hbefore ▸ haccepted) (fun name publish => ?_)
        fun name publish meanwhile => ?_
      · rw [hrun, hrest, hhost]
      · rw [hpublished, hlast, hhost]

/-- To publish is to ask the publisher first: if it refuses, bus and trial both end with
its failure, and otherwise the bus delivers. -/
theorem closes_publish (e : Envelope) {host : Host H σ} {t : Trial σ} (ht : t.state = host.state) :
    Closes (Service.publish e : ExceptT Failure (Activity H σ) Unit).run host t.journal
      ((Service.publish e : ExceptT Failure (Activity H σ) Unit).run.trial host.plan t) := by
  -- The question to the publisher, and what follows its answer.
  obtain ⟨next, hcall, hnone, hsome⟩ : ∃ next : Option Failure → Activity H σ (Except Failure Unit),
      (Service.publish e : ExceptT Failure (Activity H σ) Unit).run = .call (.publish e) next ∧
        next none = Activity.send e ∧ ∀ failure, next (some failure) = .done (.error failure) :=
    ⟨_, rfl, rfl, fun _ => rfl⟩
  have hplan : host.plan t.journal (.publish e) = host.faults .publish := rfl
  have hasked : host.faults (Call.publish e).operation = host.faults .publish := rfl
  have hstate : ∀ answer, host.reaching (t.noted (.publish e) answer) host.log = host := by
    intro answer
    rw [Host.reaching, Trial.state_noted, ht]
  rw [hcall, Activity.trial, hplan]
  cases hfault : host.faults .publish with
  | none =>
      rw [hnone, Activity.send, Activity.trial, Activity.trial]
      refine .handing e host.log (Journal.accepted_append _ _) (fun name publish => ?_)
        fun name publish meanwhile => ?_
      · rw [run, hasked, hfault, hnone, hstate, Activity.send, run]
        cases publish e host <;> rfl
      · rw [publications, hasked, hfault, hnone, hstate, Activity.send, publications]
        cases publish e host <;> simp [publications]
  | some failure =>
      rw [hsome, Activity.trial]
      refine .still host.log ?_ (fun name publish => ?_) fun name publish meanwhile => ?_
      · rw [Trial.journal_noted, Journal.accepted_append]
        exact List.append_nil _
      · rw [run, hasked, hfault, hsome, hstate]
        rfl
      · rw [publications, hasked, hfault, hsome]
        rfl

/-- **An activity that closes with what it publishes** does on the bus what it
does in a trial, and then publishes there. -/
theorem run_closing {x : Activity H σ (Except Failure Unit)} (hx : x.Closing) {host : Host H σ}
    {t : Trial σ} (ht : t.state = host.state) :
    Closes x host t.journal (x.trial host.plan t) := by
  induction hx generalizing host t with
  | quiet h =>
      obtain ⟨haccepted, log, hrun, hpublished⟩ := run_quiet h ht
      exact .still log haccepted hrun hpublished
  | publish e => exact closes_publish e ht
  | read h ih =>
      rw [Activity.trial, ht]
      exact (ih host.state ht).step rfl (fun _ _ => rfl) (fun _ _ => rfl) fun _ _ _ => rfl
  | @write s next h ih =>
      have hnext := @ih { host with state := s } (t.inState s) rfl
      exact hnext.step rfl (fun _ _ => rfl) (fun _ _ => rfl) fun _ _ _ => rfl
  | @call c next hc h ih =>
      have hnext := ih (host.faults c.operation) (t := t.noted c (host.faults c.operation)) ht
      exact hnext.step (accepted_noted hc _) (fun _ _ => rfl) (fun _ _ => rfl) fun _ _ _ => rfl
  | @log entry next h ih =>
      have hnext := @ih { host with log := host.log ++ [entry] } t ht
      exact hnext.step rfl (fun _ _ => rfl) (fun _ _ => rfl) fun _ _ _ => rfl

end Bus

end SubscriptionBilling
