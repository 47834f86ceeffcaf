import SubscriptionBilling.Activity
/-!
# Trials: activities against a plan of failures

A trial runs an activity without a bus.  Every call is put to a plan, which sees
the journal so far and decides whether the call fails, so that any pattern of
failures is some plan; a call that is to fail has no effect.  Events go to a
publisher that accepts whatever the plan lets through and touches nothing.

The journal keeps every call with its answer, in order.  `trial_andThen` runs one
activity after another, and `journal_isPrefix_trial` says that a trial only ever
adds to the journal.  `Trial.run` is a trial of an activity that may fail, and
the lemmas named `run_` say what it makes of each way to build one.
-/

namespace SubscriptionBilling

/-- The calls made so far with their answers, the first one first. -/
abbrev Journal := List (Call × Option Failure)

namespace Journal

/-- The events handed to the publisher, accepted or not. -/
def handed (j : Journal) : List Envelope :=
  j.filterMap fun
    | (.publish e, _) => some e
    | _ => none

/-- The events that the publisher accepted. -/
def accepted (j : Journal) : List Envelope :=
  j.filterMap fun
    | (.publish e, none) => some e
    | _ => none

/-- The failures that calls met. -/
def failures (j : Journal) : List Failure := j.filterMap Prod.snd

theorem handed_append (j k : Journal) : handed (j ++ k) = handed j ++ handed k :=
  List.filterMap_append

theorem accepted_append (j k : Journal) : accepted (j ++ k) = accepted j ++ accepted k :=
  List.filterMap_append

/-- No call failed. -/
def Smooth (j : Journal) : Prop := ∀ entry ∈ j, entry.2 = none

theorem smooth_nil : Smooth [] := fun _ h => absurd h List.not_mem_nil

theorem smooth_singleton (c : Call) : Smooth [(c, none)] := by
  intro entry hentry
  rw [List.mem_singleton] at hentry
  rw [hentry]

theorem Smooth.append {j k : Journal} (hj : j.Smooth) (hk : k.Smooth) : Smooth (j ++ k) := by
  intro entry hentry
  rcases List.mem_append.mp hentry with h | h
  · exact hj entry h
  · exact hk entry h

/-- If no call failed, the publisher accepted all that it was handed. -/
theorem Smooth.accepted_eq {j : Journal} (h : j.Smooth) : accepted j = handed j := by
  induction j with
  | nil => rfl
  | cons entry rest ih =>
    obtain ⟨c, answer⟩ := entry
    have hpasses : answer = none := h (c, answer) List.mem_cons_self
    have hrest := ih fun entry hentry => h entry (List.mem_cons_of_mem _ hentry)
    subst hpasses
    rw [accepted, handed] at hrest
    cases c <;> simp only [accepted, handed, List.filterMap_cons, hrest]

end Journal

/-- Which calls are to fail, given what was called before. -/
abbrev Plan := Journal → Call → Option Failure

namespace Plan

/-- Nothing fails. -/
def smooth : Plan := fun _ _ => none

/-- Only the publisher may refuse; it goes by the event and by those that it was
handed before. -/
def ofPublisher (answer : List Envelope → Envelope → Option Failure) : Plan
  | j, .publish e => answer j.handed e
  | _, _ => none

end Plan

/-- A state and the journal. -/
structure Trial (σ : Type) where
  state : σ
  journal : Journal

namespace Trial

variable {σ : Type}

/-- Nothing was called yet. -/
def new (state : σ) : Trial σ := ⟨state, []⟩

/-- The trial with one more call in its journal. -/
def noted (t : Trial σ) (c : Call) (answer : Option Failure) : Trial σ :=
  { t with journal := t.journal ++ [(c, answer)] }

/-- The trial in another state. -/
def inState (t : Trial σ) (s : σ) : Trial σ := { t with state := s }

variable (t : Trial σ) (c : Call) (answer : Option Failure)

@[simp]
theorem state_noted : (t.noted c answer).state = t.state := rfl

@[simp]
theorem journal_noted : (t.noted c answer).journal = t.journal ++ [(c, answer)] := rfl

end Trial

namespace Activity

variable {H σ α β : Type}

/-- Runs an activity against a plan. -/
def trial (plan : Plan) : Activity H σ α → Trial σ → α × Trial σ
  | done a, t => (a, t)
  | read next, t => trial plan (next t.state) t
  | write s next, t => trial plan next (t.inState s)
  | call c next, t =>
    let answer := plan t.journal c
    trial plan (next answer) (t.noted c answer)
  | log _ next, t => trial plan next t
  | subscribe _ _ next, t => trial plan next t
  | publish _ next, t => trial plan (next (.ok ())) t

/-- A trial of one activity after another is one trial after another. -/
theorem trial_andThen (plan : Plan) (x : Activity H σ α) (f : α → Activity H σ β) (t : Trial σ) :
    (x.andThen f).trial plan t = (f (x.trial plan t).1).trial plan (x.trial plan t).2 := by
  induction x generalizing t with
  | done a => rfl
  | read next ih => exact ih t.state t
  | write s next ih => exact ih (t.inState s)
  | call c next ih => exact ih _ _
  | log entry next ih => exact ih t
  | subscribe topic handler next ih => exact ih t
  | publish e next ih => exact ih (.ok ()) t

/-- A trial only adds to the journal. -/
theorem journal_isPrefix_trial (plan : Plan) (x : Activity H σ α) (t : Trial σ) :
    t.journal <+: (x.trial plan t).2.journal := by
  induction x generalizing t with
  | done a => exact List.prefix_refl _
  | read next ih => exact ih t.state t
  | write s next ih => exact ih (t.inState s)
  | call c next ih =>
    have further := ih (plan t.journal c) (t.noted c (plan t.journal c))
    exact (List.prefix_append _ _).trans further
  | log entry next ih => exact ih t
  | subscribe topic handler next ih => exact ih t
  | publish e next ih => exact ih (.ok ()) t

end Activity

namespace Trial

variable {H σ ε α β : Type}

/-- A trial of an activity that may fail. -/
def run (plan : Plan) (x : ExceptT ε (Activity H σ) α) (t : Trial σ) : Except ε α × Trial σ :=
  Activity.trial plan x.run t

variable (plan : Plan) (t : Trial σ)

@[simp]
theorem run_pure (a : α) :
    run plan (pure a : ExceptT ε (Activity H σ) α) t = (.ok a, t) := rfl

@[simp]
theorem run_throw (e : ε) :
    run plan (throw e : ExceptT ε (Activity H σ) α) t = (.error e, t) := rfl

/-- What comes after a failure is left out. -/
@[simp]
theorem run_bind (x : ExceptT ε (Activity H σ) α) (f : α → ExceptT ε (Activity H σ) β) :
    run plan (x >>= f) t =
      match run plan x t with
      | (.ok a, t) => run plan (f a) t
      | (.error e, t) => (.error e, t) := by
  show Activity.trial plan (x.run.andThen _) t = _
  rw [Activity.trial_andThen]
  show _ = match Activity.trial plan x.run t with
    | (.ok a, t) => run plan (f a) t
    | (.error e, t) => (.error e, t)
  obtain ⟨result, t'⟩ := Activity.trial plan x.run t
  cases result <;> rfl

theorem run_bind_ok {plan : Plan} {t t' : Trial σ} {x : ExceptT ε (Activity H σ) α} {a : α}
    (h : run plan x t = (.ok a, t')) (f : α → ExceptT ε (Activity H σ) β) :
    run plan (x >>= f) t = run plan (f a) t' := by
  rw [run_bind, h]

theorem run_bind_error {plan : Plan} {t t' : Trial σ} {x : ExceptT ε (Activity H σ) α} {e : ε}
    (h : run plan x t = (.error e, t')) (f : α → ExceptT ε (Activity H σ) β) :
    run plan (x >>= f) t = (.error e, t') := by
  rw [run_bind, h]

/-- A failure is handled where it was met. -/
theorem run_tryCatch (x : ExceptT ε (Activity H σ) α) (handler : ε → ExceptT ε (Activity H σ) α) :
    run plan (tryCatch x handler) t =
      match run plan x t with
      | (.ok a, t) => (.ok a, t)
      | (.error e, t) => run plan (handler e) t := by
  show Activity.trial plan (x.run.andThen _) t = _
  rw [Activity.trial_andThen]
  show _ = match Activity.trial plan x.run t with
    | (.ok a, t) => (Except.ok a, t)
    | (.error e, t) => run plan (handler e) t
  obtain ⟨result, t'⟩ := Activity.trial plan x.run t
  cases result <;> rfl

/-- An activity that cannot fail. -/
@[simp]
theorem run_lift (x : Activity H σ α) :
    run plan (ExceptT.lift x : ExceptT ε (Activity H σ) α) t =
      (.ok (x.trial plan t).1, (x.trial plan t).2) := by
  show Activity.trial plan (x.andThen _) t = _
  rw [Activity.trial_andThen]
  rfl

/-- A result that is there already. -/
@[simp]
theorem run_ofExcept (x : Except ε α) :
    run plan (liftM x : ExceptT ε (Activity H σ) α) t = (x, t) := rfl

end Trial

end SubscriptionBilling
