import SubscriptionBilling.Proofs.Calls
import SubscriptionBilling.Scenario.Handler
/-!
# Activities that leave a recorder alone

What a recorder has is a part of the state that all handlers share.  An activity
spares the recorder if it writes nothing there of its own and does not subscribe
it again; what is recorded while it publishes is another matter
(`Activity.Spares`).  `Sparing.bind` says that services which spare a recorder do
so one after the other, and `sparing_handle` that the handlers of a scenario
spare every recorder but themselves.
-/

namespace SubscriptionBilling

/-- The world holds the recorder, and this is what it has. -/
def Recorder.Has (r : Recorder) (w : World) (recording : Recording) : Prop :=
  w.recordings[r.number]? = some recording

/-- A recorder that has a recording is one that tells of just these events. -/
theorem Recorder.Has.recording_eq {r : Recorder} {w : World} {recording : Recording}
    (h : r.Has w recording) : r.recording w = recording := by
  rw [Recorder.recording, List.getD_eq_getElem?_getD, h]
  rfl

namespace Activity

variable {H α β : Type}

/-- From a time at which this is what the recorder has, the activity leaves it
so, until it publishes; and it does not subscribe the recorder, which is `me` on
the bus. -/
def Spares (r : Recorder) (me : H) : Activity H World α → Recording → Prop
  | done _, _ => True
  | read next, recording => ∀ w, r.Has w recording → (next w).Spares r me recording
  | write w next, recording => r.Has w recording ∧ next.Spares r me recording
  | call _ next, recording => ∀ answer, (next answer).Spares r me recording
  | log _ next, recording => next.Spares r me recording
  | subscribe _ handler next, recording => handler ≠ me ∧ next.Spares r me recording
  | publish _ next, _ => ∀ answer recording, (next answer).Spares r me recording

/-- The activity spares the recorder, whatever it has. -/
def Sparing (r : Recorder) (me : H) (x : Activity H World α) : Prop :=
  ∀ recording, x.Spares r me recording

variable {r : Recorder} {me : H}

/-- An activity and what follows it spare the recorder together. What follows has to do
so whatever the recording, since it starts from the answer of the first part. -/
theorem Spares.andThen {x : Activity H World α} {f : α → Activity H World β}
    {recording : Recording} (hx : x.Spares r me recording) (hf : ∀ a, Sparing r me (f a)) :
    (x.andThen f).Spares r me recording := by
  induction x generalizing recording with
  | done a => exact hf a recording
  | read next ih => exact fun w hw => ih w (hx w hw)
  | write w next ih => exact ⟨hx.1, ih hx.2⟩
  | call c next ih => exact fun answer => ih answer (hx answer)
  | log entry next ih => exact ih hx
  | subscribe topic handler next ih => exact ⟨hx.1, ih hx.2⟩
  | publish e next ih => exact fun answer recording => ih answer (hx answer recording)

/-- A change of anything in the world but the recordings spares every recorder. -/
theorem sparing_update {f : World → World} (hf : ∀ w, (f w).recordings = w.recordings) :
    Sparing r me (update f : Activity H World Unit) := by
  intro recording w hw
  refine ⟨?_, trivial⟩
  show (f w).recordings[r.number]? = some recording
  rw [hf]
  exact hw

theorem sparing_send (e : Envelope) : Sparing r me (send e : Activity H World _) :=
  fun _ _ _ => trivial

/-- To subscribe a handler that is another than the recorder leaves the recorder alone.
-/
theorem sparing_subscribeTo {handler : H} (hother : handler ≠ me) (topic : Topic) :
    Sparing r me (subscribeTo topic handler : Activity H World Unit) :=
  fun _ => ⟨hother, trivial⟩

end Activity

/-! ## Services -/

namespace Service

open Activity

variable {H α β : Type} {r : Recorder} {me : H}

/-- The service spares the recorder. -/
def Sparing (r : Recorder) (me : H) (x : Service H α) : Prop := x.run.Sparing r me

/-- Two services one after the other: a failure of the first one ends both, and until
then each of them spares the recorder. -/
theorem Sparing.bind {x : Service H α} {f : α → Service H β} (hx : Sparing r me x)
    (hf : ∀ a, Sparing r me (f a)) : Sparing r me (x >>= f) := by
  intro recording
  refine (hx recording).andThen fun result => ?_
  cases result with
  | ok a => exact hf a
  | error failure => exact fun _ => trivial

/-- A service that is caught when it fails spares the recorder if the service and its
catcher do. -/
theorem Sparing.tryCatch {x : Service H α} {handler : Failure → Service H α}
    (hx : Sparing r me x) (hhandler : ∀ failure, Sparing r me (handler failure)) :
    Sparing r me (tryCatch x handler) := by
  intro recording
  refine (hx recording).andThen fun result => ?_
  cases result with
  | ok a => exact fun _ => trivial
  | error failure => exact hhandler failure

theorem sparing_pure (a : α) : Sparing r me (pure a : Service H α) := fun _ => trivial

theorem sparing_throw (failure : Failure) : Sparing r me (throw failure : Service H α) :=
  fun _ => trivial

theorem sparing_ofExcept (x : Except Failure α) : Sparing r me (liftM x : Service H α) := by
  intro recording
  cases x <;> trivial

theorem sparing_lift {x : Activity H World α} (hx : x.Sparing r me) :
    Sparing r me (lift x) :=
  fun recording => (hx recording).andThen fun _ _ => trivial

theorem sparing_attempt (c : Call) : Sparing r me (attempt c : Service H Unit) := by
  intro recording answer
  cases answer <;> trivial

theorem sparing_tell (level : Log.Level) (message : String)
    (fields : List (String × Log.Value)) :
    Sparing r me (tell level message fields : Service H Unit) :=
  fun _ => trivial

theorem sparing_world : Sparing r me (world : Service H World) := fun _ _ _ => trivial

/-- Whatever is written to the world spares the recorder, as long as no recording is
written. -/
theorem sparing_change {f : World → World} (hf : ∀ w, (f w).recordings = w.recordings) :
    Sparing r me (change f : Service H Unit) :=
  sparing_lift (sparing_update hf)

theorem sparing_now : Sparing r me (now : Service H Instant) := fun _ _ hw => ⟨hw, trivial⟩

theorem sparing_freshUuid : Sparing r me (freshUuid : Service H Uuid) :=
  fun _ _ hw => ⟨hw, trivial⟩

theorem sparing_publish (e : Envelope) : Sparing r me (publish e : Service H Unit) :=
  (sparing_attempt _).bind fun _ => sparing_send e

end Service

/-! ## Provisioning -/

namespace Provisioning

open Service

variable {H : Type} {r : Recorder} {me : H}

theorem sparing_customerExists (id : CustomerId) :
    Sparing r me (Customers.exists? id : Service H Bool) :=
  ((sparing_attempt _).bind fun _ => sparing_world.bind fun _ => sparing_pure _).bind
    fun _ => sparing_pure _

theorem sparing_insertCustomer (customer : Customer) :
    Sparing r me (Customers.insert customer : Service H Unit) := by
  refine (sparing_attempt _).bind fun _ => sparing_world.bind fun w => ?_
  cases CustomerStore.insert w.customers customer with
  | error failure => exact sparing_throw failure
  | ok store => exact sparing_change fun _ => rfl

theorem sparing_request (request : AccountRequest) :
    (Accounts.request request : Activity H World _).Sparing r me := by
  have hfresh : (World.freshUuid : Activity H World Uuid).Sparing r me :=
    fun _ _ hw => ⟨hw, trivial⟩
  have hanswered : ∀ answer, (Trial.answered request answer : Activity H World _).Sparing r me := by
    rintro (error | account) <;> exact fun _ => trivial
  exact fun recording => (hfresh recording).andThen fun _ _ _ hw => ⟨hw, hanswered _ _⟩

/-- The gateway keeps its accounts apart from the recordings, so that opening one leaves
the recorder alone, whether the call fails or not. -/
theorem sparing_createAccount (request : AccountRequest) :
    Sparing r me (Accounts.create request : Service H Account) := by
  refine (sparing_attempt _).bind fun _ =>
    (sparing_lift (sparing_request request)).bind fun answer => ?_
  cases answer with
  | error error => exact sparing_throw error.toFailure
  | ok account => exact sparing_pure account

/-- To store a new customer, or to find that somebody else was faster, writes to the
customers only. -/
theorem sparing_store (customer : Customer) (user : UserId) :
    Sparing r me (store customer user : Service H Bool) := by
  refine Sparing.tryCatch ((sparing_insertCustomer customer).bind fun _ => sparing_pure true)
    fun failure => ?_
  split
  · exact (sparing_tell _ _ _).bind fun _ => sparing_pure false
  · exact sparing_throw failure

/-- **The handlers of a scenario.** Each but the recorder itself leaves it alone,
whatever event it is given. -/
theorem sparing_handle (e : Envelope) : Sparing r me (handle e : Service H Unit) := by
  refine (sparing_ofExcept _).bind fun user => (sparing_customerExists _).bind fun known => ?_
  cases known with
  | true => exact (sparing_tell _ _ _).bind fun _ => sparing_pure ()
  | false =>
    refine (sparing_createAccount _).bind fun account =>
      (sparing_store _ _).bind fun stored => ?_
    cases stored with
    | false => exact sparing_pure ()
    | true =>
      exact (sparing_tell _ _ _).bind fun _ => sparing_freshUuid.bind fun id =>
        sparing_now.bind fun now => (sparing_ofExcept _).bind fun announced =>
          sparing_publish announced

end Provisioning

/-! ## The handlers of a scenario -/

namespace Scenario

open Service

variable {r : Recorder}

theorem Draft.sparing_envelope {H : Type} {me : H} (draft : Draft) :
    (draft.envelope : Activity H World Envelope).Sparing r me :=
  fun _ _ hw => ⟨hw, fun _ hw' => ⟨hw', trivial⟩⟩

theorem Script.sparing_send (draft : Draft) (cause : Envelope) :
    Sparing r (.recorder r) (Script.send draft cause) :=
  (sparing_lift draft.sparing_envelope).bind fun _ => Activity.sparing_send _

/-- What a script does about an event spares the recorder in each of its steps: it
subscribes another script, never a recorder. -/
theorem Script.sparing_react (e : Envelope) (script : Script) :
    Sparing r (.recorder r) (script.react e) := by
  obtain ⟨name, onlyFor, subscribes, publishes, reads, fails⟩ := script
  have hsubscribe : Sparing r (.recorder r) (subscribeNext subscribes) := by
    rcases subscribes with _ | ⟨topic, script⟩
    · exact sparing_pure ()
    · exact sparing_lift (Activity.sparing_subscribeTo Handler.noConfusion topic)
  have hpublish : Sparing r (.recorder r) (publishNext e publishes) := by
    cases publishes with
    | none => exact sparing_pure ()
    | some draft => exact sparing_send draft e
  have hfail : Sparing r (.recorder r) (failNext fails) := by
    cases fails with
    | none => exact sparing_pure ()
    | some failure => exact sparing_throw failure
  rw [react]
  split
  · exact hsubscribe.bind fun _ => hpublish.bind fun _ => (sparing_ofExcept _).bind
      fun _ => hfail
  · exact sparing_pure ()

/-- A scripted handler leaves the recorder alone, for the event that it is made for and
for every other one. -/
theorem Script.sparing_handle (script : Script) (e : Envelope) :
    Sparing r (.recorder r) (script.handle e) :=
  (sparing_lift (Activity.sparing_update fun _ => rfl)).bind fun _ => script.sparing_react e

/-- A recorder that is given an event leaves the others alone, as each writes under its
own number. -/
theorem sparing_record {other : Recorder} (hother : other ≠ r) (e : Envelope) {me : Handler} :
    (other.handle e : Act _).Sparing r me := by
  intro recording w hw
  refine ⟨?_, trivial⟩
  have hnumber : other.number ≠ r.number := by
    cases other
    cases r
    exact fun h => hother (congrArg Recorder.mk h)
  show (w.recordings.modify other.number (· ++ [e]))[r.number]? = some recording
  have hkept : w.recordings[r.number]? = some recording := hw
  simp [hnumber, hkept]

/-- **The handlers of a scenario.** -/
theorem sparing_handle {handler : Handler} (hother : handler ≠ .recorder r) (e : Envelope) :
    (handler.handle e).Sparing r (.recorder r) := by
  cases handler with
  | provisioning => exact Provisioning.sparing_handle e
  | recorder other => exact sparing_record (fun h => hother (congrArg _ h)) e
  | scripted script => exact script.sparing_handle e

end Scenario

end SubscriptionBilling
