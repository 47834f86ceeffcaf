import Mathlib
import SubscriptionBilling.Proofs.Sparing
/-!
# The trail that a recorder keeps

A recorder that is attached to a new bus before anything else hears of every
event: `recording_eq_published` says that it has just the events that were passed
to publish since it was last cleared, each once, in the order in which these
publications began, whichever other handlers are subscribed, and however these
fail, subscribe or publish in turn.  A recorder that is subscribed again, or called
past the bus, has other events (`recording_ne_published`).

`Bus.publications` tells from a run which events were published, without any
recorder: an event first, then those that its handlers publish.  `Listens` is
what carries the proof, and `listens_run` and `listens_publish` keep it: the
recorder stands first in the registry, only there, and has the events so far.
-/

namespace SubscriptionBilling.Bus

variable {H σ α : Type}

/-! ## The events that are published -/

/-- The events that are published while an activity runs, in the order in which
their publications begin, given how to publish and what is published meanwhile. -/
def publications (name : H → String) (publish : Host.Publisher H σ)
    (meanwhile : Envelope → Host H σ → List Envelope) : Activity H σ α → Host H σ → List Envelope
  | .done _, _ => []
  | .read next, host => publications name publish meanwhile (next host.state) host
  | .write s next, host => publications name publish meanwhile next { host with state := s }
  | .call c next, host =>
    publications name publish meanwhile (next (host.faults c.operation)) host
  | .log entry next, host =>
    publications name publish meanwhile next { host with log := host.log ++ [entry] }
  | .subscribe topic handler next, host =>
    publications name publish meanwhile next (host.subscribe name topic handler)
  | .publish e next, host =>
    e :: meanwhile e host ++
      match publish e host with
      | none => []
      | some (answer, host) => publications name publish meanwhile (next answer) host

namespace Host

/-- The events that are published while handlers are called, one after another
until one fails. -/
def publicationsOfCalls (call : H → Host H σ → Option (Except Failure Unit × Host H σ))
    (meanwhile : H → Host H σ → List Envelope) : List H → Host H σ → List Envelope
  | [], _ => []
  | handler :: rest, host =>
    meanwhile handler host ++
      match call handler host with
      | some (.ok (), host) => publicationsOfCalls call meanwhile rest host
      | _ => []

/-- The events that are published while an event is being published. -/
def meanwhile (handling : Handling H σ) : Nat → Envelope → Host H σ → List Envelope
  | 0, _, _ => []
  | depth + 1, e, host =>
    publicationsOfCalls
      (fun handler => run handling.name (publish handling depth) (handling.handle handler e))
      (fun handler => publications handling.name (publish handling depth)
        (meanwhile handling depth) (handling.handle handler e))
      (host.registry.matching e.topic) (host.opening e)

/-- The events that are published while an activity runs on a host. -/
def published (handling : Handling H σ) (depth : Nat) (activity : Activity H σ α)
    (host : Host H σ) : List Envelope :=
  publications handling.name (publish handling depth) (meanwhile handling depth) activity host

end Host

/-! ## The first of all handlers -/

/-- The handler is subscribed to everything before anything else is, and nowhere
a second time. -/
def Registry.LedBy (me : H) (r : Registry H) : Prop :=
  ∃ others rest, r.groups = (.any, me :: others) :: rest ∧ me ∉ others ∧
    ∀ group ∈ rest, me ∉ group.2

namespace Registry

variable {me handler : H} {r : Registry H} {topic : Topic}

/-- The first handler that is subscribed to everything leads the registry. -/
theorem ledBy_first (me : H) : LedBy me (empty.subscribe .any me) :=
  ⟨[], [], rfl, List.not_mem_nil, List.forall_mem_nil _⟩

/-- Wherever another handler is added to the groups, `me` is in no group that it was not
in before. -/
theorem not_mem_add (hother : handler ≠ me) {groups : List (Topic × List H)}
    (h : ∀ group ∈ groups, me ∉ group.2) : ∀ group ∈ add topic handler groups, me ∉ group.2 := by
  induction groups with
  | nil => simpa [add] using hother.symm
  | cons first rest ih =>
      obtain ⟨t, handlers⟩ := first
      obtain ⟨hfirst, hrest⟩ := List.forall_mem_cons.mp h
      rw [add]
      split
      · refine List.forall_mem_cons.mpr ⟨?_, hrest⟩
        simpa [hother.symm] using hfirst
      · exact List.forall_mem_cons.mpr ⟨hfirst, ih hrest⟩

/-- Whatever another handler subscribes to, the first one goes on leading: its group
stays the first, and it stays the first of its group. -/
theorem LedBy.subscribe (h : r.LedBy me) (hother : handler ≠ me) (topic : Topic) :
    (r.subscribe topic handler).LedBy me := by
  obtain ⟨others, rest, hgroups, hothers, hrest⟩ := h
  by_cases htopic : Topic.any = topic
  · refine ⟨others ++ [handler], rest, ?_, ?_, hrest⟩
    · show add topic handler r.groups = _
      rw [hgroups, add, if_pos htopic, List.cons_append]
    · simpa [hother.symm] using hothers
  · refine ⟨others, add topic handler rest, ?_, hothers, not_mem_add hother hrest⟩
    show add topic handler r.groups = _
    rw [hgroups, add, if_neg htopic]

/-- Whatever is published goes to the first handler first, since every topic lies under
that of everything, and to that handler only once. -/
theorem LedBy.matching (h : r.LedBy me) (t : Topic) :
    ∃ rest, r.matching t = me :: rest ∧ me ∉ rest := by
  obtain ⟨others, rest, hgroups, hothers, hrest⟩ := h
  refine ⟨others ++ (rest.filter fun group => t.isA group.1).flatMap Prod.snd, ?_, ?_⟩
  · have hany : t.isA .any = true := rfl
    simp only [Registry.matching, hgroups, List.filter_cons, hany, if_true, List.flatMap_cons,
      List.cons_append]
  · rw [List.mem_append, List.mem_flatMap, not_or]
    refine ⟨hothers, ?_⟩
    rintro ⟨group, hgroup, hmem⟩
    exact hrest group (List.mem_filter.mp hgroup).1 hmem

end Registry

/-! ## What a run keeps -/

variable {r : Recorder} {me : H} {recording : Recording}

/-- The recorder is the first handler on the bus, and has these events. -/
structure Listens (r : Recorder) (me : H) (host : Host H World) (recording : Recording) : Prop where
  first : host.registry.LedBy me
  has : r.Has host.state recording

/-- A publication adds the event and those that are published meanwhile. -/
def Heard (r : Recorder) (me : H) (publish : Host.Publisher H World)
    (meanwhile : Envelope → Host H World → List Envelope) : Prop :=
  ∀ {e host recording answer host'}, Listens r me host recording →
    publish e host = some (answer, host') →
      Listens r me host' (recording ++ e :: meanwhile e host)

/-- **An activity.**  If it spares the recorder, this one has the events that are
published meanwhile. -/
theorem listens_run {name : H → String} {publish : Host.Publisher H World}
    {meanwhile : Envelope → Host H World → List Envelope} (hpublish : Heard r me publish meanwhile)
    {x : Activity H World α} (hx : x.Spares r me recording) {host host' : Host H World} {a : α}
    (h : Listens r me host recording) (hrun : run name publish x host = some (a, host')) :
    Listens r me host' (recording ++ publications name publish meanwhile x host) := by
  induction x generalizing recording host with
  | done b =>
      cases hrun
      rwa [publications, List.append_nil]
  | read next ih => exact ih _ (hx host.state h.has) h hrun
  | write w next ih => exact ih hx.2 ⟨h.first, hx.1⟩ hrun
  | call c next ih => exact ih _ (hx _) h hrun
  | log entry next ih => exact ih hx ⟨h.first, h.has⟩ hrun
  | subscribe topic handler next ih =>
      exact ih hx.2 ⟨h.first.subscribe hx.1 topic, h.has⟩ hrun
  | publish e next ih =>
      rw [run] at hrun
      rw [publications]
      cases hanswer : publish e host with
      | none =>
          rw [hanswer] at hrun
          cases hrun
      | some out =>
          obtain ⟨answer, host₁⟩ := out
          rw [hanswer] at hrun
          have hrest := ih answer (hx answer _) (hpublish h hanswer) hrun
          rwa [List.append_assoc] at hrest

/-- **The handlers of an event.**  What each of them adds is what they all add. -/
theorem listens_deliver {name : H → String} {e : Envelope} {handlers : List H}
    {call : H → Host H World → Option (Except Failure Unit × Host H World)}
    {meanwhile : H → Host H World → List Envelope}
    (hcall : ∀ handler ∈ handlers, ∀ {recording host answer host'}, Listens r me host recording →
      call handler host = some (answer, host') →
        Listens r me host' (recording ++ meanwhile handler host))
    {host host' : Host H World} {answer : Except Failure Unit}
    (h : Listens r me host recording)
    (hdeliver : Host.deliver name call e handlers host = some (answer, host')) :
    Listens r me host' (recording ++ Host.publicationsOfCalls call meanwhile handlers host) := by
  induction handlers generalizing recording host with
  | nil =>
      cases hdeliver
      rwa [Host.publicationsOfCalls, List.append_nil]
  | cons handler rest ih =>
      rw [Host.deliver] at hdeliver
      rw [Host.publicationsOfCalls]
      cases hanswer : call handler host with
      | none =>
          rw [hanswer] at hdeliver
          cases hdeliver
      | some out =>
          obtain ⟨result, host₁⟩ := out
          have hfirst := hcall handler List.mem_cons_self h hanswer
          rw [hanswer] at hdeliver
          cases result with
          | error failure =>
              cases hdeliver
              rw [List.append_nil]
              exact ⟨hfirst.first, hfirst.has⟩
          | ok u =>
              have hrest := ih (fun handler hmem => hcall handler (List.mem_cons_of_mem _ hmem))
                hfirst hdeliver
              rwa [List.append_assoc] at hrest

/-- On the bus, `me` is a recorder, and the other handlers leave it alone. -/
structure Recorded (handling : Handling H World) (r : Recorder) (me : H) : Prop where
  records : ∀ e, handling.handle me e = r.handle e
  spares : ∀ handler ≠ me, ∀ e, (handling.handle handler e).Sparing r me

/-- The recorder is given an event: this always succeeds, and the event stands behind
those that were recorded. -/
theorem run_record (name : H → String) (publish : Host.Publisher H World) {host : Host H World}
    (h : Listens r me host recording) (e : Envelope) :
    ∃ host', run name publish (r.handle e) host = some (.ok (), host') ∧
      Listens r me host' (recording ++ [e]) := by
  refine ⟨_, rfl, h.first, ?_⟩
  show (host.state.recordings.modify r.number (· ++ [e]))[r.number]? = some (recording ++ [e])
  rw [List.getElem?_modify_eq, h.has]
  rfl

/-- **One publication.**  The recorder hears of the event before anything is
published in turn. -/
theorem listens_publish {handling : Handling H World} (hrecorded : Recorded handling r me)
    (depth : Nat) : Heard r me (Host.publish handling depth) (Host.meanwhile handling depth) := by
  induction depth with
  | zero =>
      intro e host recording answer host' h hpublish
      cases hpublish
  | succ depth ih =>
      intro e host recording answer host' h hpublish
      obtain ⟨rest, hmatching, hme⟩ := h.first.matching e.topic
      have hopening : Listens r me (host.opening e) recording := ⟨h.first, h.has⟩
      obtain ⟨host₁, hfirst, h₁⟩ :=
        run_record handling.name (Host.publish handling depth) hopening e
      -- To record an event publishes nothing.
      have hquiet : publications handling.name (Host.publish handling depth)
          (Host.meanwhile handling depth) (r.handle e) (host.opening e) = [] := rfl
      rw [Host.publish, hmatching, Host.deliver, hrecorded.records, hfirst] at hpublish
      rw [Host.meanwhile, hmatching, Host.publicationsOfCalls, hrecorded.records, hquiet, hfirst,
        List.nil_append]
      have hrest := listens_deliver (fun handler hmem recording host answer host' h hrun =>
        listens_run ih (hrecorded.spares handler (fun heq => hme (heq ▸ hmem)) e _) h hrun)
        h₁ hpublish
      rwa [List.append_assoc] at hrest

/-! ## The whole trail -/

/-- What is done to the bus from outside: an activity runs, or the recorder is
made to forget. -/
inductive Deed (H : Type) where
  | act (x : Activity H World Unit)
  | clear

namespace Deed

variable (handling : Handling H World) (depth : Nat) (r : Recorder)

/-- The activity of a deed. -/
def activity : Deed H → Activity H World Unit
  | act x => x
  | clear => r.clear

/-- The events that were published since the recorder was last cleared, after a
deed, given those before it. -/
def since (sofar : List Envelope) (host : Host H World) : Deed H → List Envelope
  | act x => sofar ++ host.published handling depth x
  | clear => []

/-- The deed leaves the recorder alone, unless it clears it. -/
def Sparing (me : H) : Deed H → Prop
  | act x => x.Sparing r me
  | clear => True

end Deed

namespace Host

variable (handling : Handling H World) (depth : Nat) (r : Recorder)

/-- The host after some deeds. -/
def performAll : List (Deed H) → Host H World → Option (Host H World)
  | [], host => some host
  | deed :: rest, host =>
    match host.perform handling depth (deed.activity r) with
    | none => none
    | some (_, host) => performAll rest host

/-- The events that were published since the recorder was last cleared, after
some deeds, given those before them. -/
def publishedSince : List (Deed H) → List Envelope → Host H World → List Envelope
  | [], sofar, _ => sofar
  | deed :: rest, sofar, host =>
    match host.perform handling depth (deed.activity r) with
    | none => deed.since handling depth sofar host
    | some (_, host') => publishedSince rest (deed.since handling depth sofar host) host'

end Host

/-- A recorder that is attached to a bus without subscriptions. -/
theorem listens_attach (handling : Handling H World) (depth : Nat) {host start : Host H World}
    (hnew : host.registry = .empty) {asHandler : Recorder → H}
    (hattach : host.perform handling depth (Recorder.attach asHandler) = some (r, start)) :
    Listens r (asHandler r) start [] := by
  cases hattach
  refine ⟨?_, List.getElem?_concat_length⟩
  show (host.registry.subscribe .any _).LedBy _
  rw [hnew]
  exact Registry.ledBy_first _

/-- **One deed.** After an activity the recorder has what was published meanwhile behind
what it had, and after it was cleared it has nothing. -/
theorem listens_deed {handling : Handling H World} {depth : Nat}
    (hrecorded : Recorded handling r me) {deed : Deed H} (hsparing : deed.Sparing r me)
    {host host' : Host H World} (h : Listens r me host recording) {u : Unit}
    (hrun : host.perform handling depth (deed.activity r) = some (u, host')) :
    Listens r me host' (deed.since handling depth recording host) := by
  cases deed with
  | act x => exact listens_run (listens_publish hrecorded depth) (hsparing recording) h hrun
  | clear =>
      cases hrun
      refine ⟨h.first, ?_⟩
      show (host.state.recordings.set r.number [])[r.number]? = some []
      have hheld : host.state.recordings[r.number]? = some recording := h.has
      rw [List.getElem?_set_self', hheld]
      rfl

/-- **Any number of deeds.** The induction is on the deeds, over any recording to begin
with: what one deed leaves is what the next one begins with. -/
theorem listens_performAll {handling : Handling H World} {depth : Nat}
    (hrecorded : Recorded handling r me) {deeds : List (Deed H)}
    (hsparing : ∀ deed ∈ deeds, deed.Sparing r me) {host host' : Host H World}
    (h : Listens r me host recording)
    (hrun : host.performAll handling depth r deeds = some host') :
    Listens r me host' (host.publishedSince handling depth r deeds recording) := by
  induction deeds generalizing host recording with
  | nil =>
      cases hrun
      exact h
  | cons deed rest ih =>
      obtain ⟨hdeed, hrest⟩ := List.forall_mem_cons.mp hsparing
      rw [Host.performAll] at hrun
      rw [Host.publishedSince]
      cases hperform : host.perform handling depth (deed.activity r) with
      | none =>
          rw [hperform] at hrun
          cases hrun
      | some out =>
          rw [hperform] at hrun
          exact ih hrest (listens_deed hrecorded hdeed h hperform) hrun

/-- To ask for a topic further down is to get a part of the same events, in the same
order, since what lies under it lies under the one above. -/
theorem sublist_ofTopic (recording : Recording) {topic above : Topic}
    (h : topic.isA above = true) :
    (recording.ofTopic topic).Sublist (recording.ofTopic above) := by
  have hsub : recording.ofTopic topic = (recording.ofTopic above).ofTopic topic := by
    rw [Recording.ofTopic, Recording.ofTopic, Recording.ofTopic, List.filter_filter]
    refine List.filter_congr fun e _ => ?_
    cases hunder : e.isA topic with
    | false => rfl
    | true => exact (Topic.isA_trans hunder h).symm
  rw [hsub]
  exact List.filter_sublist

/-- **The trail.**  Attach a recorder to a bus without subscriptions, and let
anything run on this bus that neither writes to the recorder nor subscribes it
again.  If publications are nested no deeper than the bus goes, the recorder has
just the events that were published since it was last cleared, in the order in
which their publications began.  Of these it tells for every topic those that lie
under it, which are more the higher the topic stands. -/
theorem recording_eq_published {handling : Handling H World} {depth : Nat}
    {host start stop : Host H World} (hnew : host.registry = .empty) {asHandler : Recorder → H}
    (hattach : host.perform handling depth (Recorder.attach asHandler) = some (r, start))
    (hrecorded : Recorded handling r (asHandler r)) {deeds : List (Deed H)}
    (hsparing : ∀ deed ∈ deeds, deed.Sparing r (asHandler r))
    (hrun : start.performAll handling depth r deeds = some stop) :
    r.recording stop.state = start.publishedSince handling depth r deeds [] ∧
      ∀ topic, (r.recording stop.state).ofTopic topic =
          (start.publishedSince handling depth r deeds []).filter (·.isA topic) ∧
        ((r.recording stop.state).has topic = true ↔
          (r.recording stop.state).ofTopic topic ≠ []) ∧
        ∀ above, topic.isA above = true →
          ((r.recording stop.state).ofTopic topic).Sublist
            ((r.recording stop.state).ofTopic above) := by
  have hattached := listens_attach handling depth hnew hattach
  have hlistens := listens_performAll hrecorded hsparing hattached hrun
  have htrail := hlistens.has.recording_eq
  refine ⟨htrail, fun topic => ⟨?_, Recording.has_eq_true_iff, fun above h => sublist_ofTopic _ h⟩⟩
  rw [htrail]
  rfl

namespace Sample

open Scenario

/-- An event of a topic, as far as it is fixed. -/
def draft (topic : String) : Draft := ⟨⟨topic⟩, "1", "Test", .null, none, none, .none⟩

/-- A handler that answers each first event with a second one, and fails. -/
def relay : Handler :=
  .scripted (.mk "relay" (some ⟨"first"⟩) none (some (draft "second")) false
    (some (.database "down")))

/-- Publishes an event, whatever comes of it. -/
def publishing (topic : String) : Act Unit := do
  let e ← (draft topic).envelope
  let _ ← Activity.send e
  return ()

/-- The relay is at work before and after the recorder is cleared. -/
def deeds : List (Deed Handler) :=
  [.act (Activity.subscribeTo ⟨"first"⟩ relay), .act (publishing "first"), .clear,
    .act (publishing "*"), .act (publishing "first")]

theorem sparing_deeds (r : Recorder) : ∀ deed ∈ deeds, deed.Sparing r (.recorder r) := by
  have hpublishing : ∀ topic, (publishing topic).Sparing r (.recorder r) := fun topic recording =>
    ((draft topic).sparing_envelope recording).andThen fun _ _ _ _ => trivial
  simp only [deeds, List.forall_mem_cons]
  exact ⟨Activity.sparing_subscribeTo Handler.noConfusion _, hpublishing _, trivial,
    hpublishing _, hpublishing _, List.forall_mem_nil _⟩

/-- A bus where nothing has happened yet. -/
def bus : Host Handler World := .new (.new (.new (fun _ => default) Uuid.ofNat))

/-- The recorder is subscribed to a topic besides, under which an event is published. -/
def again (r : Recorder) : List (Deed Handler) :=
  [.act (Activity.subscribeTo ⟨"first"⟩ (.recorder r)), .act (publishing "first")]

/-- The recorder is given an event, past the bus. -/
def unpublished (r : Recorder) : List (Deed Handler) :=
  [.act do
    let e ← (draft "first").envelope
    let _ ← r.handle e
    return ()]

end Sample

open Scenario in
/-- The relay fails at each first event, and what it publishes is recorded behind
that. -/
theorem recording_eq_published_relayed :
    ∃ r start stop, Sample.bus.registry = .empty ∧
      Sample.bus.perform Handler.handling 3 (Recorder.attach .recorder) = some (r, start) ∧
      Recorded Handler.handling r (.recorder r) ∧
      (∀ deed ∈ Sample.deeds, deed.Sparing r (.recorder r)) ∧
      start.performAll Handler.handling 3 r Sample.deeds = some stop ∧
      (r.recording stop.state).map (·.topic.name) = ["*", "first", "second"] ∧
      r.recording stop.state = start.publishedSince Handler.handling 3 r Sample.deeds [] := by
  have hrecorded : ∀ r, Recorded Handler.handling r (.recorder r) := fun r =>
    ⟨fun _ => rfl, fun handler hother e => Scenario.sparing_handle hother e⟩
  obtain ⟨r, start, hattach⟩ : ∃ r start,
      Sample.bus.perform Handler.handling 3 (Recorder.attach .recorder) = some (r, start) :=
    ⟨_, _, rfl⟩
  have hstop : ((Sample.bus.perform Handler.handling 3 (Recorder.attach .recorder)).bind fun out =>
      (out.2.performAll Handler.handling 3 out.1 Sample.deeds).map fun stop =>
        (out.1.recording stop.state).map (·.topic.name)) = some ["*", "first", "second"] := by
    cbv
  rw [hattach, Option.bind_some, Option.map_eq_some_iff] at hstop
  obtain ⟨stop, hrun, htopics⟩ := hstop
  obtain ⟨htrail, -⟩ := recording_eq_published rfl hattach (hrecorded r) (Sample.sparing_deeds r)
    hrun
  exact ⟨r, start, stop, rfl, hattach, hrecorded r, Sample.sparing_deeds r, hrun, htopics, htrail⟩

open Scenario in
/-- A recorder that is subscribed again has an event as often as it is subscribed
to it, though it was published once, and one that is called past the bus has an
event that was never published: the trail needs deeds that spare the recorder. -/
theorem recording_ne_published :
    (∃ r start stop e, Sample.bus.registry = .empty ∧
      Sample.bus.perform Handler.handling 3 (Recorder.attach .recorder) = some (r, start) ∧
      start.performAll Handler.handling 3 r (Sample.again r) = some stop ∧
      r.recording stop.state = [e, e] ∧
      start.publishedSince Handler.handling 3 r (Sample.again r) [] = [e]) ∧
    ∃ r start stop e, Sample.bus.registry = .empty ∧
      Sample.bus.perform Handler.handling 3 (Recorder.attach .recorder) = some (r, start) ∧
      start.performAll Handler.handling 3 r (Sample.unpublished r) = some stop ∧
      r.recording stop.state = [e] ∧
      start.publishedSince Handler.handling 3 r (Sample.unpublished r) [] = [] :=
  ⟨⟨_, _, _, _, rfl, rfl, rfl, rfl, rfl⟩, ⟨_, _, _, _, rfl, rfl, rfl, rfl, rfl⟩⟩

end SubscriptionBilling.Bus
