import SubscriptionBilling.World
/-!
# Recording events

A recorder keeps every envelope it is given, in order of delivery.  Recorders
are numbered as they are made, and the world holds what each of them has.

* `Recording.ofTopic` and `Recording.forAggregate` select from a recording;
* `Recorder.attach` puts a new one on the bus, and `Recorder.handle` adds to one
  and never fails.
-/

namespace SubscriptionBilling

/-- The envelopes that a recorder was given, the first one first. -/
abbrev Recording := List Envelope

namespace Recording

/-- The recorded events of a topic or of one below it. -/
def ofTopic (recording : Recording) (topic : Topic) : Recording :=
  recording.filter fun e => e.isA topic

/-- The recorded events about one thing. -/
def forAggregate (recording : Recording) (aggregateId : String) : Recording :=
  recording.filter fun e => e.aggregateId == aggregateId

/-- An event of a topic, or of one below it, was recorded. -/
def has (recording : Recording) (topic : Topic) : Bool := recording.any fun e => e.isA topic

theorem has_eq_true_iff {recording : Recording} {topic : Topic} :
    recording.has topic = true ↔ recording.ofTopic topic ≠ [] := by
  simp [has, ofTopic, List.filter_eq_nil_iff]

end Recording

/-- A recorder, by its number. -/
structure Recorder where
  number : Nat
deriving DecidableEq

namespace Recorder

variable {H : Type}

/-- The name under which recorders handle events. -/
def handlerName : String := "EventRecorder"

/-- What a recorder has so far. -/
def recording (recorder : Recorder) (world : World) : Recording :=
  world.recordings.getD recorder.number []

/-- Makes a recorder. -/
def make : Activity H World Recorder := do
  let world ← Activity.get
  Activity.set { world with recordings := world.recordings ++ [[]] }
  return ⟨world.recordings.length⟩

/-- Makes a recorder and subscribes it to everything, as the handler that it is
on the bus. -/
def attach (asHandler : Recorder → H) : Activity H World Recorder := do
  let recorder ← make
  Activity.subscribeTo .any (asHandler recorder)
  return recorder

/-- Makes a recorder forget what it has. -/
def clear (recorder : Recorder) : Activity H World Unit :=
  Activity.update fun world => { world with recordings := world.recordings.set recorder.number [] }

/-- Records an event. -/
def handle (recorder : Recorder) (e : Envelope) : Activity H World (Except Failure Unit) := do
  Activity.update fun world =>
    { world with recordings := world.recordings.modify recorder.number (· ++ [e]) }
  return .ok ()

end Recorder

end SubscriptionBilling
