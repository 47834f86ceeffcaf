import SubscriptionBilling.Failure
import SubscriptionBilling.Identifier
import SubscriptionBilling.Instant.Text
import SubscriptionBilling.Json.Record
import SubscriptionBilling.Topic
/-!
# Envelopes

An envelope carries an event from where it happened to those who want to know:
its identifier and topic, the thing it happened to, when, the content as a
document, and which request and which event it goes back to.

`DomainEvent` says what a type of events has to provide, and
`Envelope.ofEvent` wraps such an event; it fails only if the event cannot be
written.
-/

namespace SubscriptionBilling

/-- Where an event comes from. -/
structure Lineage where
  correlation : Option String
  causation : Option String
deriving DecidableEq

/-- No request and no event is known. -/
def Lineage.none : Lineage := ⟨Option.none, Option.none⟩

/-- A lineage in a document. -/
def Lineage.schema : Json.Schema Lineage :=
  .record "EventMetadata"
    (.cons (.unwritten "correlation_id" .string) (.cons (.unwritten "causation_id" .string) .nil))
    (fun t => (t.correlation, t.causation, ()))
    (fun (correlation, causation, ()) => ⟨correlation, causation⟩)

/-- An event on its way. -/
structure Envelope where
  id : EventId
  topic : Topic
  schemaVersion : UInt32
  aggregateId : String
  aggregateType : String
  occurredAt : Instant
  payload : Json
  lineage : Lineage

namespace Envelope

/-- An envelope of a topic; its schema version is the topic's. -/
def new (id : EventId) (now : Instant) (topic : Topic) (aggregateId aggregateType : String)
    (payload : Json) : Envelope :=
  ⟨id, topic, topic.version, aggregateId, aggregateType, now, payload, .none⟩

/-- The envelope, going back to a request. -/
def correlatedWith (e : Envelope) (correlation : String) : Envelope :=
  { e with lineage := { e.lineage with correlation := some correlation } }

/-- The envelope, going back to an event. -/
def causedBy (e : Envelope) (causation : String) : Envelope :=
  { e with lineage := { e.lineage with causation := some causation } }

/-- The envelope's topic lies under another. -/
def isA (e : Envelope) (topic : Topic) : Bool := e.topic.isA topic

/-- The content as a value of a type. -/
def content {α : Type} (e : Envelope) (schema : Json.Schema α) : Except Json.Mismatch α :=
  schema.decode e.payload

/-- An envelope in a document. -/
def schema : Json.Schema Envelope :=
  .record "EventEnvelope"
    (.cons (.required "event_id" EventId.schema)
      (.cons (.required "event_type" Topic.schema)
        (.cons (.required "schema_version" .word32)
          (.cons (.required "aggregate_id" .string)
            (.cons (.required "aggregate_type" .string)
              (.cons (.required "occurred_at" Instant.schema)
                (.cons (.required "payload" .anything)
                  (.cons (.required "metadata" Lineage.schema) .nil))))))))
    (fun e => (e.id, e.topic, e.schemaVersion, e.aggregateId, e.aggregateType, e.occurredAt,
      e.payload, e.lineage, ()))
    (fun (id, topic, version, aggregateId, aggregateType, occurredAt, payload, lineage, ()) =>
      ⟨id, topic, version, aggregateId, aggregateType, occurredAt, payload, lineage⟩)

end Envelope

/-- What a type of events provides.  `write` may be impossible, and then says
why. -/
class DomainEvent (α : Type) where
  topic : Topic
  schemaVersion : UInt32
  aggregateType : String
  aggregateId : α → String
  occurredAt : α → Instant
  id : α → EventId
  write : α → Except String Json

/-- Wraps an event. -/
def Envelope.ofEvent {α : Type} [event : DomainEvent α] (a : α) : Except Failure Envelope :=
  match event.write a with
  | .error why =>
    .error (.new .serializationError s!"Failed to serialize {event.topic.name}: {why}")
  | .ok payload =>
    .ok ⟨event.id a, event.topic, event.schemaVersion, event.aggregateId a, event.aggregateType,
      event.occurredAt a, payload, .none⟩

end SubscriptionBilling
