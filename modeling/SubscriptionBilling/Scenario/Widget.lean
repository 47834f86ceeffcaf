import SubscriptionBilling.Envelope
/-!
# Events of a scenario

Two event types beside those of billing: one of a later schema version, and one
that cannot be written.
-/

namespace SubscriptionBilling.Scenario

/-- A widget was shipped. -/
structure WidgetShipped where
  id : EventId
  widget : String
  occurredAt : Instant
deriving DecidableEq

namespace WidgetShipped

/-- The event in a document. -/
def schema : Json.Schema WidgetShipped :=
  .record "WidgetShipped"
    (.cons (.required "event_id" EventId.schema)
      (.cons (.required "widget_id" .string)
        (.cons (.required "occurred_at" Instant.schema) .nil)))
    (fun e => (e.id, e.widget, e.occurredAt, ()))
    (fun (id, widget, occurredAt, ()) => ⟨id, widget, occurredAt⟩)

instance : DomainEvent WidgetShipped where
  topic := ⟨"test.widget.shipped.v2"⟩
  schemaVersion := 2
  aggregateType := "Widget"
  aggregateId e := e.widget
  occurredAt e := e.occurredAt
  id e := e.id
  write e := .ok (schema.value e)

end WidgetShipped

/-- An event that cannot be written; trying tells which widget it was about. -/
structure Unserializable where
  id : EventId
  widget : String
  occurredAt : Instant
deriving DecidableEq

namespace Unserializable

/-- The event in a document; it can only be read. -/
def schema : Json.Schema Unserializable :=
  .record "Unserializable"
    (.cons (.required "event_id" EventId.schema)
      (.cons (.required "widget_id" .string)
        (.cons (.required "occurred_at" Instant.schema) .nil)))
    (fun e => (e.id, e.widget, e.occurredAt, ()))
    (fun (id, widget, occurredAt, ()) => ⟨id, widget, occurredAt⟩)

instance : DomainEvent Unserializable where
  topic := ⟨"test.unserializable.v1"⟩
  schemaVersion := 1
  aggregateType := "Widget"
  aggregateId e := e.widget
  occurredAt e := e.occurredAt
  id e := e.id
  write e := .error e.widget

end Unserializable

end SubscriptionBilling.Scenario
