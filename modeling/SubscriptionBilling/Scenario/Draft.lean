import SubscriptionBilling.World
/-!
# Drafts of envelopes

An envelope as far as a script fixes it.  What it leaves open, the identifier
and the time, is filled in when the envelope is made.
-/

namespace SubscriptionBilling.Scenario

/-- An envelope with its identifier and its time left open or fixed. -/
structure Draft where
  topic : Topic
  aggregateId : String
  aggregateType : String
  payload : Json
  id : Option EventId
  occurredAt : Option Instant
  lineage : Lineage

namespace Draft

/-- The envelope of a draft, given what fills its gaps. -/
def fill (draft : Draft) (id : EventId) (now : Instant) : Envelope :=
  let e := Envelope.new (draft.id.getD id) (draft.occurredAt.getD now) draft.topic
    draft.aggregateId draft.aggregateType draft.payload
  { e with lineage := draft.lineage }

/-- Makes the envelope of a draft at this moment. -/
def envelope {H : Type} (draft : Draft) : Activity H World Envelope := do
  let id ← World.freshUuid
  let now ← World.now
  return draft.fill (.ofUuid id) now

end Draft

end SubscriptionBilling.Scenario
