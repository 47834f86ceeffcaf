import SubscriptionBilling.Uuid
/-!
# Identifiers

Subscriptions, customers and users have UUIDs of distinct types.  A customer is
provisioned from a user and shares its UUID (`CustomerId.ofUser`).  Events have
identifiers that may be any text.
-/

namespace SubscriptionBilling

/-- The identifier of a subscription. -/
structure SubscriptionId where
  uuid : Uuid
deriving DecidableEq, Inhabited

/-- The identifier of a billing customer. -/
structure CustomerId where
  uuid : Uuid
deriving DecidableEq, Inhabited

/-- The identifier of a user. -/
structure UserId where
  uuid : Uuid
deriving DecidableEq, Inhabited

/-- The identifier of an event. -/
structure EventId where
  text : String
deriving DecidableEq, Inhabited

namespace SubscriptionId

/-- The text of the identifier. -/
def text (id : SubscriptionId) : String := id.uuid.text

/-- Reads an identifier. -/
def parse (s : String) : Except Uuid.Refusal SubscriptionId := (Uuid.parse s).map mk

/-- An identifier in a document. -/
def schema : Json.Schema SubscriptionId := Uuid.schema.wrapped mk uuid

theorem text_injective {a b : SubscriptionId} (h : a.text = b.text) : a = b := by
  cases a
  cases b
  exact congrArg mk (Uuid.text_injective h)

end SubscriptionId

namespace CustomerId

/-- The text of the identifier. -/
def text (id : CustomerId) : String := id.uuid.text

/-- Reads an identifier. -/
def parse (s : String) : Except Uuid.Refusal CustomerId := (Uuid.parse s).map mk

/-- The customer provisioned from a user. -/
def ofUser (user : UserId) : CustomerId := ⟨user.uuid⟩

/-- An identifier in a document. -/
def schema : Json.Schema CustomerId := Uuid.schema.wrapped mk uuid

theorem text_injective {a b : CustomerId} (h : a.text = b.text) : a = b := by
  cases a
  cases b
  exact congrArg mk (Uuid.text_injective h)

theorem ofUser_injective {u v : UserId} (h : ofUser u = ofUser v) : u = v := by
  cases u
  cases v
  exact congrArg UserId.mk (CustomerId.mk.inj h)

end CustomerId

namespace UserId

/-- The text of the identifier. -/
def text (id : UserId) : String := id.uuid.text

/-- Reads an identifier. -/
def parse (s : String) : Except Uuid.Refusal UserId := (Uuid.parse s).map mk

/-- An identifier in a document. -/
def schema : Json.Schema UserId := Uuid.schema.wrapped mk uuid

theorem text_injective {a b : UserId} (h : a.text = b.text) : a = b := by
  cases a
  cases b
  exact congrArg mk (Uuid.text_injective h)

end UserId

namespace EventId

/-- A UUID as the identifier of an event. -/
def ofUuid (u : Uuid) : EventId := ⟨u.text⟩

/-- An identifier in a document. -/
def schema : Json.Schema EventId := Json.Schema.string.wrapped mk text

end EventId

end SubscriptionBilling
