import SubscriptionBilling.Activity
/-!
# The world of the services

The state that services and handlers share: the two stores, the payment
provider, what each recorder has recorded, what scripted handlers were given, and
a `Supply` of clock readings and new UUIDs.  Nothing here is random: a supply
is two sequences of which every reading takes the next member.
-/

namespace SubscriptionBilling

/-- Clock readings and new UUIDs, and how many of each were taken. -/
structure Supply where
  clock : Nat → Instant
  readings : Nat
  uuids : Nat → Uuid
  drawn : Nat

namespace Supply

/-- A supply from its two sequences. -/
def new (clock : Nat → Instant) (uuids : Nat → Uuid) : Supply := ⟨clock, 0, uuids, 0⟩

/-- Reads the clock. -/
def now (s : Supply) : Instant × Supply :=
  (s.clock s.readings, { s with readings := s.readings + 1 })

/-- Takes a new UUID. -/
def fresh (s : Supply) : Uuid × Supply := (s.uuids s.drawn, { s with drawn := s.drawn + 1 })

end Supply

/-- What a scripted handler or route was given. -/
inductive Note where
  | event (handler : String) (topic : Topic) (aggregateId : String)
  | body (route : String) (data : Json)

/-- The state of the services. -/
structure World where
  customers : OrderedMap CustomerId Customer
  subscriptions : OrderedMap SubscriptionId Subscription
  gateway : Gateway
  supply : Supply
  recordings : List (List Envelope)
  notes : List Note

/-- Nothing has happened yet. -/
def World.new (supply : Supply) : World := ⟨.empty, .empty, .empty, supply, [], []⟩

namespace World

variable {H : Type}

/-- Reads the clock. -/
def now : Activity H World Instant := do
  let world ← Activity.get
  let (instant, supply) := world.supply.now
  Activity.set { world with supply := supply }
  return instant

/-- Takes a new UUID. -/
def freshUuid : Activity H World Uuid := do
  let world ← Activity.get
  let (uuid, supply) := world.supply.fresh
  Activity.set { world with supply := supply }
  return uuid

/-- Notes what a scripted handler or route was given. -/
def take (note : Note) : Activity H World Unit :=
  Activity.update fun world => { world with notes := world.notes ++ [note] }

end World

end SubscriptionBilling
