import SubscriptionBilling.Bus.Host
import SubscriptionBilling.Bus.Recorder
import SubscriptionBilling.Scenario.Draft
import SubscriptionBilling.Service.Provisioning
/-!
# Handlers of a scenario

The handlers that a scenario puts on the bus: provisioning, recorders, and
scripted handlers that do what their script says.  A script may subscribe
further scripts and publish further events while an event is being delivered,
which is what the bus has to cope with.
-/

namespace SubscriptionBilling.Scenario

/-- What a scripted handler does, in this order: it notes the event; it stops
there if it is for another topic only; it subscribes another script; it
publishes an event; it reads the content as a sign-up; it fails. -/
inductive Script where
  | mk (name : String) (onlyFor : Option Topic) (subscribes : Option (Topic × Script))
    (publishes : Option Draft) (reads : Bool) (fails : Option Failure)

/-- The name of a script. -/
def Script.name : Script → String
  | mk name _ _ _ _ _ => name

/-- A handler on the bus. -/
inductive Handler where
  | provisioning
  | recorder (r : Recorder)
  | scripted (script : Script)

/-- What a handler may do. -/
abbrev Act (α : Type) := Activity Handler World α

namespace Script

/-- Publishes an event that goes back to the one being handled. -/
def send (draft : Draft) (cause : Envelope) : Service Handler Unit := do
  let e ← Service.lift draft.envelope
  ExceptT.mk (Activity.send (e.causedBy cause.id.text))

/-- The content is a sign-up. -/
def readSignUp (e : Envelope) : Except Failure Unit :=
  match e.content UserCreated.schema with
  | .ok _ => .ok ()
  | .error m => .error (.new .serializationError m.message)

/-- Subscribes the script that is to be subscribed. -/
def subscribeNext : Option (Topic × Script) → Service Handler Unit
  | some (topic, script) => Service.lift (Activity.subscribeTo topic (.scripted script))
  | none => return ()

/-- Publishes the event that is to be published. -/
def publishNext (cause : Envelope) : Option Draft → Service Handler Unit
  | some draft => send draft cause
  | none => return ()

/-- The content is a sign-up, if it has to be. -/
def readNext (e : Envelope) (reads : Bool) : Except Failure Unit :=
  if reads then readSignUp e else .ok ()

/-- Fails if it is to fail. -/
def failNext : Option Failure → Service Handler Unit
  | some failure => throw failure
  | none => return ()

/-- What follows the note. -/
def react (e : Envelope) : Script → Service Handler Unit
  | mk _ onlyFor subscribes publishes reads fails =>
    if onlyFor.getD e.topic = e.topic then do
      subscribeNext subscribes
      publishNext e publishes
      readNext e reads
      failNext fails
    else return ()

/-- Handles an event as the script says. -/
def handle (script : Script) (e : Envelope) : Service Handler Unit := do
  Service.lift (World.take (.event script.name e.topic e.aggregateId))
  script.react e

end Script

namespace Handler

/-- The name of a handler. -/
def name : Handler → String
  | provisioning => Provisioning.name
  | recorder _ => Recorder.handlerName
  | scripted script => script.name

/-- What a handler does with an event. -/
def handle : Handler → Envelope → Act (Except Failure Unit)
  | provisioning, e => (Provisioning.handle e).run
  | recorder r, e => r.handle e
  | scripted script, e => (script.handle e).run

/-- The handlers, for the bus. -/
def handling : Bus.Handling Handler World := ⟨name, handle⟩

/-- How deeply publications may be nested in a scenario. -/
def nestingLimit : Nat := 100000

/-- Runs an activity on a bus with these handlers. -/
def perform {α : Type} (act : Act α) (host : Bus.Host Handler World) :
    Option (α × Bus.Host Handler World) :=
  host.perform handling nestingLimit act

end Handler

end SubscriptionBilling.Scenario
