import SubscriptionBilling.Activity
import SubscriptionBilling.Bus.Registry
/-!
# Running activities on the bus

A host is a bus with the state that its handlers share, the log, and the
failures that were asked for.  Publishing calls the handlers that match when it
begins, one after another, until one fails; each handler is an activity of its
own and may publish and subscribe in turn.

The depth bounds how deeply publications may be nested.  A run that would go
deeper has no result at all, which is different from every failure.

* `Bus.run` runs an activity, given how to publish;
* `Host.publish` publishes, one level of nesting after the other;
* `Host.perform` is both together.
-/

namespace SubscriptionBilling.Bus

/-- The place that the bus logs from, as filters name it. -/
def place : String := "billing_core::adapters::events::in_memory"

/-- A bus, the state of its handlers, the log so far, and the failures asked
for. -/
structure Host (H σ : Type) where
  registry : Registry H
  state : σ
  log : List Log.Entry
  faults : Operation → Option Failure

/-- What handlers are called and what they do. -/
structure Handling (H σ : Type) where
  name : H → String
  handle : H → Envelope → Activity H σ (Except Failure Unit)

namespace Host

variable {H σ : Type}

/-- An empty bus over a state, where nothing is to fail. -/
def new (state : σ) : Host H σ := ⟨.empty, state, [], fun _ => none⟩

/-- Writes to the log. -/
def note (host : Host H σ) (level : Log.Level) (message : String)
    (fields : List (String × Log.Value)) : Host H σ :=
  { host with log := host.log ++ [⟨level, message, fields⟩] }

/-- Makes an operation fail, or work again. -/
def setFault (host : Host H σ) (operation : Operation) (failure : Option Failure) : Host H σ :=
  { host with faults := fun o => if o = operation then failure else host.faults o }

/-- Subscribes a handler to a topic. -/
def subscribe (name : H → String) (topic : Topic) (handler : H) (host : Host H σ) : Host H σ :=
  let host := host.note .debug "Subscribing handler"
    [("event_type", .text topic.name), ("handler", .text (name handler))]
  { host with registry := host.registry.subscribe topic handler }

/-- What a publication on a host comes to: nothing if it is nested too deeply,
else whether all handlers succeeded, and the host after it. -/
abbrev Publisher (H σ : Type) := Envelope → Host H σ → Option (Except Failure Unit × Host H σ)

end Host

/-- Runs an activity on a host, given how to publish. -/
def run {H σ α : Type} (name : H → String) (publish : Host.Publisher H σ) :
    Activity H σ α → Host H σ → Option (α × Host H σ)
  | .done a, host => some (a, host)
  | .read next, host => run name publish (next host.state) host
  | .write s next, host => run name publish next { host with state := s }
  | .call c next, host => run name publish (next (host.faults c.operation)) host
  | .log entry next, host => run name publish next { host with log := host.log ++ [entry] }
  | .subscribe topic handler next, host =>
    run name publish next (host.subscribe name topic handler)
  | .publish e next, host =>
    match publish e host with
    | none => none
    | some (answer, host) => run name publish (next answer) host

/-- A run of one activity after another is one run after another. -/
theorem run_andThen {H σ α β : Type} (name : H → String) (publish : Host.Publisher H σ)
    (x : Activity H σ α) (f : α → Activity H σ β) (host : Host H σ) :
    run name publish (x.andThen f) host =
      (run name publish x host).bind fun r => run name publish (f r.1) r.2 := by
  induction x generalizing host with
  | done a => rfl
  | read next ih => exact ih host.state host
  | write s next ih => exact ih { host with state := s }
  | call c next ih => exact ih (host.faults c.operation) host
  | log entry next ih => exact ih { host with log := host.log ++ [entry] }
  | subscribe topic handler next ih => exact ih (host.subscribe name topic handler)
  | publish e next ih =>
    simp only [Activity.andThen, run]
    cases publish e host with
    | none => rfl
    | some r => exact ih r.1 r.2

namespace Host

variable {H σ α : Type}

/-- Calls handlers one after another until one fails. -/
def deliver (name : H → String)
    (call : H → Host H σ → Option (Except Failure Unit × Host H σ)) (e : Envelope) :
    List H → Host H σ → Option (Except Failure Unit × Host H σ)
  | [], host => some (.ok (), host)
  | handler :: rest, host =>
    match call handler host with
    | none => none
    | some (.ok (), host) => deliver name call e rest host
    | some (.error failure, host) =>
      some (.error failure,
        host.note .warn "Event handler failed, stopping delivery"
          [("event_type", .text e.topic.name), ("event_id", .text e.id.text),
            ("handler", .text (name handler)), ("error", .text failure.display)])

/-- The host when the handlers of an event are about to be called. -/
def opening (e : Envelope) (host : Host H σ) : Host H σ :=
  host.note .debug "Publishing event"
    [("event_type", .text e.topic.name), ("event_id", .text e.id.text),
      ("handlers", .count (host.registry.matching e.topic).length)]

/-- Publishes an event, with so many levels of nesting allowed. -/
def publish (handling : Handling H σ) : Nat → Publisher H σ
  | 0, _, _ => none
  | depth + 1, e, host =>
    deliver handling.name
      (fun handler => run handling.name (publish handling depth) (handling.handle handler e))
      e (host.registry.matching e.topic) (host.opening e)

/-- Runs an activity on a host. -/
def perform (handling : Handling H σ) (depth : Nat) (activity : Activity H σ α)
    (host : Host H σ) : Option (α × Host H σ) :=
  run handling.name (publish handling depth) activity host

end Host

end SubscriptionBilling.Bus
