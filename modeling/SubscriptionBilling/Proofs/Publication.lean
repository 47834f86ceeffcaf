import Mathlib
import SubscriptionBilling.Bus.Host
import SubscriptionBilling.Store
/-!
# Publishing several events

Events are published one after the other, and each goes to its handlers one after
the other.  `publishAll_calls` says which calls of handlers that makes: those
that are due, in order, up to and including the first that fails, and none after
it; and the failure comes back unaltered.

The handlers here keep a log of their calls and answer by what is in it
(`Handling.answering`), so that a handler may answer by all that it was given
before.  `Ends` is how a series of calls can end, and `ends_deliver` and
`ends_publishAll` go through the two loops.
-/

namespace SubscriptionBilling.Bus

variable {H σ : Type}

/-! ## Services on the bus -/

namespace Host

variable {α β : Type}

/-- What follows a service, unless it failed. -/
def proceed (next : α → Host H σ → Option (Except Failure β × Host H σ)) :
    Except Failure α × Host H σ → Option (Except Failure β × Host H σ)
  | (.ok a, host) => next a host
  | (.error failure, host) => some (.error failure, host)

variable (handling : Handling H σ) (depth : Nat) (host : Host H σ)

/-- One service after another: the second one runs on the host that the first one left,
if the first one succeeded. -/
theorem perform_bind (x : ExceptT Failure (Activity H σ) α)
    (f : α → ExceptT Failure (Activity H σ) β) :
    host.perform handling depth (x >>= f).run =
      (host.perform handling depth x.run).bind
        (proceed fun a host => host.perform handling depth (f a).run) := by
  show run handling.name _ (x.run.andThen _) host = _
  rw [run_andThen]
  refine congrArg (Option.bind _) (funext fun r => ?_)
  obtain ⟨result, host'⟩ := r
  cases result <;> rfl

/-- Where the publisher works, a service publishes on the bus. -/
theorem perform_publish (hfaults : host.faults .publish = none) (e : Envelope) :
    host.perform handling depth (Service.publish e).run = publish handling depth e host := by
  have hattempt : host.perform handling depth
      (Service.attempt (.publish e) : ExceptT Failure (Activity H σ) Unit).run =
        some (.ok (), host) := by
    have hasked : host.perform handling depth
        (ExceptT.lift (Activity.attempt (.publish e)) : ExceptT Failure (Activity H σ) _).run =
          some (.ok (host.faults .publish), host) := rfl
    rw [Service.attempt, perform_bind, hasked, hfaults]
    rfl
  have hsend : host.perform handling depth (Activity.send e) = publish handling depth e host := by
    rw [perform, Activity.send, run]
    cases publish handling depth e host <;> rfl
  rw [Service.publish, perform_bind, hattempt]
  exact hsend

/-- To publish more is to go on after a success; a failure among the first ones is the
end of all. -/
theorem perform_publishAll_append (xs ys : List Envelope) :
    host.perform handling depth (Service.publishAll (xs ++ ys)).run =
      (host.perform handling depth (Service.publishAll xs).run).bind
        (proceed fun _ host => host.perform handling depth (Service.publishAll ys).run) := by
  induction xs generalizing host with
  | nil => rfl
  | cons e rest ih =>
      rw [List.cons_append, Service.publishAll, Service.publishAll, perform_bind, perform_bind]
      cases host.perform handling depth (Service.publish e).run with
      | none => rfl
      | some r =>
          obtain ⟨result, host'⟩ := r
          cases result with
          | ok u => exact ih host'
          | error failure => rfl

end Host

/-! ## Handlers that keep a log -/

/-- The calls of handlers, each with what it was given, the first one first. -/
abbrev CallLog (H : Type) := List (H × Envelope)

/-- Handlers that put each call into a log, and answer it by the calls before. -/
def Handling.answering (name : H → String)
    (answer : CallLog H → H → Envelope → Except Failure Unit) : Handling H (CallLog H) where
  name := name
  handle handler e := do
    let log ← Activity.get
    Activity.set (log ++ [(handler, e)])
    return answer log handler e

/-- The calls that are due for some events. -/
def Registry.callsFor (r : Registry H) (events : List Envelope) : CallLog H :=
  events.flatMap fun e => (r.matching e.topic).map fun handler => (handler, e)

section Calls

variable (answer : CallLog H → H → Envelope → Except Failure Unit)

/-- Calls that are made in order, after earlier ones, and none of them fails. -/
def Passes (earlier calls : CallLog H) : Prop :=
  ∀ front handler e back, calls = front ++ (handler, e) :: back →
    answer (earlier ++ front) handler e = .ok ()

/-- How a series of calls that are due after earlier ones can end: with a result,
and with some of the calls made. -/
inductive Ends (earlier due : CallLog H) : Except Failure Unit → CallLog H → Prop
  /-- All are made, and none fails. -/
  | through (hpasses : Passes answer earlier due) : Ends earlier due (.ok ()) due
  /-- The last one that is made is the first that fails. -/
  | broken (front : CallLog H) (handler : H) (e : Envelope) (back : CallLog H)
      (failure : Failure) (hdue : due = front ++ (handler, e) :: back)
      (hpasses : Passes answer earlier front)
      (hfails : answer (earlier ++ front) handler e = .error failure) :
      Ends earlier due (.error failure) (front ++ [(handler, e)])

variable {answer} {earlier calls due made : CallLog H} {handler : H} {e : Envelope}
  {result : Except Failure Unit}

theorem passes_nil : Passes answer earlier [] := by
  intro front handler e back h
  simp at h

/-- Calls all pass if the first one does, and the others do in a log where it stands. -/
theorem Passes.cons (hfirst : answer earlier handler e = .ok ())
    (hrest : Passes answer (earlier ++ [(handler, e)]) calls) :
    Passes answer earlier ((handler, e) :: calls) := by
  intro front handler' e' back h
  cases front with
  | nil =>
      cases h
      rwa [List.append_nil]
  | cons first front =>
      obtain ⟨rfl, htail⟩ := List.cons.inj h
      have hlater := hrest front handler' e' back htail
      rwa [List.append_assoc] at hlater

/-- Calls may be cut anywhere: a front that passes, and a back that passes in the log
behind it. -/
theorem Passes.append (hfront : Passes answer earlier calls)
    (hback : Passes answer (earlier ++ calls) due) : Passes answer earlier (calls ++ due) := by
  induction calls generalizing earlier with
  | nil => simpa using hback
  | cons call rest ih =>
      obtain ⟨handler, e⟩ := call
      have hfirst : answer earlier handler e = .ok () := by
        simpa using hfront [] handler e rest rfl
      have hrest : Passes answer (earlier ++ [(handler, e)]) rest := by
        intro front handler' e' back h
        rw [List.append_assoc]
        exact hfront ((handler, e) :: front) handler' e' back (congrArg _ h)
      refine Passes.cons hfirst (ih hrest ?_)
      rwa [List.append_assoc]

/-- Two series, the second one after the first went through. -/
theorem Ends.append (hpasses : Passes answer earlier calls)
    (h : Ends answer (earlier ++ calls) due result made) :
    Ends answer earlier (calls ++ due) result (calls ++ made) := by
  cases h with
  | through hrest => exact .through (hpasses.append hrest)
  | broken front handler e back failure hdue hrest hfails =>
      rw [← List.append_assoc]
      refine .broken (calls ++ front) handler e back failure ?_ (hpasses.append hrest) ?_
      · rw [hdue, List.append_assoc]
      · rwa [← List.append_assoc]

/-- A series of calls that breaks off does so whatever else was due behind it. -/
theorem Ends.broken_append {failure : Failure} (h : Ends answer earlier calls (.error failure) made)
    (due : CallLog H) : Ends answer earlier (calls ++ due) (.error failure) made := by
  cases h with
  | broken front handler e back _ hdue hpasses hfails =>
      refine .broken front handler e (back ++ due) failure ?_ hpasses hfails
      rw [hdue, List.append_assoc, List.cons_append]

/-- A series of calls ends well exactly if no call fails in the log that it would be
made in. -/
theorem Ends.ok_iff (h : Ends answer earlier due result made) :
    result = .ok () ↔ Passes answer earlier due := by
  cases h with
  | through hpasses => exact ⟨fun _ => hpasses, fun _ => rfl⟩
  | broken front handler e back failure hdue hpasses hfails =>
      constructor
      · intro h
        cases h
      · intro hall
        have hok := hall front handler e back hdue
        rw [hfails] at hok
        cases hok

end Calls

/-! ## The two loops -/

/-- A host after some calls: the log is longer, and the rest of the bus is as it
was. -/
structure Host.Called (host host' : Host H (CallLog H)) (made : CallLog H) : Prop where
  registry : host'.registry = host.registry
  faults : host'.faults = host.faults
  state : host'.state = host.state ++ made

/-- Calls one after the other leave a host as all of them together do. -/
theorem Host.Called.trans {host host' host'' : Host H (CallLog H)} {made made' : CallLog H}
    (h : host.Called host' made) (h' : host'.Called host'' made') :
    host.Called host'' (made ++ made') :=
  ⟨h'.registry.trans h.registry, h'.faults.trans h.faults,
    by rw [h'.state, h.state, List.append_assoc]⟩

section Loops

variable (name : H → String) (answer : CallLog H → H → Envelope → Except Failure Unit)

/-- **The handlers of one event.** They are called one after the other, each in the log
of all calls before it, until one fails. -/
theorem ends_deliver (publish : Host.Publisher H (CallLog H)) (e : Envelope) (handlers : List H)
    (host : Host H (CallLog H)) :
    ∃ result made host',
      Host.deliver name
        (fun handler => run name publish ((Handling.answering name answer).handle handler e)) e
          handlers host = some (result, host') ∧
      host.Called host' made ∧
      Ends answer host.state (handlers.map fun handler => (handler, e)) result made := by
  induction handlers generalizing host with
  | nil => exact ⟨.ok (), [], host, rfl, ⟨rfl, rfl, (List.append_nil _).symm⟩, .through passes_nil⟩
  | cons handler rest ih =>
      let called : Host H (CallLog H) := { host with state := host.state ++ [(handler, e)] }
      have hcall : run name publish ((Handling.answering name answer).handle handler e) host =
          some (answer host.state handler e, called) := rfl
      have hcalled : host.Called called [(handler, e)] := ⟨rfl, rfl, rfl⟩
      rw [List.map_cons, Host.deliver, hcall]
      cases hanswer : answer host.state handler e with
      | error failure =>
          refine ⟨.error failure, [(handler, e)], _, rfl, ⟨rfl, rfl, rfl⟩, ?_⟩
          refine .broken [] handler e _ failure rfl passes_nil ?_
          rwa [List.append_nil]
      | ok u =>
          obtain ⟨result, made, host', hdeliver, hmade, hends⟩ := ih called
          have hfirst : Passes answer host.state [(handler, e)] := passes_nil.cons hanswer
          exact ⟨result, _, host', hdeliver, hcalled.trans hmade, hends.append hfirst⟩

variable (depth : Nat)

/-- **One event.** Its calls are those to the handlers that match it at that moment. -/
theorem ends_publish (e : Envelope) (host : Host H (CallLog H)) :
    ∃ result made host',
      Host.publish (.answering name answer) (depth + 1) e host = some (result, host') ∧
      host.Called host' made ∧
      Ends answer host.state ((host.registry.matching e.topic).map fun handler => (handler, e))
        result made := by
  obtain ⟨result, made, host', hdeliver, hmade, hends⟩ := ends_deliver name answer
    (Host.publish (.answering name answer) depth) e (host.registry.matching e.topic)
    (host.opening e)
  exact ⟨result, made, host', hdeliver, ⟨hmade.registry, hmade.faults, hmade.state⟩, hends⟩

/-- **Several events.** The induction is on the events: as nobody subscribes while they
are delivered, every event meets the same registry, and the calls of all are one series.
-/
theorem ends_publishAll (events : List Envelope) (host : Host H (CallLog H))
    (hfaults : host.faults .publish = none) :
    ∃ result made host',
      host.perform (.answering name answer) (depth + 1) (Service.publishAll events).run =
        some (result, host') ∧
      host.Called host' made ∧
      Ends answer host.state (host.registry.callsFor events) result made := by
  induction events generalizing host with
  | nil => exact ⟨.ok (), [], host, rfl, ⟨rfl, rfl, (List.append_nil _).symm⟩, .through passes_nil⟩
  | cons e rest ih =>
      obtain ⟨result, made, host', hpublish, hmade, hends⟩ := ends_publish name answer depth e host
      rw [Service.publishAll, Host.perform_bind, Host.perform_publish _ _ _ hfaults, hpublish,
        Registry.callsFor, List.flatMap_cons]
      cases hends with
      | broken front handler e' back failure hdue hpasses hfails =>
          exact ⟨.error failure, _, host', rfl, hmade,
            Ends.broken_append (.broken front handler e' back failure hdue hpasses hfails) _⟩
      | through hpasses =>
          obtain ⟨result', made', host'', hrest, hmade', hends'⟩ :=
            ih host' (hmade.faults ▸ hfaults)
          rw [hmade.state, hmade.registry] at hends'
          exact ⟨result', _, host'', hrest, hmade.trans hmade', hends'.append hpasses⟩

/-- **Publishing several events.**  On a bus with any subscriptions, where the
handlers answer by what they were given before, the calls that are due are made
in order, up to and including the first that fails, and its failure is the
result; all goes well exactly if no call fails.  So to publish more is to go on
after a success, and an event that goes to nobody is published without effect. -/
theorem publishAll_calls (registry : Registry H) (earlier : CallLog H) :
    let handling := Handling.answering name answer
    let host : Host H (CallLog H) := ⟨registry, earlier, [], fun _ => none⟩
    (∀ events, ∃ result made host',
      host.perform handling (depth + 1) (Service.publishAll events).run = some (result, host') ∧
      host'.registry = registry ∧ host'.state = earlier ++ made ∧
      Ends answer earlier (registry.callsFor events) result made ∧
      (result = .ok () ↔ Passes answer earlier (registry.callsFor events))) ∧
    (∀ xs ys, host.perform handling (depth + 1) (Service.publishAll (xs ++ ys)).run =
      (host.perform handling (depth + 1) (Service.publishAll xs).run).bind (Host.proceed
        fun _ host' => host'.perform handling (depth + 1) (Service.publishAll ys).run)) ∧
    ∀ e, registry.matching e.topic = [] → ∃ host',
      host.perform handling (depth + 1) (Service.publish e).run = some (.ok (), host') ∧
      host'.registry = registry ∧ host'.state = earlier := by
  intro handling host
  refine ⟨?_, Host.perform_publishAll_append handling (depth + 1) host, ?_⟩
  · intro events
    obtain ⟨result, made, host', hperform, hmade, hends⟩ :=
      ends_publishAll name answer depth events host rfl
    exact ⟨result, made, host', hperform, hmade.registry, hmade.state, hends, hends.ok_iff⟩
  · intro e hnobody
    obtain ⟨result, made, host', hpublish, hmade, hends⟩ := ends_publish name answer depth e host
    have hdue : host.registry.matching e.topic = [] := hnobody
    rw [hdue, List.map_nil] at hends
    rw [Host.perform_publish handling (depth + 1) host rfl e, hpublish]
    cases hends with
    | through => exact ⟨host', rfl, hmade.registry, hmade.state.trans (List.append_nil _)⟩
    | broken front handler e' back failure hdue' => simp at hdue'

end Loops

namespace Sample

/-- Two handlers of everything about users. -/
def users : Registry Nat := (Registry.empty.subscribe ⟨"user"⟩ 1).subscribe ⟨"user"⟩ 2

/-- The second handler fails when it is called again. -/
def failingAgain (log : CallLog Nat) (handler : Nat) (_ : Envelope) : Except Failure Unit :=
  if handler = 2 ∧ (log.any fun call => call.1 = 2) then .error (.database "down") else .ok ()

/-- An event of a topic. -/
def event (topic : Topic) : Envelope := .new ⟨"evt_1"⟩ default topic "1" "Test" .null

end Sample

open SubscriptionBilling.Bus.Sample in
/-- Of three events the second one meets the failure, and the third is not
delivered; an event about anything else goes to nobody. -/
theorem publishAll_calls_failing :
    let e := event ⟨"user.created"⟩
    let other := event ⟨"billing"⟩
    let handling := Handling.answering toString failingAgain
    let host : Host Nat (CallLog Nat) := ⟨users, [], [], fun _ => none⟩
    (∃ host', host.perform handling 1 (Service.publishAll [e, e, e]).run =
        some (.error (.database "down"), host') ∧
      host'.registry = users ∧ host'.state = [(1, e), (2, e), (1, e), (2, e)] ∧
      Ends failingAgain [] (users.callsFor [e, e, e]) (.error (.database "down"))
        [(1, e), (2, e), (1, e), (2, e)]) ∧
    users.matching other.topic = [] ∧
    ∃ host', host.perform handling 1 (Service.publish other).run = some (.ok (), host') ∧
      host'.registry = users ∧ host'.state = [] := by
  intro e other handling host
  obtain ⟨hcalls, -, hnobody⟩ := publishAll_calls toString failingAgain 0 users []
  have hother : users.matching other.topic = [] := by cbv
  refine ⟨?_, hother, hnobody other hother⟩
  obtain ⟨result, made, host', hperform, hregistry, hstate, hends, -⟩ := hcalls [e, e, e]
  have hrun : (host.perform handling 1 (Service.publishAll [e, e, e]).run).map
      (fun r => (r.1, r.2.state)) =
        some (.error (.database "down"), [(1, e), (2, e), (1, e), (2, e)]) := by
    cbv
  have hreached : host.perform handling 1 (Service.publishAll [e, e, e]).run =
      some (result, host') := hperform
  rw [hreached, Option.map_some, hstate] at hrun
  obtain ⟨rfl, rfl⟩ := Prod.mk.inj (Option.some.inj hrun)
  exact ⟨host', hperform, hregistry, hstate, hends⟩

end SubscriptionBilling.Bus
