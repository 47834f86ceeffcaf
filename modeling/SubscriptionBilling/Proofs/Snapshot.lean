import Mathlib
import SubscriptionBilling.Proofs.Publication
import SubscriptionBilling.Proofs.Watching
/-!
# Publications while the registry changes

Handlers may subscribe and publish while they are called.  A publication goes to
the handlers that matched when it was entered; who is subscribed later hears of
the publications that are entered after that, also of those that are nested in
one in flight, and of none that is in flight already (`perform_snapshots`).

Subscriptions only ever come to a registry: `Gains` says that all that were there
stay, in the same order, and that there is nothing else besides the new ones.
-/

namespace SubscriptionBilling.Bus

variable {H σ α : Type}

namespace Registry

/-- What one registry has more than another: some new subscriptions, each once
for every time it was made, while all others stay in their order. -/
structure Gains (r : Registry H) (new : List (Topic × H)) (r' : Registry H) : Prop where
  kept : r.subscriptions.Sublist r'.subscriptions
  exact : r'.subscriptions.Perm (r.subscriptions ++ new)

namespace Gains

variable {r r' r'' : Registry H} {new later : List (Topic × H)}

theorem refl (r : Registry H) : Gains r [] r where
  kept := .refl _
  exact := by simp

/-- What a registry gains on two stretches it gains on both together. -/
theorem trans (h : Gains r new r') (hlater : Gains r' later r'') : Gains r (new ++ later) r'' where
  kept := h.kept.trans hlater.kept
  exact := by
    rw [← List.append_assoc]
    exact hlater.exact.trans (h.exact.append_right later)

/-- The handlers that match stay in their order, and others come to them just by
new subscriptions. -/
theorem matching (h : Gains r new r') (topic : Topic) :
    (r.matching topic).Sublist (r'.matching topic) ∧
      (r'.matching topic).Perm (r.matching topic ++
        (new.filter fun subscription => topic.isA subscription.1).map Prod.snd) := by
  simp only [matching_eq]
  refine ⟨(h.kept.filter _).map _, ?_⟩
  rw [← List.map_append, ← List.filter_append]
  exact (h.exact.filter _).map _

end Gains

/-- **One subscription.** It is added once, and all others stay in their order. -/
theorem gains_subscribe (r : Registry H) (topic : Topic) (handler : H) :
    Gains r [(topic, handler)] (r.subscribe topic handler) := by
  obtain ⟨groups⟩ := r
  induction groups with
  | nil => exact ⟨List.nil_sublist _, .refl _⟩
  | cons group rest ih =>
      obtain ⟨t, handlers⟩ := group
      by_cases h : t = topic
      · subst h
        have hgroup : ((⟨(t, handlers) :: rest⟩ : Registry H).subscribe t handler).subscriptions =
            handlers.map (t, ·) ++ ((t, handler) :: subscriptions ⟨rest⟩) := by
          simp [subscribe, add, subscriptions]
        refine ⟨?_, ?_⟩ <;> rw [hgroup, subscriptions_cons]
        · exact List.Sublist.append_left (List.sublist_cons_self _ _) _
        · rw [List.append_assoc]
          exact (List.perm_append_singleton _ _).symm.append_left _
      · have hgroup :
            ((⟨(t, handlers) :: rest⟩ : Registry H).subscribe topic handler).subscriptions =
              handlers.map (t, ·) ++ (subscribe ⟨rest⟩ topic handler).subscriptions := by
          simp [subscribe, add, subscriptions, h]
        refine ⟨?_, ?_⟩ <;> rw [hgroup, subscriptions_cons]
        · exact List.Sublist.append_left ih.kept _
        · rw [List.append_assoc]
          exact ih.exact.append_left _

/-- **Some subscriptions**, one after the other: what each of them gains adds up, in
their order. -/
theorem gains_after (r : Registry H) (marks : List (Mark H)) :
    Gains r (subscriptionsIn marks) (r.after marks) := by
  rw [after]
  induction subscriptionsIn marks generalizing r with
  | nil => exact .refl r
  | cons subscription rest ih =>
      exact (r.gains_subscribe subscription.1 subscription.2).trans (ih _)

end Registry

/-! ## The chronicle of a run -/

/-- The publication and the handler of a call. -/
def Mark.call? : Mark H → Option (Nat × H)
  | called n handler => some (n, handler)
  | _ => none

/-- The handlers that were called for a publication. -/
def callsOf (n : Nat) (marks : List (Mark H)) : List H :=
  ((marks.filter (Mark.about n)).filterMap Mark.call?).map Prod.snd

/-- The handlers that were called are the first ones of those that were due: all of
them, or up to the one that failed. -/
theorem Transcript.calls_prefix {n : Nat} {due : List H} {answer : Except Failure Unit}
    {calls : List (Mark H)} (h : Transcript n due answer calls) :
    (calls.filterMap Mark.call?).map Prod.snd <+: due := by
  induction h with
  | through => exact List.prefix_rfl
  | @next handler due answer marks h ih => exact (List.prefix_append_right_inj [handler]).2 ih
  | stopped handler due failure => exact List.prefix_append [handler] due

/-- Nobody but those who matched at the beginning is called. -/
theorem Snapshots.calls_prefix {r : Registry H} {marks front back : List (Mark H)} {n : Nat}
    {e : Envelope} (h : Snapshots r marks) (hmarks : marks = front ++ .entered n e :: back) :
    callsOf n marks <+: (r.after front).matching e.topic := by
  obtain ⟨calls, answer, hfilter, htranscript⟩ := h front n e back hmarks
  have hcalls : callsOf n marks = (calls.filterMap Mark.call?).map Prod.snd := by
    rw [callsOf, hfilter, List.filterMap_cons_none rfl, List.filterMap_append]
    exact congrArg (List.map Prod.snd) (List.append_nil _)
  exact hcalls ▸ htranscript.calls_prefix

/-- The chronicle of a run, from one registry to another. -/
structure Chronicle (start : Registry H) (marks : List (Mark H)) (finish : Registry H) : Prop where
  /-- Each publication goes to the handlers that match when it is entered, in
  order, until one fails. -/
  snapshots : Snapshots start marks
  /-- Nobody else is called for an event in flight. -/
  inFlight : ∀ {front n e back}, marks = front ++ .entered n e :: back →
    callsOf n marks <+: (start.after front).matching e.topic
  /-- Whoever was subscribed before is among those. -/
  heard : ∀ {front n e back topic handler}, marks = front ++ .entered n e :: back →
    .subscribed topic handler ∈ front → e.topic.isA topic →
      handler ∈ (start.after front).matching e.topic
  /-- From any moment to a later one, subscriptions only come. -/
  gains : ∀ {front between back}, marks = front ++ between ++ back →
    (start.after front).Gains (subscriptionsIn between) (start.after (front ++ between))
  finish : finish = start.after marks

/-- Marks that are snapshots are a chronicle: the rest of what a chronicle says follows
from how a registry is led by its marks. -/
theorem Snapshots.chronicle {start : Registry H} {marks : List (Mark H)}
    (h : Snapshots start marks) : Chronicle start marks (start.after marks) where
  snapshots := h
  inFlight hmarks := h.calls_prefix hmarks
  heard := by
    intro front n e back topic handler hmarks hmem habove
    have hnew : (topic, handler) ∈ subscriptionsIn front :=
      List.mem_filterMap.2 ⟨_, hmem, rfl⟩
    refine (((start.gains_after front).matching e.topic).2.mem_iff).2 ?_
    refine List.mem_append_right _ (List.mem_map.2 ⟨(topic, handler), ?_, rfl⟩)
    exact List.mem_filter.2 ⟨hnew, habove⟩
  gains := by
    intro front between back hmarks
    rw [Registry.after_append]
    exact Registry.gains_after _ _
  finish := rfl

/-- **Publications while the registry changes.**  What an activity does on the
bus, it does under a watch as well; and whatever it and the handlers publish and
subscribe, every publication goes to those who match when it is entered, and the
registry only grows. -/
theorem perform_snapshots {handling : Handling H σ} {depth : Nat} {x : Activity H σ α} {a : α}
    {host host' : Host H σ} (h : host.perform handling depth x = some (a, host')) :
    ∃ w : Watch H,
      (host.watching .start).perform handling.watched depth (watched x) =
        some (a, host'.watching w) ∧
      Chronicle host.registry w.marks host'.registry := by
  obtain ⟨w, new, hrun, hadds⟩ := run_watched (follows_publish handling depth) h .start
  obtain rfl : new = w.marks := hadds.marks.symm
  refine ⟨w, hrun, ?_⟩
  rw [hadds.registry]
  exact hadds.snapshots.chronicle

namespace Sample

/-- The first handler invites the third one to everything when it is given the
first event, and publishes the second event. -/
def inviting : Handling (Fin 3) Unit where
  name _ := "handler"
  handle handler e := do
    if handler = 0 ∧ e.topic = ⟨"first"⟩ then
      Activity.subscribeTo .any 2
      Activity.send (event ⟨"second"⟩)
    else return .ok ()

/-- The second handler hears of everything. -/
def opened : Host (Fin 3) Unit where
  registry := (Registry.empty.subscribe ⟨"first"⟩ 0).subscribe .any 1
  state := ()
  log := []
  faults _ := none

end Sample

/-- The third handler is called for the nested event and not for the outer one. -/
theorem perform_snapshots_invited :
    ∃ host' w,
      Sample.opened.perform Sample.inviting 2 (Activity.send (Sample.event ⟨"first"⟩)) =
        some (.ok (), host') ∧
      (Sample.opened.watching .start).perform Sample.inviting.watched 2
        (watched (Activity.send (Sample.event ⟨"first"⟩))) =
        some (.ok (), host'.watching w) ∧
      Chronicle Sample.opened.registry w.marks host'.registry ∧
      w.marks.filterMap Mark.call? = [(0, 0), (1, 1), (1, 2), (0, 1)] := by
  obtain ⟨host', hrun⟩ : ∃ host',
      Sample.opened.perform Sample.inviting 2 (Activity.send (Sample.event ⟨"first"⟩)) =
        some (.ok (), host') := ⟨_, by cbv⟩
  obtain ⟨w, hwatched, hchronicle⟩ := perform_snapshots hrun
  refine ⟨host', w, hrun, hwatched, hchronicle, ?_⟩
  have hcalls : ((Sample.opened.watching .start).perform Sample.inviting.watched 2
      (watched (Activity.send (Sample.event ⟨"first"⟩)))).map
        (fun r => r.2.state.2.marks.filterMap Mark.call?) =
      some [(0, 0), (1, 1), (1, 2), (0, 1)] := by cbv
  rw [hwatched] at hcalls
  exact Option.some.inj hcalls

end SubscriptionBilling.Bus
