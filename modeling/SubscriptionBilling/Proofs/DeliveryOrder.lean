import Mathlib.Data.List.Basic
import Mathlib.Data.List.Nodup
import Mathlib.Data.List.Perm.Basic
import SubscriptionBilling.Bus.Registry
/-!
# The order in which handlers are called

The registry keeps its subscriptions in groups, one for each topic.  Here it is
told from the flat list of the subscriptions that were made, one after the
other, each with its number: `matching_registered` says that the handlers of an
event are exactly those whose topic stands above the event's, once for every
subscription; that the topics come in the order in which they were first named,
and under each topic the subscriptions in the order in which they were made.

`Represents` is what ties a registry to such a list.  A subscription keeps it
(`Represents.subscribe`), and so does any sequence of registrations
(`represents_registered`).
-/

namespace SubscriptionBilling.Bus

variable {H : Type}

/-- What can be asked of the bus: to subscribe a handler to a topic, or to
several at once. -/
inductive Registration (H : Type) where
  | one (topic : Topic) (handler : H)
  | several (topics : List Topic) (handler : H)

/-- The single subscriptions that a registration makes. -/
def Registration.subscriptions : Registration H → List (Topic × H)
  | one topic handler => [(topic, handler)]
  | several topics handler => topics.map fun topic => (topic, handler)

/-- All subscriptions that some registrations make, in order. -/
def subscriptionsOf (calls : List (Registration H)) : List (Topic × H) :=
  calls.flatMap Registration.subscriptions

/-- The number of the subscription that names a topic first. -/
def firstNamed (subs : List (Topic × H)) (topic : Topic) : Nat := (subs.map Prod.fst).idxOf topic

/-- Of two numbered subscriptions, one comes first: the one whose topic was
named earlier, and under the same topic the one that was made earlier. -/
def Precedes (subs : List (Topic × H)) (p q : (Topic × H) × Nat) : Prop :=
  firstNamed subs p.1.1 < firstNamed subs q.1.1 ∨
    firstNamed subs p.1.1 = firstNamed subs q.1.1 ∧ p.2 < q.2

/-- The handlers subscribed to just this topic, in order. -/
def handlersOf (subs : List (Topic × H)) (topic : Topic) : List H :=
  (subs.filter fun p => p.1 = topic).map Prod.snd

section Snoc

variable (subs : List (Topic × H)) (topic : Topic) (handler : H)

/-- One more subscription puts its handler behind the others of its topic and leaves the
other topics alone. -/
theorem handlersOf_snoc (t : Topic) :
    handlersOf (subs ++ [(topic, handler)]) t =
      if topic = t then handlersOf subs t ++ [handler] else handlersOf subs t := by
  rw [handlersOf, List.filter_append, List.map_append]
  by_cases h : topic = t <;> simp [handlersOf, h]

/-- A topic that was named before keeps its place, whatever is subscribed afterwards. -/
theorem firstNamed_snoc_of_mem {t : Topic} (h : t ∈ subs.map Prod.fst) :
    firstNamed (subs ++ [(topic, handler)]) t = firstNamed subs t := by
  rw [firstNamed, List.map_append, List.idxOf_append_of_mem h]
  rfl

/-- A topic that is new is named by the last subscription, and so it comes behind all
others. -/
theorem firstNamed_snoc_of_not_mem (h : topic ∉ subs.map Prod.fst) :
    firstNamed (subs ++ [(topic, handler)]) topic = subs.length := by
  rw [firstNamed, List.map_append, List.idxOf_append_of_notMem h]
  simp

/-- A topic that is subscribed to was named by one of the subscriptions. -/
theorem firstNamed_lt {t : Topic} (h : t ∈ subs.map Prod.fst) :
    firstNamed subs t < subs.length := by
  have hlt := List.idxOf_lt_length_of_mem h
  rwa [List.length_map] at hlt

end Snoc

namespace Registry

/-- Groups that are read off a list of topics, with one more handler. -/
theorem add_map {topics : List Topic} {group : Topic → List H} (topic : Topic) (handler : H)
    (hnodup : topics.Nodup) (hnew : topic ∉ topics → group topic = []) :
    add topic handler (topics.map fun t => (t, group t)) =
      (if topic ∈ topics then topics else topics ++ [topic]).map fun t =>
        (t, if topic = t then group t ++ [handler] else group t) := by
  induction topics with
  | nil => simp [add, hnew]
  | cons t rest ih =>
      obtain ⟨hfirst, hrest⟩ := List.nodup_cons.mp hnodup
      by_cases h : t = topic
      · subst h
        have hothers : ∀ u ∈ rest, (u, group u) =
            (u, if t = u then group u ++ [handler] else group u) := by
          intro u hu
          have hne : t ≠ u := fun heq => hfirst (heq ▸ hu)
          rw [if_neg hne]
        simp only [List.map_cons, add, if_true, List.mem_cons, true_or]
        rw [List.map_congr_left hothers]
      · have hne : topic ≠ t := fun heq => h heq.symm
        have hnew' : topic ∉ rest → group topic = [] := by
          intro hmem
          exact hnew (by simp [hne, hmem])
        rw [List.map_cons, add, if_neg h, ih hrest hnew']
        by_cases hmem : topic ∈ rest <;> simp [hmem, hne]

end Registry

/-- A registry holds just these subscriptions. -/
structure Represents (subs : List (Topic × H)) (r : Registry H) : Prop where
  mem_topics : ∀ t, t ∈ r.topics ↔ t ∈ subs.map Prod.fst
  sorted : r.topics.Pairwise fun s t => firstNamed subs s < firstNamed subs t
  groups : r.groups = r.topics.map fun t => (t, handlersOf subs t)
  size : r.size = subs.length

theorem represents_empty : Represents ([] : List (Topic × H)) .empty :=
  ⟨fun _ => Iff.rfl, .nil, rfl, rfl⟩

/-- **One more subscription.** The registry puts the handler behind those of its topic,
or begins a new group behind all the others, and goes on representing the list. -/
theorem Represents.subscribe {subs : List (Topic × H)} {r : Registry H} (h : Represents subs r)
    (topic : Topic) (handler : H) :
    Represents (subs ++ [(topic, handler)]) (r.subscribe topic handler) := by
  have htopics := r.topics_subscribe topic handler
  have hnodup : r.topics.Nodup := h.sorted.imp fun hlt heq => absurd (heq ▸ hlt) (Nat.lt_irrefl _)
  refine ⟨?_, ?_, ?_, ?_⟩
  · intro t
    rw [htopics, List.map_append, List.mem_append, List.map_singleton, List.mem_singleton,
      ← h.mem_topics t]
    by_cases hmem : topic ∈ r.topics
    · rw [if_pos hmem]
      refine ⟨.inl, ?_⟩
      rintro (ht | rfl)
      · exact ht
      · exact hmem
    · rw [if_neg hmem, List.mem_append, List.mem_singleton]
  · have hkept : r.topics.Pairwise fun s t =>
        firstNamed (subs ++ [(topic, handler)]) s < firstNamed (subs ++ [(topic, handler)]) t := by
      refine h.sorted.imp_of_mem ?_
      intro s t hs ht hlt
      rw [firstNamed_snoc_of_mem subs topic handler ((h.mem_topics s).mp hs),
        firstNamed_snoc_of_mem subs topic handler ((h.mem_topics t).mp ht)]
      exact hlt
    rw [htopics]
    by_cases hmem : topic ∈ r.topics
    · rwa [if_pos hmem]
    · rw [if_neg hmem, List.pairwise_append]
      refine ⟨hkept, List.pairwise_singleton _ _, ?_⟩
      intro s hs t ht
      rw [List.mem_singleton] at ht
      subst ht
      have hs' := (h.mem_topics s).mp hs
      rw [firstNamed_snoc_of_mem subs t handler hs',
        firstNamed_snoc_of_not_mem subs t handler fun hin => hmem ((h.mem_topics t).mpr hin)]
      exact firstNamed_lt subs hs'
  · have hnew : topic ∉ r.topics → handlersOf subs topic = [] := by
      intro hmem
      rw [handlersOf, List.map_eq_nil_iff, List.filter_eq_nil_iff]
      intro p hp heq
      have hin : p.1 ∈ subs.map Prod.fst := List.mem_map_of_mem hp
      exact hmem ((h.mem_topics topic).mpr ((of_decide_eq_true heq) ▸ hin))
    show Registry.add topic handler r.groups = _
    rw [h.groups, Registry.add_map topic handler hnodup hnew, htopics]
    refine List.map_congr_left fun t _ => ?_
    rw [handlersOf_snoc]
  · rw [r.size_subscribe, h.size, List.length_append, List.length_singleton]

namespace Registry

/-- The registry after a registration. -/
def register (r : Registry H) : Registration H → Registry H
  | .one topic handler => r.subscribe topic handler
  | .several topics handler => r.subscribeAll topics handler

/-- The registry of a new bus after some registrations. -/
def registered (calls : List (Registration H)) : Registry H := calls.foldl register .empty

end Registry

/-- **One call.** A call that subscribes to several topics at once is the same as one
subscription after the other. -/
theorem Represents.register {subs : List (Topic × H)} {r : Registry H} (h : Represents subs r)
    (call : Registration H) : Represents (subs ++ call.subscriptions) (r.register call) := by
  cases call with
  | one topic handler => exact h.subscribe topic handler
  | several topics handler =>
      rw [Registry.register, Registry.subscribeAll, Registration.subscriptions]
      induction topics generalizing subs r with
      | nil => simpa using h
      | cons topic rest ih =>
          have hrest := ih (h.subscribe topic handler)
          rwa [List.append_assoc] at hrest

/-- **Any registrations on a new bus.** The registry represents the list of all their
subscriptions, one after the other. -/
theorem represents_registered (calls : List (Registration H)) :
    Represents (subscriptionsOf calls) (Registry.registered calls) := by
  -- The induction is over calls that are still to come, on a bus that is in use already.
  have hfold : ∀ (subs : List (Topic × H)) (r : Registry H), Represents subs r →
      Represents (subs ++ subscriptionsOf calls) (calls.foldl Registry.register r) := by
    induction calls with
    | nil =>
        intro subs r h
        simpa [subscriptionsOf] using h
    | cons call rest ih =>
        intro subs r h
        have hrest := ih _ _ (h.register call)
        rwa [List.append_assoc] at hrest
  exact hfold [] .empty represents_empty

/-! ## From the groups to the numbers -/

/-- The subscriptions to just this topic, with their numbers. -/
def numbered (subs : List (Topic × H)) (topic : Topic) : List ((Topic × H) × Nat) :=
  subs.zipIdx.filter fun p => p.1.1 = topic

/-- Subscriptions are numbered in the order in which they were made. -/
theorem numbered_increasing (subs : List (Topic × H)) :
    subs.zipIdx.Pairwise fun p q => p.2 < q.2 := by
  have hsnd : (subs.zipIdx.map Prod.snd).Pairwise (· < ·) := by
    rw [List.zipIdx_map_snd]
    exact List.pairwise_lt_range'
  exact List.pairwise_map.mp hsnd

/-- Without their numbers, the subscriptions of a topic are its handlers. -/
theorem map_numbered (subs : List (Topic × H)) (topic : Topic) :
    (numbered subs topic).map (fun p => p.1.2) = handlersOf subs topic := by
  have hfilter : (numbered subs topic).map Prod.fst = subs.filter fun p => p.1 = topic := by
    conv_rhs => rw [← List.zipIdx_map_fst 0 subs]
    rw [List.filter_map]
    rfl
  rw [handlersOf, ← hfilter, List.map_map]
  rfl

/-- The subscriptions of an event's topic, in the order of their handlers. -/
def callOrder (subs : List (Topic × H)) (topics : List Topic) (t : Topic) :
    List ((Topic × H) × Nat) :=
  (topics.filter fun topic => t.isA topic).flatMap (numbered subs)

/-- If the topics are in the order in which they were first named, the calls are in the
order that `Precedes` asks for: by topic, and within a topic by number. -/
theorem pairwise_callOrder {subs : List (Topic × H)} {topics : List Topic}
    (hsorted : topics.Pairwise fun s t => firstNamed subs s < firstNamed subs t) (t : Topic) :
    (callOrder subs topics t).Pairwise (Precedes subs) := by
  have htopic : ∀ {topic : Topic} {p : (Topic × H) × Nat}, p ∈ numbered subs topic →
      p.1.1 = topic := fun hp => of_decide_eq_true (List.mem_filter.mp hp).2
  rw [callOrder, List.pairwise_flatMap]
  constructor
  · intro topic _
    refine ((numbered_increasing subs).sublist List.filter_sublist).imp_of_mem ?_
    intro p q hp hq hlt
    exact .inr ⟨by rw [htopic hp, htopic hq], hlt⟩
  · refine (hsorted.sublist List.filter_sublist).imp ?_
    intro s u hlt p hp q hq
    rw [← htopic hp, ← htopic hq] at hlt
    exact .inl hlt

/-- Every subscription that hears of an event is called, once for each time it was made,
and no other is. -/
theorem perm_callOrder {subs : List (Topic × H)} {r : Registry H} (h : Represents subs r)
    (t : Topic) :
    (callOrder subs r.topics t).Perm (subs.zipIdx.filter fun p => t.isA p.1.1) := by
  have hnodup : (callOrder subs r.topics t).Nodup := by
    refine (pairwise_callOrder h.sorted t).imp ?_
    rintro p q hbefore rfl
    rcases hbefore with hlt | ⟨-, hlt⟩ <;> exact Nat.lt_irrefl _ hlt
  have hnumbers : (subs.zipIdx.filter fun p => t.isA p.1.1).Nodup := by
    refine ((numbered_increasing subs).sublist List.filter_sublist).imp ?_
    rintro p q hlt rfl
    exact Nat.lt_irrefl _ hlt
  -- Neither list names a subscription twice, so that their members decide.
  refine (List.perm_ext_iff_of_nodup hnodup hnumbers).mpr fun p => ?_
  rw [callOrder, List.mem_flatMap]
  constructor
  · rintro ⟨topic, htopic, hp⟩
    obtain ⟨hmem, heq⟩ := List.mem_filter.mp hp
    refine List.mem_filter.mpr ⟨hmem, ?_⟩
    rw [of_decide_eq_true heq]
    exact (List.mem_filter.mp htopic).2
  · intro hp
    obtain ⟨hmem, habove⟩ := List.mem_filter.mp hp
    have hnamed : p.1.1 ∈ subs.map Prod.fst :=
      List.mem_map_of_mem (List.fst_mem_of_mem_zipIdx hmem)
    exact ⟨p.1.1, List.mem_filter.mpr ⟨(h.mem_topics _).mpr hnamed, habove⟩,
      List.mem_filter.mpr ⟨hmem, decide_eq_true rfl⟩⟩

/-- **What the registry answers.** The handlers of an event are the subscriptions in
their order of calls, without the numbers. -/
theorem Represents.matching {subs : List (Topic × H)} {r : Registry H} (h : Represents subs r)
    (t : Topic) : r.matching t = (callOrder subs r.topics t).map fun p => p.1.2 := by
  rw [Registry.matching, h.groups, List.filter_map, List.flatMap_map, callOrder, List.map_flatMap]
  exact List.flatMap_congr fun topic _ => (map_numbered subs topic).symm

/-- **The order of delivery.**  After any registrations on a new bus, an event
goes to the handler of every subscription above its topic, once for each; earlier
named topics come first, and under one topic earlier subscriptions.  The topics
of the bus are those that were named, in the same order, and its size is the
number of subscriptions. -/
theorem matching_registered (calls : List (Registration H)) (t : Topic) :
    let subs := subscriptionsOf calls
    let r := Registry.registered calls
    (∃ order : List ((Topic × H) × Nat),
      order.Perm (subs.zipIdx.filter fun p => t.isA p.1.1) ∧
      order.Pairwise (Precedes subs) ∧ r.matching t = order.map fun p => p.1.2) ∧
    ((∀ topic, topic ∈ r.topics ↔ topic ∈ subs.map Prod.fst) ∧
      r.topics.Pairwise fun s u => firstNamed subs s < firstNamed subs u) ∧
    r.size = subs.length := by
  intro subs r
  have h : Represents subs r := represents_registered calls
  exact ⟨⟨callOrder subs r.topics t, perm_callOrder h t, pairwise_callOrder h.sorted t,
    h.matching t⟩, ⟨h.mem_topics, h.sorted⟩, h.size⟩

/-- A handler under two topics above the event is called twice, and a later
subscription to the first topic comes before all others. -/
example :
    (Registry.registered [.one ⟨"user.created"⟩ 1, .one .any 2,
      .several [⟨"user"⟩, ⟨"billing"⟩, ⟨"user.created"⟩] 3]).matching ⟨"user.created.v1"⟩ =
        [1, 3, 2, 3] := by
  cbv

end SubscriptionBilling.Bus
