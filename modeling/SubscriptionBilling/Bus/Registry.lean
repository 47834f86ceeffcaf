import SubscriptionBilling.Topic
/-!
# The registry of subscriptions

The bus keeps the topics in the order in which they were first subscribed to,
and under each topic its handlers in the order in which they came.

* `Registry.matching` lists the handlers of an event's topic in the order in
  which they are called;
* `Registry.subscriptions` lists all handlers with their topics, and
  `matching_eq` says which of them match;
* `Registry.topics` and `Registry.size` are two summaries.
-/

namespace SubscriptionBilling.Bus

/-- Topics with their handlers, in the order of subscription. -/
structure Registry (H : Type) where
  groups : List (Topic × List H)

namespace Registry

variable {H : Type}

/-- Nobody is subscribed. -/
def empty : Registry H := ⟨[]⟩

instance : Inhabited (Registry H) := ⟨empty⟩

/-- The groups with one more handler under a topic. -/
def add (topic : Topic) (handler : H) : List (Topic × List H) → List (Topic × List H)
  | [] => [(topic, [handler])]
  | (t, handlers) :: rest =>
    if t = topic then (t, handlers ++ [handler]) :: rest
    else (t, handlers) :: add topic handler rest

/-- Subscribes a handler to a topic. -/
def subscribe (r : Registry H) (topic : Topic) (handler : H) : Registry H :=
  ⟨add topic handler r.groups⟩

/-- Subscribes a handler to several topics. -/
def subscribeAll (r : Registry H) (topics : List Topic) (handler : H) : Registry H :=
  topics.foldl (fun r topic => r.subscribe topic handler) r

/-- The handlers that an event of a topic goes to, in the order of delivery. -/
def matching (r : Registry H) (topic : Topic) : List H :=
  (r.groups.filter fun group => topic.isA group.1).flatMap Prod.snd

/-- The subscriptions, in the order in which their handlers are called. -/
def subscriptions (r : Registry H) : List (Topic × H) :=
  r.groups.flatMap fun group => group.2.map fun handler => (group.1, handler)

theorem subscriptions_cons (topic : Topic) (handlers : List H) (rest : List (Topic × List H)) :
    subscriptions ⟨(topic, handlers) :: rest⟩ =
      handlers.map (topic, ·) ++ subscriptions ⟨rest⟩ := rfl

/-- The handlers that match are those of the subscriptions whose topic stands
above. -/
theorem matching_eq (r : Registry H) (topic : Topic) :
    r.matching topic =
      (r.subscriptions.filter fun subscription => topic.isA subscription.1).map Prod.snd := by
  obtain ⟨groups⟩ := r
  induction groups with
  | nil => rfl
  | cons head rest ih =>
    obtain ⟨t, handlers⟩ := head
    simp only [matching, subscriptions] at ih
    by_cases h : topic.isA t
    · have hall : handlers.filter (fun _ => true) = handlers :=
        List.filter_eq_self.mpr fun _ _ => rfl
      simp [matching, subscriptions, h, ih, hall, List.filter_map, Function.comp_def]
    · simp [matching, subscriptions, h, ih, List.filter_map, Function.comp_def]

/-- The topics, in the order of their first subscription. -/
def topics (r : Registry H) : List Topic := r.groups.map Prod.fst

/-- The number of subscriptions. -/
def size (r : Registry H) : Nat := r.groups.foldr (fun group n => group.2.length + n) 0

/-- A topic joins the others at the end, unless it is there already. -/
theorem map_fst_add (topic : Topic) (handler : H) (groups : List (Topic × List H)) :
    (add topic handler groups).map Prod.fst =
      if topic ∈ groups.map Prod.fst then groups.map Prod.fst
      else groups.map Prod.fst ++ [topic] := by
  induction groups with
  | nil => rfl
  | cons head rest ih =>
    obtain ⟨t, handlers⟩ := head
    by_cases h : t = topic
    · simp [add, h]
    · by_cases hmem : topic ∈ rest.map Prod.fst <;>
        simp_all [add, Ne.symm h]

theorem topics_subscribe (r : Registry H) (topic : Topic) (handler : H) :
    (r.subscribe topic handler).topics =
      if topic ∈ r.topics then r.topics else r.topics ++ [topic] :=
  map_fst_add topic handler r.groups

/-- Every subscription counts once. -/
theorem size_subscribe (r : Registry H) (topic : Topic) (handler : H) :
    (r.subscribe topic handler).size = r.size + 1 := by
  obtain ⟨groups⟩ := r
  simp only [size, subscribe]
  induction groups with
  | nil => rfl
  | cons head rest ih =>
    obtain ⟨t, handlers⟩ := head
    by_cases h : t = topic
    · simp only [add, if_pos h, List.foldr_cons, List.length_append, List.length_singleton]
      omega
    · simp only [add, if_neg h, List.foldr_cons, ih]
      omega

end Registry

end SubscriptionBilling.Bus
