import Mathlib
import SubscriptionBilling.Proofs.Keyed
/-!
# A store in two parts

A store of subscriptions can be laid out in memory as an index, which finds a
subscription under its identifier, and the identifiers in the order of their
first save, which the index alone would forget.  `Slots` is this layout: only a
save of something new writes to both parts, and a listing goes through the order
and looks each identifier up in the index.

A stored subscription is modified by a caller who works on a copy and may leave
it in any state, also when the caller refuses it in the end.  The layout keeps the
copy to itself until it is accepted (`Slots.modify`); `modify_absent`,
`modify_refused` and `modify_accepted` are the three ways in which this can go.

Nothing in the layout keeps the two parts in step.  `Slots.Holds` says that they
are, and that together they are a given `SubscriptionStore`: `holds_empty`,
`Holds.save` and `Holds.replace` say that every write keeps it so, and
`Holds.ofCustomer` that the two list the same.
-/

namespace SubscriptionBilling

/-- What a caller does with a copy of a subscription: it accepts or refuses, and
leaves the copy in some state either way. -/
abbrev Revision := Subscription → Except Failure Unit × Subscription

instance : Hashable SubscriptionId := ⟨fun id => hash id.text⟩

/-- An index of subscriptions, and the order in which they came. -/
structure Slots where
  index : Std.HashMap SubscriptionId Subscription
  order : List SubscriptionId

namespace Slots

/-- Nothing is stored. -/
def empty : Slots := ⟨∅, []⟩

/-- The subscription of an identifier. -/
def find? (slots : Slots) (id : SubscriptionId) : Option Subscription := slots.index[id]?

/-- Writes over what the index has under an identifier. -/
def replace (slots : Slots) (id : SubscriptionId) (s : Subscription) : Slots :=
  { slots with index := slots.index.insert id s }

/-- Inserts or replaces a subscription. -/
def save (slots : Slots) (s : Subscription) : Slots :=
  match slots.find? s.id with
  | some _ => slots.replace s.id s
  | none => { slots.replace s.id s with order := slots.order ++ [s.id] }

/-- The subscriptions of a customer, oldest first. -/
def ofCustomer (slots : Slots) (customer : CustomerId) : List Subscription :=
  (slots.order.filterMap slots.find?).filter fun s => s.customer == customer

/-- Modifies the subscription that is stored under an identifier.  The caller is
given a copy to work on, and only a copy that it accepts is written over what is
stored. -/
def modify (slots : Slots) (id : SubscriptionId) (revision : Revision) :
    Except Failure Subscription × Slots :=
  match slots.find? id with
  | none => (.error (SubscriptionStore.missing id), slots)
  | some current =>
    match revision current with
    | (.error failure, _) => (.error failure, slots)
    | (.ok (), working) => (.ok working, slots.replace id working)

section Modify

variable {slots : Slots} {id : SubscriptionId} {s : Subscription} {revision : Revision}

/-- There is nothing to modify under an identifier that the index does not have,
and the caller is not asked. -/
theorem modify_absent (hfind : slots.find? id = none) (revision : Revision) :
    slots.modify id revision = (.error (SubscriptionStore.missing id), slots) := by
  rw [modify, hfind]

/-- A caller that refuses leaves both parts of the layout alone, in whatever state
its copy is by then. -/
theorem modify_refused (hfind : slots.find? id = some s) {failure : Failure}
    (hrefuses : (revision s).1 = .error failure) :
    slots.modify id revision = (.error failure, slots) := by
  have hrevision : revision s = (.error failure, (revision s).2) := Prod.ext hrefuses rfl
  rw [modify, hfind]
  dsimp only
  rw [hrevision]

/-- A copy that is accepted is written over what the index had, and told. -/
theorem modify_accepted (hfind : slots.find? id = some s) (haccepts : (revision s).1 = .ok ()) :
    slots.modify id revision = (.ok (revision s).2, slots.replace id (revision s).2) := by
  have hrevision : revision s = (.ok (), (revision s).2) := Prod.ext haccepts rfl
  rw [modify, hfind]
  dsimp only
  rw [hrevision]

end Modify

/-- The two parts are in step and hold what a store holds. -/
structure Holds (slots : Slots) (store : SubscriptionStore) : Prop where
  order : slots.order = store.keys
  found : ∀ id, slots.find? id = store.find? id

/-- Writing over one identifier leaves what is found under the others. -/
theorem find?_replace (slots : Slots) (id other : SubscriptionId) (s : Subscription) :
    (slots.replace id s).find? other = if id = other then some s else slots.find? other := by
  simp [find?, replace, Std.HashMap.getElem?_insert]

/-- A layout with nothing in it holds the empty store. -/
theorem holds_empty : empty.Holds .empty :=
  ⟨rfl, fun _ => Std.HashMap.getElem?_empty⟩

variable {slots : Slots} {store : SubscriptionStore}

/-- Writing over what is there leaves the order alone. -/
theorem Holds.replace (h : slots.Holds store) {id : SubscriptionId} {old : Subscription}
    (hfind : store.find? id = some old) (s : Subscription) :
    (slots.replace id s).Holds (OrderedMap.set store id s) := by
  refine ⟨?_, ?_⟩
  · rw [OrderedMap.keys_set_of_find? hfind]
    exact h.order
  · intro other
    rw [find?_replace, OrderedMap.find?_set, h.found]

/-- A save keeps the two parts in step: it writes over what is there, or puts a new
identifier behind the others in both. -/
theorem Holds.save (h : slots.Holds store) (s : Subscription) :
    (slots.save s).Holds (store.save s) := by
  unfold Slots.save
  cases hfind : slots.find? s.id with
  | some old => exact h.replace ((h.found s.id).symm.trans hfind) s
  | none =>
      have hnew : s.id ∉ store.keys := by
        rw [OrderedMap.mem_keys_iff, ← h.found, hfind]
        simp
      refine ⟨?_, ?_⟩
      · rw [SubscriptionStore.save, OrderedMap.keys_set, if_neg hnew]
        exact congrArg (· ++ [s.id]) h.order
      · intro other
        rw [SubscriptionStore.save, OrderedMap.find?_set, ← h.found other]
        exact find?_replace slots s.id other s

/-- The two list the same: the order is that of the keys, and each identifier in it
leads to the same subscription. -/
theorem Holds.ofCustomer (h : slots.Holds store) (customer : CustomerId) :
    slots.ofCustomer customer = store.ofCustomer customer := by
  rw [Slots.ofCustomer, SubscriptionStore.ofCustomer, OrderedMap.values_eq_filterMap, h.order]
  congr 1
  exact List.filterMap_congr fun id _ => h.found id

end Slots

end SubscriptionBilling
