import Mathlib.Data.List.Basic
import SubscriptionBilling.Store
/-!
# Stores of subscriptions under their own identifiers

A store finds a subscription under the identifier that it was first saved with.
`SubscriptionStore.Keyed` says that this is its own identifier, which is so as
long as no update replaces the identifier of what it is given; and no operation
of the services does that.  `keyed_iff_saved` says that the keyed stores are
just those that saving subscriptions one after the other can fill.

The listing of a customer in a keyed store holds every subscription of the
customer once: `mem_ofCustomer_iff` and `nodup_ofCustomer`.
-/

namespace SubscriptionBilling

/-- The values of a map are what is found under its keys. -/
theorem OrderedMap.values_eq_filterMap {κ α : Type} [DecidableEq κ] (m : OrderedMap κ α) :
    m.values = m.keys.filterMap m.find? := by
  have hfound : ∀ entry ∈ m.entries, m.find? entry.1 = some entry.2 :=
    fun _ hentry => find?_eq_some_iff.2 hentry
  rw [keys, values, List.filterMap_map, ← List.filterMap_eq_map]
  exact (List.filterMap_congr hfound).symm

namespace SubscriptionStore

/-- Every subscription stands under its own identifier. -/
def Keyed (store : SubscriptionStore) : Prop :=
  ∀ id s, store.find? id = some s → s.id = id

/-- Where nothing is stored, nothing stands under a wrong identifier. -/
theorem keyed_empty : Keyed .empty := by
  intro id s h
  cases h

/-- A subscription that is set under its own identifier keeps the store keyed. -/
theorem Keyed.set {store : SubscriptionStore} (h : store.Keyed) {id : SubscriptionId}
    {s : Subscription} (hid : s.id = id) : Keyed (OrderedMap.set store id s) := by
  intro other s' hfind
  rw [OrderedMap.find?_set] at hfind
  split at hfind
  · rename_i heq
    cases hfind
    exact hid.trans heq
  · exact h other s' hfind

theorem Keyed.mem_entries {store : SubscriptionStore} (h : store.Keyed)
    {entry : SubscriptionId × Subscription} (hentry : entry ∈ store.entries) :
    entry.2.id = entry.1 :=
  h entry.1 entry.2 (OrderedMap.find?_eq_some_iff.2 hentry)

/-- Saving subscriptions with new identifiers puts them behind the others. -/
theorem entries_foldl_save {rest : List (SubscriptionId × Subscription)}
    {store : SubscriptionStore} (hid : ∀ entry ∈ rest, entry.2.id = entry.1)
    (hnew : ((store.entries ++ rest).map Prod.fst).Nodup) :
    ((rest.map Prod.snd).foldl save store).entries = store.entries ++ rest := by
  induction rest generalizing store with
  | nil => simp
  | cons entry rest ih =>
      obtain ⟨id, s⟩ := entry
      have hs : s.id = id := hid (id, s) List.mem_cons_self
      have hfresh : id ∉ store.keys := by
        intro hmem
        rw [List.map_append, List.nodup_append] at hnew
        exact hnew.2.2 id hmem id (by simp) rfl
      have hsave : (save store s).entries = store.entries ++ [(id, s)] := by
        rw [save, hs]
        exact OrderedMap.entries_set_of_not_mem hfresh
      have hrest : ∀ entry ∈ rest, entry.2.id = entry.1 :=
        fun entry hentry => hid entry (List.mem_cons_of_mem _ hentry)
      have hstep := @ih (save store s) hrest (by simpa [hsave] using hnew)
      simpa [hsave] using hstep

/-- **Keyed stores are the saved ones.**  A store is keyed exactly when saving
some subscriptions one after the other fills it. -/
theorem keyed_iff_saved {store : SubscriptionStore} :
    store.Keyed ↔ ∃ saved : List Subscription, store = saved.foldl save .empty := by
  constructor
  · intro h
    refine ⟨store.values, OrderedMap.ext ?_⟩
    have hfill := @entries_foldl_save store.entries .empty
      (fun entry hentry => h.mem_entries hentry) store.nodup
    exact hfill.symm
  · rintro ⟨saved, rfl⟩
    have hfold : ∀ (saved : List Subscription) (store : SubscriptionStore), store.Keyed →
        Keyed (saved.foldl save store) := by
      intro saved
      induction saved with
      | nil => exact fun _ h => h
      | cons s rest ih => exact fun store h => ih _ (h.set rfl)
    exact hfold saved .empty keyed_empty

/-- The listing of a customer holds stored subscriptions only. -/
theorem mem_ofCustomer {store : SubscriptionStore} (h : store.Keyed) {customer : CustomerId}
    {s : Subscription} (hs : s ∈ store.ofCustomer customer) :
    store.find? s.id = some s ∧ s.customer = customer := by
  obtain ⟨hvalue, hcustomer⟩ := List.mem_filter.1 hs
  obtain ⟨entry, hentry, rfl⟩ := List.mem_map.1 hvalue
  refine ⟨OrderedMap.find?_eq_some_iff.2 ?_, by simpa using hcustomer⟩
  rw [h.mem_entries hentry]
  exact hentry

/-- In a keyed store a listing has just the subscriptions that are found under their own
identifiers and belong to the customer. -/
theorem mem_ofCustomer_iff {store : SubscriptionStore} (h : store.Keyed) {customer : CustomerId}
    {s : Subscription} :
    s ∈ store.ofCustomer customer ↔ store.find? s.id = some s ∧ s.customer = customer := by
  refine ⟨mem_ofCustomer h, ?_⟩
  rintro ⟨hfind, hcustomer⟩
  refine List.mem_filter.2 ⟨?_, by simpa using hcustomer⟩
  exact List.mem_map.2 ⟨(s.id, s), OrderedMap.find?_eq_some_iff.1 hfind, rfl⟩

/-- The identifiers in a listing are those of the customer's subscriptions. -/
theorem mem_listing_iff {store : SubscriptionStore} (h : store.Keyed) {customer : CustomerId}
    {id : SubscriptionId} :
    id ∈ (store.ofCustomer customer).map Subscription.id ↔
      ∃ s, store.find? id = some s ∧ s.customer = customer := by
  constructor
  · intro hid
    obtain ⟨s, hs, rfl⟩ := List.mem_map.1 hid
    exact ⟨s, mem_ofCustomer h hs⟩
  · rintro ⟨s, hfind, hcustomer⟩
    have hkey := h id s hfind
    exact List.mem_map.2 ⟨s, (mem_ofCustomer_iff h).mpr ⟨hkey.symm ▸ hfind, hcustomer⟩, hkey⟩

/-- A listing names no subscription twice. -/
theorem nodup_ofCustomer {store : SubscriptionStore} (h : store.Keyed) (customer : CustomerId) :
    ((store.ofCustomer customer).map Subscription.id).Nodup := by
  have hids : store.values.map Subscription.id = store.entries.map Prod.fst := by
    rw [OrderedMap.values, List.map_map]
    exact List.map_congr_left fun entry hentry => h.mem_entries hentry
  have hsub : ((store.ofCustomer customer).map Subscription.id).Sublist
      (store.values.map Subscription.id) :=
    List.filter_sublist.map _
  exact hsub.nodup (hids ▸ store.nodup)

end SubscriptionStore

end SubscriptionBilling
