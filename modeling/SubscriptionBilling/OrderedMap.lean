/-!
# Maps that remember the order of insertion

A list of keys and values in which every key stands once, at the place where it
was first set.  Setting a key again replaces its value and keeps its place.

The keys of a map are distinct by its type.

* `OrderedMap.find?_set` is the law of a map;
* `OrderedMap.keys_set` is the law of the order;
* `OrderedMap.find?_eq_some_iff` finds what stands in the list of entries.
-/

namespace SubscriptionBilling

/-- Keys with their values, oldest key first. -/
structure OrderedMap (κ α : Type) where
  entries : List (κ × α)
  nodup : (entries.map Prod.fst).Nodup

namespace OrderedMap

variable {κ α : Type}

/-- The map without keys. -/
def empty : OrderedMap κ α := ⟨[], List.nodup_nil⟩

instance : Inhabited (OrderedMap κ α) := ⟨empty⟩

/-- The keys, oldest first. -/
def keys (m : OrderedMap κ α) : List κ := m.entries.map Prod.fst

/-- The values, in the order of their keys. -/
def values (m : OrderedMap κ α) : List α := m.entries.map Prod.snd

/-- The number of keys. -/
def size (m : OrderedMap κ α) : Nat := m.entries.length

@[ext]
theorem ext {m n : OrderedMap κ α} (h : m.entries = n.entries) : m = n := by
  cases m
  cases n
  cases h
  rfl

variable [DecidableEq κ]

/-- The value of a key in a list of entries. -/
def lookup (key : κ) : List (κ × α) → Option α
  | [] => none
  | (k, a) :: rest => if k = key then some a else lookup key rest

/-- The entries with a key set to a value. -/
def put (key : κ) (value : α) : List (κ × α) → List (κ × α)
  | [] => [(key, value)]
  | (k, a) :: rest => if k = key then (k, value) :: rest else (k, a) :: put key value rest

theorem map_fst_put (key : κ) (value : α) (entries : List (κ × α)) :
    (put key value entries).map Prod.fst
      = if key ∈ entries.map Prod.fst then entries.map Prod.fst
        else entries.map Prod.fst ++ [key] := by
  induction entries with
  | nil => simp [put]
  | cons head rest ih =>
    obtain ⟨k, a⟩ := head
    by_cases hk : k = key
    · subst hk
      simp [put]
    · have hk' : key ≠ k := fun h => hk h.symm
      simp only [put, hk, if_false, List.map_cons, ih, List.mem_cons, hk', false_or]
      split <;> simp

/-- Setting a key keeps the keys distinct. -/
theorem nodup_put (key : κ) (value : α) {entries : List (κ × α)}
    (h : (entries.map Prod.fst).Nodup) : ((put key value entries).map Prod.fst).Nodup := by
  rw [map_fst_put]
  split
  · exact h
  · rename_i hnew
    rw [List.nodup_append]
    refine ⟨h, by simp, ?_⟩
    intro k hk other hother heq
    rw [List.mem_singleton] at hother
    exact hnew (hother ▸ heq ▸ hk)

/-- The value of a key. -/
def find? (m : OrderedMap κ α) (key : κ) : Option α := lookup key m.entries

/-- The key is present. -/
def contains (m : OrderedMap κ α) (key : κ) : Bool := (m.find? key).isSome

/-- Sets a key to a value, at its place or behind all others. -/
def set (m : OrderedMap κ α) (key : κ) (value : α) : OrderedMap κ α :=
  ⟨put key value m.entries, nodup_put key value m.nodup⟩

theorem lookup_put (key other : κ) (value : α) (entries : List (κ × α)) :
    lookup other (put key value entries)
      = if key = other then some value else lookup other entries := by
  induction entries with
  | nil => simp [put, lookup]
  | cons head rest ih =>
    obtain ⟨k, a⟩ := head
    by_cases hk : k = key
    · subst hk
      by_cases ho : k = other <;> simp [put, lookup, ho]
    · by_cases ho : k = other
      · subst ho
        simp [put, lookup, hk, Ne.symm hk]
      · simp [put, lookup, hk, ho, ih]

/-- A key that was set has its new value, every other key its old one. -/
theorem find?_set (m : OrderedMap κ α) (key other : κ) (value : α) :
    (m.set key value).find? other = if key = other then some value else m.find? other :=
  lookup_put key other value m.entries

/-- Setting a key keeps the order of the keys and puts a new one behind them. -/
theorem keys_set (m : OrderedMap κ α) (key : κ) (value : α) :
    (m.set key value).keys = if key ∈ m.keys then m.keys else m.keys ++ [key] :=
  map_fst_put key value m.entries

theorem put_of_not_mem {key : κ} (value : α) {entries : List (κ × α)}
    (h : key ∉ entries.map Prod.fst) : put key value entries = entries ++ [(key, value)] := by
  induction entries with
  | nil => rfl
  | cons head rest ih =>
    obtain ⟨k, a⟩ := head
    rw [List.map_cons, List.mem_cons, not_or] at h
    simp [put, Ne.symm h.1, ih h.2]

/-- A new key goes behind all others. -/
theorem entries_set_of_not_mem {m : OrderedMap κ α} {key : κ} {value : α} (h : key ∉ m.keys) :
    (m.set key value).entries = m.entries ++ [(key, value)] :=
  put_of_not_mem value h

theorem lookup_eq_some_iff {key : κ} {a : α} {entries : List (κ × α)}
    (h : (entries.map Prod.fst).Nodup) : lookup key entries = some a ↔ (key, a) ∈ entries := by
  induction entries with
  | nil => simp [lookup]
  | cons head rest ih =>
    obtain ⟨k, b⟩ := head
    rw [List.map_cons, List.nodup_cons] at h
    by_cases hk : k = key
    · subst hk
      have hrest : (k, a) ∉ rest := fun hmem => h.1 (List.mem_map.2 ⟨(k, a), hmem, rfl⟩)
      simp [lookup, hrest, eq_comm]
    · have hk' : key ≠ k := fun h => hk h.symm
      simp [lookup, hk, hk', ih h.2]

/-- What is found under a key is what stands there. -/
theorem find?_eq_some_iff {m : OrderedMap κ α} {key : κ} {a : α} :
    m.find? key = some a ↔ (key, a) ∈ m.entries :=
  lookup_eq_some_iff m.nodup

theorem mem_keys_iff {m : OrderedMap κ α} {key : κ} : key ∈ m.keys ↔ ∃ a, m.find? key = some a := by
  simp [keys, find?_eq_some_iff]

/-- Setting a key adds it to the keys. -/
theorem mem_keys_set {m : OrderedMap κ α} {key other : κ} {value : α} :
    other ∈ (m.set key value).keys ↔ other = key ∨ other ∈ m.keys := by
  rw [keys_set]
  split
  · rename_i hkey
    exact ⟨.inr, fun h => h.elim (fun heq => heq ▸ hkey) id⟩
  · rw [List.mem_append, List.mem_singleton, or_comm]

theorem put_of_lookup {key : κ} {a : α} {entries : List (κ × α)}
    (h : lookup key entries = some a) : put key a entries = entries := by
  induction entries with
  | nil => cases h
  | cons head rest ih =>
    obtain ⟨k, b⟩ := head
    by_cases hk : k = key
    · simp only [lookup, hk, if_true, Option.some.injEq] at h
      simp [put, hk, h]
    · simp only [lookup, hk, if_false] at h
      simp [put, hk, ih h]

/-- Setting a key to the value that it has changes nothing. -/
theorem set_of_find? {m : OrderedMap κ α} {key : κ} {a : α} (h : m.find? key = some a) :
    m.set key a = m :=
  ext (put_of_lookup h)

/-- Setting a key that is present keeps the keys. -/
theorem keys_set_of_find? {m : OrderedMap κ α} {key : κ} {a : α} (h : m.find? key = some a)
    (value : α) : (m.set key value).keys = m.keys := by
  rw [keys_set, if_pos (mem_keys_iff.mpr ⟨a, h⟩)]

end OrderedMap

end SubscriptionBilling
