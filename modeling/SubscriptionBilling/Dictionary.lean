/-!
# Dictionaries: association lists kept in key order

A dictionary is a list of pairs whose keys increase strictly, in the order of
code points, since every pair is put in its place; printing one needs no sorting.

* `Dictionary.insert` puts a pair in its place and replaces an equal key;
* `Dictionary.insertNew` leaves an equal key alone;
* `Dictionary.find?` is the view every statement about them uses.
-/

namespace SubscriptionBilling

/-- Pairs of a text key and a value, meant to be in strictly increasing key order. -/
abbrev Dictionary (α : Type) := List (String × α)

namespace Dictionary

variable {α : Type}

/-- The value stored under a key. -/
def find? (key : String) : Dictionary α → Option α
  | [] => none
  | (k, v) :: rest => if k = key then some v else find? key rest

/-- Puts a value under its key, replacing what was there. -/
def insert (key : String) (value : α) : Dictionary α → Dictionary α
  | [] => [(key, value)]
  | (k, v) :: rest =>
    if key = k then (key, value) :: rest
    else if key < k then (key, value) :: (k, v) :: rest
    else (k, v) :: insert key value rest

/-- Puts a value under its key unless the key is taken. -/
def insertNew (key : String) (value : α) (entries : Dictionary α) : Dictionary α :=
  match find? key entries with
  | some _ => entries
  | none => insert key value entries

theorem find?_insert (key other : String) (value : α) (entries : Dictionary α) :
    find? other (insert key value entries)
      = if key = other then some value else find? other entries := by
  induction entries with
  | nil => simp [insert, find?]
  | cons head rest ih =>
    obtain ⟨k, v⟩ := head
    simp only [insert]
    split
    · rename_i h
      subst h
      by_cases ho : key = other <;> simp [find?, ho]
    · split
      · by_cases ho : key = other <;> simp [find?, ho]
      · rename_i hne _
        simp only [find?, ih]
        by_cases hk : k = other
        · subst hk
          simp [hne]
        · simp [hk]

theorem find?_insertNew (key other : String) (value : α) (entries : Dictionary α) :
    find? other (insertNew key value entries)
      = if key = other then some ((find? key entries).getD value) else find? other entries := by
  unfold insertNew
  cases hfind : find? key entries with
  | some old =>
    by_cases ho : key = other
    · subst ho
      simp [hfind]
    · simp [ho]
  | none => exact find?_insert key other value entries

end Dictionary

end SubscriptionBilling
