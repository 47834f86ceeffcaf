import Mathlib.Data.Finset.Card
import SubscriptionBilling.OrderedMap
/-!
# Deeds one after the other

A store is asked for one thing after the other, and answers each.  `course` does a
list of deeds and keeps a log of them with their answers.  What one more deed keeps
true of the log and the state is true of every course (`course_keeps`), two ways to
do a deed that go together answer every course alike (`course_together`), and each
entry of the log was answered in the state that the entries before it led to
(`course_split`).

Writes are kept as a list of keys and values.  `lookup_reverse_snoc` is the law of
the last write under a key, and `OrderedMap.size_eq_card` counts the keys of a map
by any list that has the same ones.
-/

namespace SubscriptionBilling

section Courses

variable {σ τ δ α : Type}

/-- One deed after the other, with what each was answered. -/
def course (act : σ → δ → α × σ) : List δ → σ → List (δ × α) × σ
  | [], state => ([], state)
  | d :: rest, state =>
    let (answer, state) := act state d
    let (log, state) := course act rest state
    ((d, answer) :: log, state)

variable {act : σ → δ → α × σ} {act' : τ → δ → α × τ}

/-- Every deed stands in the log, in the order in which the deeds were done. -/
theorem map_fst_course (deeds : List δ) (state : σ) :
    (course act deeds state).1.map Prod.fst = deeds := by
  induction deeds generalizing state with
  | nil => rfl
  | cons d rest ih => exact congrArg (d :: ·) (ih _)

/-- What one more deed keeps true of the log and the state is true of every
course. -/
theorem course_keeps {P : List (δ × α) → σ → Prop}
    (hstep : ∀ {log state}, P log state → ∀ d, P (log ++ [(d, (act state d).1)]) (act state d).2)
    (deeds : List δ) {log : List (δ × α)} {state : σ} (h : P log state) :
    P (log ++ (course act deeds state).1) (course act deeds state).2 := by
  induction deeds generalizing log state with
  | nil => simpa [course] using h
  | cons d rest ih =>
      have hrest := ih (hstep h d)
      rw [List.append_assoc] at hrest
      exact hrest

/-- Two ways to do a deed that go together, deed for deed, answer a course alike. -/
theorem course_together {together : σ → τ → Prop}
    (hact : ∀ {state state'}, together state state' → ∀ d,
      (act state d).1 = (act' state' d).1 ∧ together (act state d).2 (act' state' d).2)
    (deeds : List δ) {state : σ} {state' : τ} (h : together state state') :
    (course act deeds state).1 = (course act' deeds state').1 ∧
      together (course act deeds state).2 (course act' deeds state').2 := by
  induction deeds generalizing state state' with
  | nil => exact ⟨rfl, h⟩
  | cons d rest ih =>
      obtain ⟨hanswer, hnext⟩ := hact h d
      obtain ⟨hlog, hlast⟩ := ih hnext
      refine ⟨?_, hlast⟩
      simp only [course, hanswer, hlog]

/-- An entry of the log was answered in the state that those before it led to. -/
theorem course_split {deeds : List δ} {state : σ} {before after : List (δ × α)} {d : δ} {answer : α}
    (h : (course act deeds state).1 = before ++ (d, answer) :: after) :
    (course act (before.map Prod.fst) state).1 = before ∧
      answer = (act (course act (before.map Prod.fst) state).2 d).1 := by
  induction before generalizing deeds state with
  | nil =>
      cases deeds with
      | nil => cases h
      | cons first rest =>
          obtain ⟨hentry, -⟩ := List.cons.inj h
          cases hentry
          exact ⟨rfl, rfl⟩
  | cons entry before ih =>
      cases deeds with
      | nil => cases h
      | cons first rest =>
          obtain ⟨hentry, hrest⟩ := List.cons.inj h
          obtain ⟨hbefore, hanswer⟩ := ih hrest
          subst hentry
          exact ⟨congrArg (_ :: ·) hbefore, hanswer⟩

end Courses

section Writes

variable {κ α : Type} [DecidableEq κ]

/-- The last write is what is found under its key. -/
theorem lookup_reverse_snoc (writes : List (κ × α)) (key other : κ) (value : α) :
    (writes ++ [(key, value)]).reverse.lookup other =
      if key = other then some value else writes.reverse.lookup other := by
  rw [List.reverse_append, List.reverse_singleton, List.singleton_append, List.lookup_cons]
  by_cases hkey : key = other
  · simp [hkey]
  · have hother : (other == key) = false := by simpa using Ne.symm hkey
    simp [hkey, hother]

/-- What is found under a key is one of the writes. -/
theorem mem_of_lookup_reverse {writes : List (κ × α)} {key : κ} {value : α}
    (h : writes.reverse.lookup key = some value) : (key, value) ∈ writes := by
  obtain ⟨later, earlier, hsplit, -⟩ := List.lookup_eq_some_iff.mp h
  rw [← List.mem_reverse, hsplit]
  exact List.mem_append_right _ List.mem_cons_self

/-- Nothing is found under the keys that were never written. -/
theorem lookup_reverse_eq_none_iff {writes : List (κ × α)} {key : κ} :
    writes.reverse.lookup key = none ↔ key ∉ writes.map Prod.fst := by
  rw [List.lookup_eq_none_iff, List.mem_map]
  constructor
  · rintro h ⟨entry, hentry, rfl⟩
    simpa using h entry (List.mem_reverse.mpr hentry)
  · intro h entry hentry
    rw [bne_iff_ne]
    rintro rfl
    exact h ⟨entry, List.mem_reverse.mp hentry, rfl⟩

/-- A map has as many keys as there are different ones in a list of them. -/
theorem OrderedMap.size_eq_card {m : OrderedMap κ α} {keys : List κ}
    (h : ∀ key, key ∈ m.keys ↔ key ∈ keys) : m.size = keys.toFinset.card := by
  have hsame : m.keys.toFinset = keys.toFinset := by
    ext key
    rw [List.mem_toFinset, List.mem_toFinset, h]
  have hcard : m.keys.toFinset.card = m.keys.length := List.toFinset_card_of_nodup m.nodup
  rw [← hsame, hcard]
  exact (List.length_map _).symm

end Writes

end SubscriptionBilling
