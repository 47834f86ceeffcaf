import SubscriptionBilling.Json.Schema
import SubscriptionBilling.Text.Cut
/-!
# Topics

A topic is the type of an event: names between dots, from the general to the
special.  Every topic that consists of the first segments of another stands
above it, and the topic `*` stands above all.

* `Topic.isA` decides whether a topic lies under another (`isA_iff`, `isA_trans`);
* `Topic.parent?` goes up by one segment;
* `Topic.segments` is the view in which both are plain facts about lists;
* `Topic.version` reads the number behind the last `.v`.
-/

namespace SubscriptionBilling

open Text

/-- The type of an event, as its dotted name. -/
structure Topic where
  name : String
deriving DecidableEq, Inhabited

namespace Topic

/-- The topic above all others. -/
def any : Topic := ⟨"*"⟩

/-- The topic is the one above all others. -/
def isAny (t : Topic) : Bool := t.name == "*"

/-- The topic is the other one or lies under it. -/
def isA (t above : Topic) : Bool :=
  above.isAny ||
    match behind? above.name.toList t.name.toList with
    | some [] => true
    | some (c :: _) => c == '.'
    | none => false

/-- A topic lies under another if that one is the highest or its beginning, as
far as a dot or the end. -/
theorem isA_iff {t above : Topic} :
    t.isA above = true ↔ above = any ∨ t = above ∨
      ∃ rest, t.name.toList = above.name.toList ++ '.' :: rest := by
  have hany : above.isAny = true ↔ above = any := by
    cases above
    simp [isAny, any]
  have hsame : t.name.toList = above.name.toList ↔ t = above := by
    cases t
    cases above
    simp [String.toList_inj]
  rw [isA, Bool.or_eq_true, hany]
  refine or_congr_right ?_
  cases hbehind : behind? above.name.toList t.name.toList with
  | none =>
    have hno : ∀ rest, t.name.toList ≠ above.name.toList ++ rest := by
      intro rest h
      rw [behind?_eq_some_iff.2 h] at hbehind
      cases hbehind
    have hne : t ≠ above := fun h => hno [] (by rw [h, List.append_nil])
    simp [hne, hno]
  | some back =>
    rw [behind?_eq_some_iff] at hbehind
    rw [← hsame, hbehind]
    cases back with
    | nil => simp
    | cons c back => simp

/-- What lies under a topic lies under all that stand above it. -/
theorem isA_trans {t mid above : Topic} (h : t.isA mid = true) (h' : mid.isA above = true) :
    t.isA above = true := by
  rw [isA_iff] at h h' ⊢
  rcases h' with hany | rfl | ⟨rest', hrest'⟩
  · exact .inl hany
  · exact h
  · refine .inr (.inr ?_)
    rcases h with rfl | rfl | ⟨rest, hrest⟩
    · -- Nothing but itself stands above the highest topic: its name has no dot.
      have hdot : '.' ∈ any.name.toList := by
        rw [hrest']
        simp
      exact absurd hdot (by decide)
    · exact ⟨rest', hrest'⟩
    · exact ⟨rest' ++ '.' :: rest, by rw [hrest, hrest', List.append_assoc, List.cons_append]⟩

/-- The topic directly above; none above the highest. -/
def parent? (t : Topic) : Option Topic :=
  if t.isAny then none
  else
    match cutLast? ['.'] t.name.toList with
    | some (front, _) => some ⟨String.ofList front⟩
    | none => some any

/-- The topics above, from the nearest to the highest. -/
def ancestors : Nat → Topic → List Topic
  | 0, _ => []
  | fuel + 1, t =>
    match t.parent? with
    | none => []
    | some up => up :: ancestors fuel up

/-- All topics above a topic. -/
def parents (t : Topic) : List Topic := ancestors (t.name.length + 2) t

/-- The text between the dots. -/
def segmentsOf : List Char → List (List Char)
  | [] => [[]]
  | c :: cs =>
    if c = '.' then [] :: segmentsOf cs
    else
      match segmentsOf cs with
      | [] => [[c]]
      | s :: ss => (c :: s) :: ss

/-- The names between the dots. -/
def segments (t : Topic) : List (List Char) := segmentsOf t.name.toList

/-- The number behind the last `.v`, if digits follow it to the end and fit 32
bits; otherwise one. -/
def version (t : Topic) : UInt32 :=
  match cutLast? ['.', 'v'] t.name.toList with
  | none => 1
  | some (_, back) =>
    match natural? back with
    | none => 1
    | some n => if n < UInt32.size then UInt32.ofNat n else 1

/-- A topic in a document is its name. -/
def schema : Json.Schema Topic := Json.Schema.string.wrapped mk name

end Topic

end SubscriptionBilling
