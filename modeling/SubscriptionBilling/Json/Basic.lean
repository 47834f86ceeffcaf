import SubscriptionBilling.Decimal.Binary64
import SubscriptionBilling.Dictionary
/-!
# JSON documents

A document is a tree whose objects list their members in the order in which they
are written.  `Json.canonical` is the same document as a value: members in key
order, the last of equal keys kept, all the way down.  Two documents stand for
the same value exactly when their canonical forms are equal.

* `Json.member?` looks a member up by its name;
* `Json.nesting` counts the containers around the innermost leaf.
-/

namespace SubscriptionBilling

/-- An integer that is written without a point: a signed or an unsigned word of
64 bits. -/
structure Json.Integer where
  val : Int
  lower : -9223372036854775808 ≤ val
  upper : val < 18446744073709551616
deriving DecidableEq

namespace Json.Integer

/-- The integer, if it fits. -/
def ofInt? (i : Int) : Option Integer :=
  if h : -9223372036854775808 ≤ i ∧ i < 18446744073709551616 then some ⟨i, h.1, h.2⟩ else none

/-- A number below `2 ^ 32` as an integer of a document. -/
def ofUInt32 (n : UInt32) : Integer :=
  ⟨n.toNat, by omega, by have := n.toNat_lt; omega⟩

end Json.Integer

/-- A number of a document. -/
inductive Json.Number where
  | integer (i : Json.Integer)
  | double (x : Binary64)
deriving DecidableEq

/-- A document, with object members in written order. -/
inductive Json where
  | null
  | bool (b : Bool)
  | number (n : Json.Number)
  | string (s : String)
  | array (items : List Json)
  | object (members : List (String × Json))

namespace Json

instance : Inhabited Json := ⟨null⟩

/-- A small natural number as a document. -/
def ofUInt32 (n : UInt32) : Json := number (.integer (.ofUInt32 n))

/-- An optional document, absent written as null. -/
def ofOption {α : Type} (f : α → Json) : Option α → Json
  | none => null
  | some a => f a

mutual

/-- The document as a value: members in key order, the last of equal keys kept. -/
def canonical : Json → Json
  | null => null
  | bool b => bool b
  | number n => number n
  | string s => string s
  | array items => array (canonicalItems items)
  | object members => object (canonicalMembers members)

/-- Every item of a list as a value. -/
def canonicalItems : List Json → List Json
  | [] => []
  | item :: rest => canonical item :: canonicalItems rest

/-- Every member as a value, in key order; a later member of the same key wins. -/
def canonicalMembers : List (String × Json) → Dictionary Json
  | [] => []
  | (key, value) :: rest => Dictionary.insertNew key (canonical value) (canonicalMembers rest)

end

/-- A member of a value is found unless a later one has its key. -/
theorem find?_canonicalMembers_cons (key other : String) (value : Json)
    (rest : List (String × Json)) :
    Dictionary.find? other (canonicalMembers ((key, value) :: rest))
      = if key = other then
          some ((Dictionary.find? key (canonicalMembers rest)).getD value.canonical)
        else Dictionary.find? other (canonicalMembers rest) :=
  Dictionary.find?_insertNew key other value.canonical (canonicalMembers rest)

mutual

/-- The number of containers around the innermost leaf. -/
def nesting : Json → Nat
  | array items => nestingItems items + 1
  | object members => nestingMembers members + 1
  | _ => 0

/-- The deepest nesting among the items. -/
def nestingItems : List Json → Nat
  | [] => 0
  | item :: rest => max (nesting item) (nestingItems rest)

/-- The deepest nesting among the members. -/
def nestingMembers : List (String × Json) → Nat
  | [] => 0
  | (_, value) :: rest => max (nesting value) (nestingMembers rest)

end

/-- The member of an object; nothing for any other document. -/
def member? (key : String) : Json → Option Json
  | object members => Dictionary.find? key members
  | _ => none

/-- The text of a string; nothing for any other document. -/
def text? : Json → Option String
  | string s => some s
  | _ => none

theorem text?_eq_some_iff {document : Json} {s : String} :
    document.text? = some s ↔ document = string s := by
  cases document <;> simp [text?]

end Json

end SubscriptionBilling
