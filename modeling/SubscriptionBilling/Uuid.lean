import SubscriptionBilling.Json.Schema
/-!
# UUIDs

A UUID is its thirty-two hexadecimal digits.  It is written in lower case in
groups of 8, 4, 4, 4 and 12 digits with hyphens between them; it is read from
that form in either case, from bare digits, between braces, and behind
`urn:uuid:`.  `Uuid.Refusal` says what is wrong with any other text, and
`Uuid.text_injective` that UUIDs of the same text are the same.
-/

namespace SubscriptionBilling

open Text

/-- A UUID, as its hexadecimal digits from the first to the last. -/
structure Uuid where
  digits : List (Fin 16)
  length_eq : digits.length = 32
deriving DecidableEq

namespace Uuid

/-- The digits of a number, padded on the left; larger numbers lose their first
digits. -/
def digitsOf : Nat → Nat → List (Fin 16)
  | 0, _ => []
  | width + 1, n => digitsOf width (n / 16) ++ [lowDigit n]

theorem length_digitsOf (width n : Nat) : (digitsOf width n).length = width := by
  induction width generalizing n with
  | zero => rfl
  | succ width ih => simp [digitsOf, ih]

/-- The UUID whose 128 bits are a number. -/
def ofNat (n : Nat) : Uuid := ⟨digitsOf 32 n, length_digitsOf 32 n⟩

instance : Inhabited Uuid := ⟨ofNat 0⟩

/-- The digits without hyphens. -/
def simple (u : Uuid) : List Char := u.digits.map hexDigit

/-- The digits in groups of 8, 4, 4, 4 and 12. -/
def hyphenated (u : Uuid) : List Char :=
  let ds := u.simple
  ds.take 8 ++ '-' :: (ds.drop 8).take 4 ++ '-' :: (ds.drop 12).take 4
    ++ '-' :: (ds.drop 16).take 4 ++ '-' :: ds.drop 20

/-- The canonical text of a UUID. -/
def text (u : Uuid) : String := String.ofList u.hyphenated

/-- What is wrong with a text that is no UUID. -/
inductive Refusal where
  | length (found : Nat)
  | character (found : Char) (index : Nat)
  | groupCount (found : Nat)
  | groupLength (group expected found : Nat)
deriving DecidableEq

/-- The wording of a refusal. -/
def Refusal.message : Refusal → String
  | length found => s!"invalid length: found {found}"
  | character found index =>
    String.ofList ("invalid character: found `".toList ++ found :: "` at ".toList
      ++ decimal index)
  | groupCount found => s!"invalid group count: expected 5, found {found}"
  | groupLength group expected found =>
    s!"invalid group length in group {group}: expected {expected}, found {found}"

/-- The UUID of exactly thirty-two hexadecimal digits. -/
def ofDigits? (cs : List Char) : Option Uuid :=
  match cs.mapM hexValue? with
  | none => none
  | some ds => if h : ds.length = 32 then some ⟨ds, h⟩ else none

/-- The digits of the grouped form: thirty-six characters with hyphens at the
four places between the groups. -/
def ofHyphenated? (cs : List Char) : Option Uuid :=
  match cs.drop 8, cs.drop 13, cs.drop 18, cs.drop 23 with
  | '-' :: second, '-' :: third, '-' :: fourth, '-' :: fifth =>
    ofDigits? (cs.take 8 ++ second.take 4 ++ third.take 4 ++ fourth.take 4 ++ fifth)
  | _, _, _, _ => none

/-- The text inside braces. -/
def unbraced? (cs : List Char) : Option (List Char) :=
  match cs with
  | '\x7b' :: rest => if rest.getLast? = some '\x7d' then some rest.dropLast else none
  | _ => none

/-- The text behind `urn:uuid:` in any case. -/
def unprefixed? (cs : List Char) : Option (List Char) :=
  if (cs.take 9).map Char.toLower = "urn:uuid:".toList then some (cs.drop 9) else none

/-- The bytes before each hyphen. -/
def hyphenPlaces : Nat → List Char → List Nat
  | _, [] => []
  | start, c :: cs =>
    if c = '-' then start :: hyphenPlaces (start + 1) cs else hyphenPlaces (start + c.utf8Size) cs

/-- The first character that is neither a hexadecimal digit nor a hyphen, and
the bytes before it. -/
def firstForeign? : Nat → List Char → Option (Char × Nat)
  | _, [] => none
  | start, c :: cs =>
    if c = '-' || (hexValue? c).isSome then firstForeign? (start + 1) cs else some (c, start)

/-- The first group that does not end where it should, out of the places of the
hyphens and what is expected: the group's number, start, end and length. -/
def groupFault (total : Nat) : List Nat → List (Nat × Nat × Nat × Nat) → Refusal
  | place :: places, (group, start, stop, expected) :: groups =>
    if place = stop then groupFault total places groups
    else .groupLength group expected (place - start)
  | _, _ => .groupLength 4 12 (total - 24)

/-- The four groups that a hyphen ends. -/
def innerGroups : List (Nat × Nat × Nat × Nat) :=
  [(0, 0, 8, 8), (1, 9, 13, 4), (2, 14, 18, 4), (3, 19, 23, 4)]

/-- The part of a text that has to be in the grouped form: all of thirty-six
bytes, the inside of thirty-eight in braces, the rest of forty-five behind
`urn:uuid:`. -/
def grouped? (cs : List Char) : Option (List Char) :=
  match byteCount cs with
  | 36 => some cs
  | 38 => unbraced? cs
  | 45 => unprefixed? cs
  | _ => none

/-- What is wrong with the digits of a text of so many bytes, which are said to be
in groups or not, and start at some place of it. -/
def judge (total offset : Nat) (inGroups : Bool) (cs : List Char) : Refusal :=
  match firstForeign? offset cs with
  | some (c, index) => .character c index
  | none =>
    let places := hyphenPlaces 0 cs
    if places.isEmpty && !inGroups then .length total
    else if places.length ≠ 4 then .groupCount (places.length + 1)
    else groupFault total places innerGroups

/-- What is wrong with a text that is neither as long as the grouped form nor
wrapped around it. -/
def diagnose (cs : List Char) : Refusal :=
  let total := byteCount cs
  if total = 0 ∨ 45 < total then .length total
  else
    match unbraced? cs with
    | some inside => judge total 1 true inside
    | none =>
      match unprefixed? cs with
      | some inside => judge total 9 true inside
      | none => judge total 0 false cs

/-- Reads a UUID from a text.  A part in the grouped form is judged by itself. -/
def parse (s : String) : Except Refusal Uuid :=
  let cs := s.toList
  match grouped? cs with
  | some inside =>
    match ofHyphenated? inside with
    | some u => .ok u
    | none => .error (judge (byteCount inside) 0 true inside)
  | none =>
    match ofDigits? cs with
    | some u => .ok u
    | none => .error (diagnose cs)

/-- A UUID in a document is its text. -/
def schema : Json.Schema Uuid :=
  .token text
    (fun s => (parse s).mapError fun r => .refused s!"UUID parsing failed: {r.message}")
    "a formatted UUID string"

/-! ## The text tells UUIDs apart -/

theorem filterMap_simple (u : Uuid) : u.simple.filterMap hexValue? = u.digits := by
  rw [simple, List.filterMap_map]
  have hdigits : (hexValue? ∘ hexDigit) = some := funext hexValue?_hexDigit
  rw [hdigits, List.filterMap_some]

theorem hexDigit_ne_hyphen (d : Fin 16) : hexDigit d ≠ '-' := by
  revert d
  decide

/-- Without its hyphens the text is the digits. -/
theorem filter_hyphenated (u : Uuid) : u.hyphenated.filter (· != '-') = u.simple := by
  have hall : ∀ c ∈ u.simple, (c != '-') = true := by
    intro c hc
    obtain ⟨d, -, rfl⟩ := List.mem_map.mp hc
    exact bne_iff_ne.mpr (hexDigit_ne_hyphen d)
  have hkeep : ∀ cs : List Char, cs ⊆ u.simple → cs.filter (· != '-') = cs :=
    fun cs hcs => List.filter_eq_self.mpr fun c hc => hall c (hcs hc)
  have hgroup : ∀ n m, ((u.simple.drop n).take m).filter (· != '-') = (u.simple.drop n).take m :=
    fun n m => hkeep _ fun c hc => List.mem_of_mem_drop (List.mem_of_mem_take hc)
  have hglue : ∀ n, (u.simple.drop n).take 4 ++ u.simple.drop (n + 4) = u.simple.drop n := by
    intro n
    rw [← List.drop_drop, List.take_append_drop]
  have hfirst := hkeep (u.simple.take 8) fun c hc => List.mem_of_mem_take hc
  have hlast := hkeep (u.simple.drop 20) fun c hc => List.mem_of_mem_drop hc
  simp only [hyphenated, List.append_assoc, List.cons_append, List.filter_append, hfirst,
    List.filter_cons_of_neg, bne_self_eq_false, Bool.false_eq_true, not_false_eq_true, hgroup,
    hlast, hglue, List.take_append_drop]

theorem text_injective {u v : Uuid} (h : u.text = v.text) : u = v := by
  have hhyphenated : u.hyphenated = v.hyphenated := String.ofList_injective h
  have hdigits : u.digits = v.digits := by
    rw [← filterMap_simple, ← filterMap_simple, ← filter_hyphenated, ← filter_hyphenated,
      hhyphenated]
  cases u
  cases v
  cases hdigits
  rfl
end Uuid

end SubscriptionBilling
