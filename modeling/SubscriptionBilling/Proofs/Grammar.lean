import Mathlib
import SubscriptionBilling.Proofs.Lexemes
/-!
# The grammar behind the reader

`Document room cs j rest` says that the document `j` stands in front of the text
`cs` and is followed by `rest`, with containers inside of each other at most as
deep as there is room.  It is the reader without its fuel: `reader_eq_ok_iff`
says that both agree, so what holds of documents is proved along the derivation
and not along a count that runs down.

A document that stands in front of a text can also be passed over
(`Document.skip`).
-/

namespace SubscriptionBilling.Json

open Text

/-- A document without parts, with no white space in front of it. -/
inductive Scalar : List Char → Json → List Char → Prop where
  | null {cs rest} (h : readWord "ull".toList cs = .ok rest) : Scalar ('n' :: cs) null rest
  | yes {cs rest} (h : readWord "rue".toList cs = .ok rest) : Scalar ('t' :: cs) (bool true) rest
  | no {cs rest} (h : readWord "alse".toList cs = .ok rest) : Scalar ('f' :: cs) (bool false) rest
  | string {cs s rest} (h : readString cs = .ok (s, rest)) : Scalar ('"' :: cs) (string s) rest
  | negative {cs n rest} (h : readNumber true cs = .ok (n, rest)) :
      Scalar ('-' :: cs) (number n) rest
  | number {c cs n rest} (hdigit : c.isDigit = true)
      (h : readNumber false (c :: cs) = .ok (n, rest)) : Scalar (c :: cs) (number n) rest

mutual

/-- A document in front of a text. -/
inductive Document : Nat → List Char → Json → List Char → Prop where
  | scalar {room cs j rest} (h : Scalar (skipSpace cs) j rest) : Document room cs j rest
  | array {room cs inside items tail rest} (hopen : skipSpace cs = '[' :: inside)
      (hitems : Items room true inside items tail) (hclose : closeArray tail = .ok rest) :
      Document (room + 1) cs (array items) rest
  | object {room cs inside members tail rest} (hopen : skipSpace cs = '\x7b' :: inside)
      (hmembers : Members room true inside members tail) (hclose : closeObject tail = .ok rest) :
      Document (room + 1) cs (object members) rest

/-- The items of an array up to its closing bracket. -/
inductive Items : Nat → Bool → List Char → List Json → List Char → Prop where
  | nil {room first cs} (hend : nextItem first cs = .ok none) : Items room first cs [] cs
  | cons {room first cs start item tail items rest} (hnext : nextItem first cs = .ok (some start))
      (hitem : Document room start item tail) (hitems : Items room false tail items rest) :
      Items room first cs (item :: items) rest

/-- The members of an object up to its closing brace. -/
inductive Members : Nat → Bool → List Char → List (String × Json) → List Char → Prop where
  | nil {room first cs} (hend : nextKey first cs = .ok none) : Members room first cs [] cs
  | cons {room first cs start key behind place value tail members rest}
      (hnext : nextKey first cs = .ok (some start)) (hkey : readString start = .ok (key, behind))
      (hcolon : readColon behind = .ok place) (hvalue : Document room place value tail)
      (hmembers : Members room false tail members rest) :
      Members room first cs ((key, value) :: members) rest

end

/-! ## What is read is a document -/

/-- A reading that is mapped succeeds only where the reading itself does. -/
theorem map_eq_ok {α β : Type} {x : Except Fault α} {f : α → β} {b : β}
    (h : x.map f = .ok b) : ∃ a, x = .ok a ∧ f a = b := by
  cases x with
  | error e => cases h
  | ok a => exact ⟨a, rfl, Except.ok.inj h⟩

/-- Two readings one after the other succeed only if the first one does, and the second
one on what it read. -/
theorem bind_eq_ok {α β : Type} {x : Except Fault α} {f : α → Except Fault β} {b : β}
    (h : x.bind f = .ok b) : ∃ a, x = .ok a ∧ f a = .ok b := by
  cases x with
  | error e => cases h
  | ok a => exact ⟨a, rfl, h⟩

/-- A list that was read with an item in front was read without it. -/
theorem consRead_eq_ok {α : Type} {a : α} {as : List α} {rest : List Char}
    {result : Except Fault (List α × List Char)} (h : consRead a result = .ok (as, rest)) :
    ∃ back, result = .ok (back, rest) ∧ as = a :: back := by
  cases result with
  | error e => cases h
  | ok r =>
      cases h
      exact ⟨r.1, rfl, rfl⟩

/-- What the readers find with some fuel is in the grammar. -/
structure Finds (fuel : Nat) : Prop where
  document : ∀ room cs j rest, readDocument fuel room cs = .ok (j, rest) → Document room cs j rest
  items : ∀ room first cs items rest, readItems fuel room first cs = .ok (items, rest) →
    Items room first cs items rest
  members : ∀ room first cs members rest, readMembers fuel room first cs = .ok (members, rest) →
    Members room first cs members rest

namespace Finds

variable {fuel room : Nat} {first : Bool} {cs rest : List Char}

/-- What is read as a document with one more step of fuel is one, if what is read with
less fuel is what the grammar says. -/
theorem succ_document (ih : Finds fuel) {j : Json}
    (h : readDocument (fuel + 1) room cs = .ok (j, rest)) : Document room cs j rest := by
  rw [readDocument] at h
  split at h
  · cases h
  · rename_i inside hopen
    obtain ⟨r, hword, heq⟩ := map_eq_ok h
    cases heq
    exact .scalar (hopen ▸ .null hword)
  · rename_i inside hopen
    obtain ⟨r, hword, heq⟩ := map_eq_ok h
    cases heq
    exact .scalar (hopen ▸ .yes hword)
  · rename_i inside hopen
    obtain ⟨r, hword, heq⟩ := map_eq_ok h
    cases heq
    exact .scalar (hopen ▸ .no hword)
  · rename_i inside hopen
    obtain ⟨r, hnumber, heq⟩ := map_eq_ok h
    cases heq
    exact .scalar (hopen ▸ .negative hnumber)
  · rename_i inside hopen
    obtain ⟨r, hstring, heq⟩ := map_eq_ok h
    cases heq
    exact .scalar (hopen ▸ .string hstring)
  · rename_i inside hopen
    cases room with
    | zero => cases h
    | succ room =>
        obtain ⟨r, hitems, h⟩ := bind_eq_ok h
        obtain ⟨tail, hclose, heq⟩ := map_eq_ok h
        cases heq
        exact .array hopen (ih.items _ _ _ _ _ hitems) hclose
  · rename_i inside hopen
    cases room with
    | zero => cases h
    | succ room =>
        obtain ⟨r, hmembers, h⟩ := bind_eq_ok h
        obtain ⟨tail, hclose, heq⟩ := map_eq_ok h
        cases heq
        exact .object hopen (ih.members _ _ _ _ _ hmembers) hclose
  · rename_i c inside _ _ _ _ _ _ _ hopen
    split at h
    · rename_i hdigit
      obtain ⟨r, hnumber, heq⟩ := map_eq_ok h
      cases heq
      exact .scalar (hopen ▸ .number hdigit hnumber)
    · cases h

/-- Items, if each of them and those behind it are read with less fuel. -/
theorem succ_items (ih : Finds fuel) {items : List Json}
    (h : readItems (fuel + 1) room first cs = .ok (items, rest)) :
    Items room first cs items rest := by
  rw [readItems] at h
  split at h
  · cases h
  · rename_i hend
    cases h
    exact .nil hend
  · rename_i start hnext
    split at h
    · cases h
    · rename_i item tail hitem
      obtain ⟨back, hback, rfl⟩ := consRead_eq_ok h
      exact .cons hnext (ih.document _ _ _ _ hitem) (ih.items _ _ _ _ _ hback)

/-- Members, if the value of each and those behind it are read with less fuel. -/
theorem succ_members (ih : Finds fuel) {members : List (String × Json)}
    (h : readMembers (fuel + 1) room first cs = .ok (members, rest)) :
    Members room first cs members rest := by
  rw [readMembers] at h
  split at h
  · cases h
  · rename_i hend
    cases h
    exact .nil hend
  · rename_i start hnext
    split at h
    · cases h
    · rename_i key behind hkey
      split at h
      · cases h
      · rename_i place hcolon
        split at h
        · cases h
        · rename_i value tail hvalue
          obtain ⟨back, hback, rfl⟩ := consRead_eq_ok h
          exact .cons hnext hkey hcolon (ih.document _ _ _ _ hvalue) (ih.members _ _ _ _ _ hback)

end Finds

/-- What the readers find is in the grammar, whatever the fuel. -/
theorem finds (fuel : Nat) : Finds fuel := by
  induction fuel with
  | zero =>
      refine ⟨fun _ _ _ _ h => ?_, fun _ _ _ _ _ h => ?_, fun _ _ _ _ _ h => ?_⟩ <;> cases h
  | succ fuel ih =>
      exact ⟨fun _ _ _ _ h => ih.succ_document h, fun _ _ _ _ _ h => ih.succ_items h,
        fun _ _ _ _ _ h => ih.succ_members h⟩

/-! ## Parts are shorter than the whole -/

theorem length_skipSpace (cs : List Char) : (skipSpace cs).length ≤ cs.length :=
  (List.dropWhile_suffix _).length_le

/-- A word takes characters away or none at all. -/
theorem length_readWord {word cs rest : List Char} (h : readWord word cs = .ok rest) :
    rest.length ≤ cs.length := by
  fun_induction readWord word cs with
  | case1 cs =>
      cases h
      exact le_refl _
  | case2 => cases h
  | case3 word w cs ih => exact (ih h).trans (Nat.le_succ _)
  | case4 => cases h

/-- A scalar takes at least one character, which is what the fuel is counted by. -/
theorem Scalar.length_lt {cs rest : List Char} {j : Json} (h : Scalar cs j rest) :
    rest.length < cs.length := by
  cases h with
  | null h => exact Nat.lt_succ_of_le (length_readWord h)
  | yes h => exact Nat.lt_succ_of_le (length_readWord h)
  | no h => exact Nat.lt_succ_of_le (length_readWord h)
  | string h => exact Nat.lt_succ_of_lt (length_skipString (skipString_of_read h))
  | negative h => exact Nat.lt_succ_of_lt (length_skipNumber (skipNumber_of_read h))
  | number _ h => exact length_skipNumber (skipNumber_of_read h)

/-- In front of an item there may be a comma and blanks, all of which are only taken
away. -/
theorem length_nextItem {first : Bool} {cs start : List Char}
    (h : nextItem first cs = .ok (some start)) : start.length ≤ cs.length := by
  have hcs := length_skipSpace cs
  rw [nextItem] at h
  split at h
  · cases h
  · cases h
  · rename_i c tail _ hfront
    rw [hfront, List.length_cons] at hcs
    split at h
    · cases h
      exact hcs
    · split at h
      · have htail := length_skipSpace tail
        split at h
        · cases h
        · cases h
        · cases h
          omega
      · cases h

/-- In front of a key there is at least its quotation mark. -/
theorem length_nextKey {first : Bool} {cs start : List Char}
    (h : nextKey first cs = .ok (some start)) : start.length < cs.length := by
  have hcs := length_skipSpace cs
  rw [nextKey] at h
  split at h
  · cases h
  · cases h
  · rename_i c tail _ hfront
    rw [hfront, List.length_cons] at hcs
    split at h
    · split at h
      · cases h
        omega
      · cases h
    · split at h
      · have htail := length_skipSpace tail
        split at h
        · cases h
        · rename_i hquote
          cases h
          rw [hquote, List.length_cons] at htail
          omega
        · cases h
        · cases h
      · cases h

theorem length_readColon {cs rest : List Char} (h : readColon cs = .ok rest) :
    rest.length < cs.length := by
  have hcs := length_skipSpace cs
  rw [readColon] at h
  split at h
  · cases h
  · rename_i hcolon
    cases h
    rw [hcolon, List.length_cons] at hcs
    omega
  · cases h

/-- A member's value stands behind two quotes and a colon at least. -/
theorem length_place {first : Bool} {cs start behind place : List Char} {key : String}
    (hnext : nextKey first cs = .ok (some start)) (hkey : readString start = .ok (key, behind))
    (hcolon : readColon behind = .ok place) : place.length + 3 ≤ cs.length := by
  have hstart := length_nextKey hnext
  have hbehind := length_skipString (skipString_of_read hkey)
  have hplace := length_readColon hcolon
  omega

theorem length_closeArray {cs rest : List Char} (h : closeArray cs = .ok rest) :
    rest.length < cs.length := by
  have hcs := length_skipSpace cs
  rw [closeArray] at h
  split at h
  · cases h
  · rename_i hbracket
    cases h
    rw [hbracket, List.length_cons] at hcs
    omega
  · split at h <;> cases h
  · cases h

theorem length_closeObject {cs rest : List Char} (h : closeObject cs = .ok rest) :
    rest.length < cs.length := by
  have hcs := length_skipSpace cs
  rw [closeObject] at h
  split at h
  · cases h
  · rename_i hbrace
    cases h
    rw [hbrace, List.length_cons] at hcs
    omega
  · cases h
  · cases h

mutual

/-- Every document takes at least one character: a scalar does, and a container has its
brackets. -/
theorem Document.length_lt {room : Nat} {cs rest : List Char} {j : Json} :
    Document room cs j rest → rest.length < cs.length
  | .scalar h => h.length_lt.trans_le (length_skipSpace cs)
  | .array hopen hitems hclose => by
      have hcs := length_skipSpace cs
      have hinside := hitems.length_le
      have htail := length_closeArray hclose
      rw [hopen, List.length_cons] at hcs
      omega
  | .object hopen hmembers hclose => by
      have hcs := length_skipSpace cs
      have hinside := hmembers.length_le
      have htail := length_closeObject hclose
      rw [hopen, List.length_cons] at hcs
      omega

/-- A list of items takes at least as many characters as it has items. -/
theorem Items.length_le {room : Nat} {first : Bool} {cs rest : List Char} {items : List Json} :
    Items room first cs items rest → items.length + rest.length ≤ cs.length
  | .nil _ => by simp
  | .cons hnext hitem hitems => by
      have hstart := length_nextItem hnext
      have htail := hitem.length_lt
      have hrest := hitems.length_le
      rw [List.length_cons]
      omega

/-- A list of members takes at least as many characters as it has members. -/
theorem Members.length_le {room : Nat} {first : Bool} {cs rest : List Char}
    {members : List (String × Json)} :
    Members room first cs members rest → members.length + rest.length ≤ cs.length
  | .nil _ => by simp
  | .cons hnext hkey hcolon hvalue hmembers => by
      have hplace := length_place hnext hkey hcolon
      have htail := hvalue.length_lt
      have hrest := hmembers.length_le
      rw [List.length_cons]
      omega

end

/-! ## Documents are read -/

/-- The reader of documents reads a scalar with any fuel but none, and with any room for
nesting. -/
theorem Scalar.read {cs rest : List Char} {j : Json} (h : Scalar (skipSpace cs) j rest)
    (fuel room : Nat) : readDocument (fuel + 1) room cs = .ok (j, rest) := by
  rw [readDocument]
  generalize skipSpace cs = front at h ⊢
  cases h with
  | null h => simp only [h, Except.map]
  | yes h => simp only [h, Except.map]
  | no h => simp only [h, Except.map]
  | string h => simp only [h, Except.map]
  | negative h => simp only [h, Except.map]
  | number hdigit h =>
      -- A digit is none of the characters that begin other documents.
      split <;> rename_i heq <;> cases heq
      all_goals first
        | exact absurd hdigit (by decide)
        | simp only [hdigit, if_true, h, Except.map]

mutual

/-- **The reader finds every document.** Fuel for twice the characters that are taken is
enough: one step goes to the document and one to the item or member that it is. -/
theorem Document.read {room : Nat} {cs rest : List Char} {j : Json} :
    Document room cs j rest → ∀ fuel, 2 * cs.length ≤ fuel + 2 * rest.length →
      readDocument fuel room cs = .ok (j, rest)
  | h, 0, hfuel => by
      have hlt := h.length_lt
      omega
  | .scalar h, fuel + 1, _ => h.read fuel _
  | .array hopen hitems hclose, fuel + 1, hfuel => by
      have hcs := length_skipSpace cs
      have htail := length_closeArray hclose
      rw [hopen, List.length_cons] at hcs
      have hread := hitems.read fuel (by omega)
      simp only [readDocument, hopen, hread, hclose, Except.bind, Except.map]
  | .object hopen hmembers hclose, fuel + 1, hfuel => by
      have hcs := length_skipSpace cs
      have htail := length_closeObject hclose
      rw [hopen, List.length_cons] at hcs
      have hread := hmembers.read fuel (by omega)
      simp only [readDocument, hopen, hread, hclose, Except.bind, Except.map]

/-- The reader of lists finds every list of items, with fuel for twice the characters
and one step more for the end of the list. -/
theorem Items.read {room : Nat} {first : Bool} {cs rest : List Char} {items : List Json} :
    Items room first cs items rest → ∀ fuel, 2 * cs.length + 1 ≤ fuel + 2 * rest.length →
      readItems fuel room first cs = .ok (items, rest)
  | h, 0, hfuel => by
      have hle := h.length_le
      omega
  | .nil hend, fuel + 1, _ => by simp only [readItems, hend]
  | .cons hnext hitem hitems, fuel + 1, hfuel => by
      have hstart := length_nextItem hnext
      have htail := hitem.length_lt
      have hrest := hitems.length_le
      simp only [readItems, hnext, hitem.read fuel (by omega), hitems.read fuel (by omega),
        consRead]

/-- The reader of objects finds every list of members, with the same fuel as a list of
items of that length. -/
theorem Members.read {room : Nat} {first : Bool} {cs rest : List Char}
    {members : List (String × Json)} :
    Members room first cs members rest → ∀ fuel, 2 * cs.length + 1 ≤ fuel + 2 * rest.length →
      readMembers fuel room first cs = .ok (members, rest)
  | h, 0, hfuel => by
      have hle := h.length_le
      omega
  | .nil hend, fuel + 1, _ => by simp only [readMembers, hend]
  | .cons hnext hkey hcolon hvalue hmembers, fuel + 1, hfuel => by
      have hplace := length_place hnext hkey hcolon
      have htail := hvalue.length_lt
      have hrest := hmembers.length_le
      simp only [readMembers, hnext, hkey, hcolon, hvalue.read fuel (by omega),
        hmembers.read fuel (by omega), consRead]

end

/-- **The reader finds the documents of the grammar**, and no others: with the fuel that
the length of the text gives, it succeeds just on these. -/
theorem reader_eq_ok_iff {room : Nat} {cs rest : List Char} {j : Json} :
    reader room cs = .ok (j, rest) ↔ Document room cs j rest := by
  constructor
  · exact (finds (fuelFor cs)).document room cs j rest
  · intro h
    refine h.read (fuelFor cs) ?_
    unfold fuelFor
    omega

/-! ## Documents are passed over -/

theorem skipSpace_skipSpace (cs : List Char) : skipSpace (skipSpace cs) = skipSpace cs :=
  List.dropWhile_idempotent isSpace cs

/-- White space makes no difference in front of a document. -/
theorem skipDocument_skipSpace (fuel : Nat) (cs : List Char) :
    skipDocument (fuel + 1) (skipSpace cs) = skipDocument (fuel + 1) cs := by
  rw [skipDocument, skipDocument, skipSpace_skipSpace]

/-- What is read as a scalar is skipped as one, and the skipping ends at the same
character. -/
theorem Scalar.skip {cs rest : List Char} {j : Json} (h : Scalar (skipSpace cs) j rest)
    (fuel : Nat) : skipDocument (fuel + 1) cs = .ok rest := by
  rw [skipDocument]
  generalize skipSpace cs = front at h ⊢
  cases h with
  | null h => exact h
  | yes h => exact h
  | no h => exact h
  | string h => exact skipString_of_read h
  | negative h => exact skipNumber_of_read h
  | number hdigit h =>
      split <;> rename_i heq <;> cases heq
      all_goals first
        | exact absurd hdigit (by decide)
        | exact (if_pos hdigit).trans (skipNumber_of_read h)

/-- The step to the next item, without its value. -/
theorem skipItems_of_next {fuel : Nat} {first : Bool} {cs start tail : List Char}
    (hnext : nextItem first cs = .ok (some start))
    (hitem : skipDocument (fuel + 1) start = .ok tail) :
    skipItems (fuel + 2) first cs = skipItems (fuel + 1) false tail := by
  rw [nextItem] at hnext
  rw [skipItems]
  split at hnext
  · cases hnext
  · cases hnext
  · rename_i c back hbracket hfront
    by_cases hfirst : first = true
    · rw [if_pos hfirst] at hnext ⊢
      cases hnext
      simp only [hitem]
    · rw [if_neg hfirst] at hnext ⊢
      by_cases hcomma : c = ','
      · rw [if_pos hcomma] at hnext ⊢
        have hstart : skipSpace back = start := by
          split at hnext
          · cases hnext
          · cases hnext
          · cases hnext
            rfl
        rw [← hstart, skipDocument_skipSpace] at hitem
        simp only [hitem]
      · rw [if_neg hcomma] at hnext
        cases hnext

/-- The bracket that closes an array ends the items. -/
theorem skipItems_of_close {fuel : Nat} {first : Bool} {cs rest : List Char}
    (hclose : closeArray cs = .ok rest) : skipItems (fuel + 1) first cs = .ok rest := by
  rw [closeArray] at hclose
  rw [skipItems]
  split at hclose
  · cases hclose
  · rename_i hbracket
    cases hclose
    simp only [hbracket]
  · split at hclose <;> cases hclose
  · cases hclose

theorem skipMembers_of_close {fuel : Nat} {first : Bool} {cs rest : List Char}
    (hclose : closeObject cs = .ok rest) : skipMembers (fuel + 1) first cs = .ok rest := by
  rw [closeObject] at hclose
  rw [skipMembers]
  split at hclose
  · cases hclose
  · rename_i hbrace
    cases hclose
    simp only [hbrace]
  · cases hclose
  · cases hclose

/-- The step to the next member, past its key and its value. -/
theorem skipMembers_of_next {fuel : Nat} {first : Bool} {cs start behind place tail : List Char}
    (hnext : nextKey first cs = .ok (some start)) (hkey : skipString start = .ok behind)
    (hcolon : readColon behind = .ok place) (hvalue : skipDocument fuel place = .ok tail) :
    skipMembers (fuel + 2) first cs = skipMembers fuel false tail := by
  have hmember : ∀ cs, skipSpace cs = '"' :: start →
      skipMember (fuel + 1) cs = skipMembers fuel false tail := by
    intro cs hquote
    simp only [skipMember, hquote, hkey, hcolon, hvalue]
  rw [nextKey] at hnext
  rw [skipMembers]
  split at hnext
  · cases hnext
  · cases hnext
  · rename_i c back hbrace hfront
    by_cases hfirst : first = true
    · rw [if_pos hfirst] at hnext ⊢
      split at hnext
      · rename_i hquote
        cases hnext
        rw [hquote]
        exact hmember _ rfl
      · cases hnext
    · rw [if_neg hfirst] at hnext ⊢
      split at hnext
      · rename_i hcomma
        rw [if_pos hcomma]
        split at hnext
        · cases hnext
        · rename_i hquote
          cases hnext
          exact hmember back hquote
        · cases hnext
        · cases hnext
      · cases hnext

mutual

/-- **What is read can be skipped.** The skipping of a document ends where its reading
does, with the same fuel, and asks for no room. -/
theorem Document.skip_eq {room : Nat} {cs rest : List Char} {j : Json} :
    Document room cs j rest → ∀ fuel, 2 * cs.length ≤ fuel + 2 * rest.length →
      skipDocument fuel cs = .ok rest
  | h, 0, hfuel => by
      have hlt := h.length_lt
      omega
  | .scalar h, fuel + 1, _ => h.skip fuel
  | .array hopen hitems hclose, fuel + 1, hfuel => by
      have hcs := length_skipSpace cs
      rw [hopen, List.length_cons] at hcs
      have hskip := hitems.skip hclose fuel (by omega)
      simp only [skipDocument, hopen, hskip]
  | .object hopen hmembers hclose, fuel + 1, hfuel => by
      have hcs := length_skipSpace cs
      rw [hopen, List.length_cons] at hcs
      have hskip := hmembers.skip hclose fuel (by omega)
      simp only [skipDocument, hopen, hskip]

/-- A list of items is skipped together with the bracket that closes it. -/
theorem Items.skip {room : Nat} {first : Bool} {cs tail rest : List Char} {items : List Json} :
    Items room first cs items tail → closeArray tail = .ok rest →
      ∀ fuel, 2 * cs.length ≤ fuel + 2 * rest.length → skipItems fuel first cs = .ok rest
  | h, hclose, 0, hfuel => by
      have hle := h.length_le
      have hlt := length_closeArray hclose
      omega
  | .nil _, hclose, fuel + 1, _ => skipItems_of_close hclose
  | .cons hnext hitem hitems, hclose, 1, hfuel => by
      have hstart := length_nextItem hnext
      have htail := hitem.length_lt
      have hle := hitems.length_le
      have hlt := length_closeArray hclose
      omega
  | .cons hnext hitem hitems, hclose, fuel + 2, hfuel => by
      have hstart := length_nextItem hnext
      have htail := hitem.length_lt
      have hle := hitems.length_le
      have hlt := length_closeArray hclose
      rw [skipItems_of_next hnext (hitem.skip_eq (fuel + 1) (by omega))]
      exact hitems.skip hclose (fuel + 1) (by omega)

/-- A list of members is skipped together with the brace that closes it. -/
theorem Members.skip {room : Nat} {first : Bool} {cs tail rest : List Char}
    {members : List (String × Json)} :
    Members room first cs members tail → closeObject tail = .ok rest →
      ∀ fuel, 2 * cs.length ≤ fuel + 2 * rest.length → skipMembers fuel first cs = .ok rest
  | h, hclose, 0, hfuel => by
      have hle := h.length_le
      have hlt := length_closeObject hclose
      omega
  | .nil _, hclose, fuel + 1, _ => skipMembers_of_close hclose
  | .cons hnext hkey hcolon hvalue hmembers, hclose, 1, hfuel => by
      have hplace := length_place hnext hkey hcolon
      have htail := hvalue.length_lt
      have hle := hmembers.length_le
      have hlt := length_closeObject hclose
      omega
  | .cons hnext hkey hcolon hvalue hmembers, hclose, fuel + 2, hfuel => by
      have hplace := length_place hnext hkey hcolon
      have htail := hvalue.length_lt
      have hle := hmembers.length_le
      have hlt := length_closeObject hclose
      rw [skipMembers_of_next hnext (skipString_of_read hkey) hcolon
        (hvalue.skip_eq fuel (by omega))]
      exact hmembers.skip hclose fuel (by omega)

end

/-- A document that stands in front of a text can be passed over. -/
theorem Document.skip {room : Nat} {cs rest : List Char} {j : Json}
    (h : Document room cs j rest) : Json.skip cs = .ok rest := by
  refine h.skip_eq (2 * fuelFor cs) ?_
  unfold fuelFor
  omega

end SubscriptionBilling.Json
