import Mathlib
import SubscriptionBilling.Proofs.Grammar
import SubscriptionBilling.Proofs.Numerals
/-!
# Documents survive as text

The text of a document whose numbers are all integers stands for that document
(`document_print`), whatever follows it, and so it is read as that document
(`read_text`): every character of a string comes back from its escape, and every
integer of 64 bits from its digits.
-/

namespace SubscriptionBilling.Json

open Text

/-! ## Strings -/

/-- A character that needs no escape stands for itself. -/
theorem readChars_cons {c : Char} (hquote : c ≠ '"') (hslash : c ≠ '\\') (hlarge : 32 ≤ c.toNat)
    (tail : List Char) : readChars (c :: tail) = consChar c (readChars tail) := by
  rw [readChars, if_neg (not_lt.mpr hlarge)]
  all_goals
    intros
    first
      | exact hquote ‹_›
      | exact hslash ‹_›

/-- Two digits behind two zeros are the number that they spell. -/
theorem hexQuad?_small {n : Nat} (h : n < 256) :
    hexQuad? '0' '0' (hexDigit (lowDigit (n / 16))) (hexDigit (lowDigit n)) = some n := by
  have hzero : hexValue? '0' = some 0 := by decide
  simp only [hexQuad?, hzero, hexValue?_hexDigit, lowDigit]
  congr 1
  simp only [Fin.val_zero]
  omega

/-- A control character is written by its number in hexadecimal digits, and is read
again. -/
theorem readChars_control {c : Char} (h : c.toNat < 32) (tail : List Char) :
    readChars ('\\' :: 'u' :: '0' :: '0' :: hexDigit (lowDigit (c.toNat / 16)) ::
      hexDigit (lowDigit c.toNat) :: tail) = consChar c (readChars tail) := by
  have hlow : isLowSurrogate c.toNat = false := by
    simp only [isLowSurrogate, Bool.and_eq_false_iff, decide_eq_false_iff_not]
    omega
  have hhigh : isHighSurrogate c.toNat = false := by
    simp only [isHighSurrogate, Bool.and_eq_false_iff, decide_eq_false_iff_not]
    omega
  simp only [readChars, hexQuad?_small (h.trans (by decide)), hlow, hhigh, Char.ofNat_toNat,
    Bool.false_eq_true, if_false]

/-- **One character, escaped or not, is read as that character.** -/
theorem readChars_escape (c : Char) (tail : List Char) :
    readChars (escape c ++ tail) = consChar c (readChars tail) := by
  fun_cases escape c with
  | case8 _ hquote hslash _ _ _ _ _ hsmall => exact readChars_control hsmall tail
  | case9 _ hquote hslash _ _ _ _ _ hlarge =>
      exact readChars_cons hquote hslash (not_lt.mp hlarge) tail
  | _ => simp [readChars, shortEscape?]

/-- **A text that is escaped is read again**, up to the quotation mark that ends it. -/
theorem readChars_flatMap (cs rest : List Char) :
    readChars (cs.flatMap escape ++ '"' :: rest) = .ok (cs, rest) := by
  induction cs with
  | nil => rw [List.flatMap_nil, List.nil_append, readChars]
  | cons c cs ih => rw [List.flatMap_cons, List.append_assoc, readChars_escape, ih, consChar]

/-- A printed string is read back behind its opening quote. -/
theorem readString_print (s : String) (rest : List Char) :
    readString (s.toList.flatMap escape ++ '"' :: rest) = .ok (s, rest) := by
  rw [readString, readChars_flatMap]
  simp only [String.ofList_toList]

theorem printString_append (s : String) (rest : List Char) :
    printString s ++ rest = '"' :: (s.toList.flatMap escape ++ '"' :: rest) := by
  simp [printString]

/-! ## Integers -/

/-- Nothing stands in front that would go on with a number. -/
def EndsNumber (cs : List Char) : Prop :=
  ∀ c rest, cs = c :: rest → c.isDigit = false ∧ c ≠ '.' ∧ c ≠ 'e' ∧ c ≠ 'E'

theorem endsNumber_nil : EndsNumber [] := fun _ _ h => nomatch h

theorem endsNumber_cons {c : Char} (h : c.isDigit = false ∧ c ≠ '.' ∧ c ≠ 'e' ∧ c ≠ 'E')
    (rest : List Char) : EndsNumber (c :: rest) := by
  intro c' rest' heq
  rw [← (List.cons.inj heq).1]
  exact h

theorem EndsNumber.ends {cs : List Char} (h : EndsNumber cs) : Ends cs :=
  fun c rest heq => (h c rest heq).1

/-- Digits of a number of 64 bits are all taken. -/
theorem takeFitting_append {digits rest : List Char} (hdigits : ∀ c ∈ digits, c.isDigit = true)
    (hends : Ends rest) {n : Nat} (taken : Nat)
    (hfits : Nat.ofDigitChars 10 digits n < UInt64.size) :
    takeFitting n taken (digits ++ rest) =
      (Nat.ofDigitChars 10 digits n, taken + digits.length, rest) := by
  induction digits generalizing n taken with
  | nil =>
      cases rest with
      | nil => rfl
      | cons c rest =>
          have hno : ¬ (c.isDigit && n * 10 + digitValue c < UInt64.size) = true := by
            rw [hends c rest rfl, Bool.false_and]
            decide
          rw [List.nil_append, takeFitting, if_neg hno]
          rfl
  | cons c digits ih =>
      obtain ⟨hc, hrest⟩ := List.forall_mem_cons.mp hdigits
      rw [Nat.ofDigitChars_cons, Nat.mul_comm] at hfits
      have hsmall : n * 10 + digitValue c < UInt64.size := (le_ofDigitChars digits _).trans_lt hfits
      have hyes : (c.isDigit && n * 10 + digitValue c < UInt64.size) = true := by
        simp [hc, hsmall]
      rw [List.cons_append, takeFitting, if_pos hyes, Nat.ofDigitChars_cons, Nat.mul_comm 10 n,
        List.length_cons, Nat.add_comm digits.length, ← Nat.add_assoc]
      exact ih hrest (taken + 1) hfits

/-- A number without point and exponent is an integer. -/
theorem readNumber_decimal (negative : Bool) {n : Nat} (hn : n < UInt64.size) {rest : List Char}
    (hends : EndsNumber rest) :
    readNumber negative (decimal n ++ rest) = makeInteger negative n rest := by
  have hspells := spells_decimal n
  obtain ⟨c, back, hcons, hdigit⟩ := hspells.eq_cons
  rw [hcons] at hspells ⊢
  have hvalue := hspells.value_cons
  have hstarts : ¬ (c = '0' ∧ startsWithDigit (back ++ rest) = true) := by
    rintro ⟨rfl, hstarts⟩
    rw [(decimal_eq_cons_zero hcons).2, List.nil_append] at hstarts
    cases rest with
    | nil => cases hstarts
    | cons d rest => exact absurd hstarts (by simp [startsWithDigit, hends.ends d rest rfl])
  have htaken : ∃ count, (if c = '0' then (0, 0, back ++ rest)
      else takeFitting (digitValue c) 0 (back ++ rest)) = (n, count, rest) := by
    by_cases hzero : c = '0'
    · obtain ⟨rfl, rfl⟩ := decimal_eq_cons_zero (hzero ▸ hcons)
      exact ⟨0, by rw [if_pos hzero, List.nil_append]⟩
    · refine ⟨0 + back.length, ?_⟩
      rw [if_neg hzero, takeFitting_append hspells.tail hends.ends 0 (by rwa [hvalue]), hvalue]
  obtain ⟨count, htaken⟩ := htaken
  rw [List.cons_append, readNumber, if_neg (by simp [hdigit]), if_neg hstarts, htaken]
  simp only [splitDigits, takeWhile_of_ends hends.ends, dropWhile_of_ends hends.ends]
  split
  · exact absurd rfl (hends _ _ rfl).2.1
  · exact absurd rfl (hends _ _ rfl).2.2.1
  · exact absurd rfl (hends _ _ rfl).2.2.2
  · rfl

/-- **A printed integer is read as that integer.** -/
theorem scalar_integer (i : Integer) {rest : List Char} (hends : EndsNumber rest) :
    Scalar (decimalInt i.val ++ rest) (number (.integer i)) rest := by
  have hofInt : ∀ v, v = i.val → Integer.ofInt? v = some i := by
    rintro v rfl
    exact dif_pos ⟨i.lower, i.upper⟩
  have hlower := i.lower
  have hupper := i.upper
  cases hval : i.val with
  | ofNat n =>
      rw [hval, Int.ofNat_eq_natCast] at hupper
      have hn : n < UInt64.size := by
        unfold UInt64.size
        omega
      have hread : readNumber false (decimal n ++ rest) = .ok (.integer i, rest) := by
        rw [readNumber_decimal false hn hends, makeInteger, if_neg (by simp)]
        simp only [Bool.false_eq_true, if_false, hofInt n hval.symm]
      obtain ⟨c, back, hcons, hdigit⟩ := (spells_decimal n).eq_cons
      rw [hcons] at hread
      rw [decimalInt, hcons]
      exact .number hdigit hread
  | negSucc n =>
      rw [hval] at hlower
      have hn : n + 1 < UInt64.size := by
        unfold UInt64.size
        omega
      have hneg : -((n + 1 : Nat) : Int) = i.val := by
        rw [hval]
        omega
      have hread : readNumber true (decimal (n + 1) ++ rest) = .ok (.integer i, rest) := by
        rw [readNumber_decimal true hn hends, makeInteger, if_neg (by simp)]
        simp only [if_true, hofInt _ hneg]
      exact .negative hread

/-! ## Documents of integers -/

mutual

/-- Every number in the document is an integer. -/
def Integral : Json → Prop
  | number (.double _) => False
  | array items => IntegralItems items
  | object members => IntegralMembers members
  | _ => True

/-- Every number in the items is an integer. -/
def IntegralItems : List Json → Prop
  | [] => True
  | item :: rest => Integral item ∧ IntegralItems rest

/-- Every number in the members is an integer. -/
def IntegralMembers : List (String × Json) → Prop
  | [] => True
  | (_, value) :: rest => Integral value ∧ IntegralMembers rest

end

theorem skipSpace_cons {c : Char} (h : isSpace c = false) (rest : List Char) :
    skipSpace (c :: rest) = c :: rest :=
  List.dropWhile_cons_of_neg (by rw [h]; decide)

theorem isSpace_of_isDigit {c : Char} (h : c.isDigit = true) : isSpace c = false := by
  by_contra hspace
  simp only [isSpace, Bool.not_eq_false, Bool.or_eq_true, beq_iff_eq] at hspace
  rcases hspace with ((rfl | rfl) | rfl) | rfl <;> exact absurd h (by decide)

/-- A printed document starts with neither white space nor a closing bracket. -/
theorem print_eq_cons {j : Json} (h : j.Integral) :
    ∃ c cs, j.print = c :: cs ∧ isSpace c = false ∧ c ≠ ']' := by
  match j with
  | null => exact ⟨_, _, rfl, by decide, by decide⟩
  | bool true => exact ⟨_, _, rfl, by decide, by decide⟩
  | bool false => exact ⟨_, _, rfl, by decide, by decide⟩
  | string s => exact ⟨'"', _, rfl, by decide, by decide⟩
  | array items => exact ⟨'[', _, rfl, by decide, by decide⟩
  | object members => exact ⟨'\x7b', _, rfl, by decide, by decide⟩
  | number (.double x) => exact h.elim
  | number (.integer i) =>
      rw [print, printNumber]
      cases i.val with
      | negSucc n => exact ⟨'-', _, rfl, by decide, by decide⟩
      | ofNat n =>
          obtain ⟨c, cs, hcons, hdigit⟩ := (spells_decimal n).eq_cons
          refine ⟨c, cs, hcons, isSpace_of_isDigit hdigit, ?_⟩
          rintro rfl
          exact absurd hdigit (by decide)

/-- The text of a document begins with no blank. -/
theorem skipSpace_print {j : Json} (h : j.Integral) (rest : List Char) :
    skipSpace (j.print ++ rest) = j.print ++ rest := by
  obtain ⟨c, cs, hcons, hspace, -⟩ := print_eq_cons h
  rw [hcons, List.cons_append, skipSpace_cons hspace]

/-- The first item begins at once. -/
theorem nextItem_first {j : Json} (h : j.Integral) (rest : List Char) :
    nextItem true (j.print ++ rest) = .ok (some (j.print ++ rest)) := by
  obtain ⟨c, cs, hcons, hspace, hbracket⟩ := print_eq_cons h
  rw [nextItem, skipSpace_print h, hcons, List.cons_append]
  split
  · contradiction
  · rename_i heq
    exact absurd (List.cons.inj heq).1 hbracket
  · rename_i heq
    rw [if_pos rfl, heq]

/-- Every other item begins behind a comma. -/
theorem nextItem_more {j : Json} (h : j.Integral) (rest : List Char) :
    nextItem false (',' :: (j.print ++ rest)) = .ok (some (j.print ++ rest)) := by
  obtain ⟨c, cs, hcons, hspace, hbracket⟩ := print_eq_cons h
  rw [nextItem, skipSpace_cons (by decide)]
  split
  · contradiction
  · rename_i heq
    exact absurd (List.cons.inj heq).1 (by decide)
  · rename_i heq
    cases heq
    rw [if_neg Bool.false_ne_true, if_pos rfl, skipSpace_print h, hcons, List.cons_append]
    split
    · contradiction
    · rename_i heq
      exact absurd (List.cons.inj heq).1 hbracket
    · rfl

/-- The items after the first, and the bracket, are no part of a number. -/
theorem endsNumber_printMoreItems (items : List Json) (rest : List Char) :
    EndsNumber (printMoreItems items ++ rest) := by
  cases items with
  | nil => exact endsNumber_cons (by decide) rest
  | cons item items => exact endsNumber_cons (by decide) _

/-- Behind the value of a member there is a comma or the closing brace, either of which
ends a number. -/
theorem endsNumber_printMoreMembers (members : List (String × Json)) (rest : List Char) :
    EndsNumber (printMoreMembers members ++ rest) := by
  cases members with
  | nil => exact endsNumber_cons (by decide) rest
  | cons member members => exact endsNumber_cons (by decide) _

mutual

/-- **The text of a document stands for that document**, whatever follows. -/
theorem document_print {room : Nat} {rest : List Char} (hends : EndsNumber rest) :
    ∀ j : Json, j.Integral → j.nesting ≤ room → Document room (j.print ++ rest) j rest
  | null, _, _ => .scalar (.null rfl)
  | bool true, _, _ => .scalar (.yes rfl)
  | bool false, _, _ => .scalar (.no rfl)
  | number (.double x), h, _ => h.elim
  | number (.integer i), h, _ => by
      refine .scalar ?_
      rw [skipSpace_print h]
      exact scalar_integer i hends
  | string s, h, _ => by
      refine .scalar ?_
      rw [skipSpace_print h, print, printString_append]
      exact .string (readString_print s rest)
  | array items, h, hroom => by
      obtain ⟨room, rfl⟩ := Nat.exists_eq_add_one_of_ne_zero (Nat.ne_zero_of_lt hroom)
      have hopen : skipSpace ((array items).print ++ rest) = '[' :: (printItems items ++ rest) :=
        skipSpace_cons rfl _
      exact .array hopen (items_print items h (Nat.le_of_succ_le_succ hroom)) rfl
  | object members, h, hroom => by
      obtain ⟨room, rfl⟩ := Nat.exists_eq_add_one_of_ne_zero (Nat.ne_zero_of_lt hroom)
      have hopen : skipSpace ((object members).print ++ rest) =
          '\x7b' :: (printMembers members ++ rest) := skipSpace_cons rfl _
      exact .object hopen (members_print members h (Nat.le_of_succ_le_succ hroom)) rfl

/-- The first item of a list comes right behind the bracket. -/
theorem items_print {room : Nat} {rest : List Char} :
    ∀ items : List Json, IntegralItems items → nestingItems items ≤ room →
      Items room true (printItems items ++ rest) items (']' :: rest)
  | [], _, _ => .nil rfl
  | item :: items, h, hroom => by
      rw [printItems, List.append_assoc]
      exact .cons (nextItem_first h.1 _)
        (document_print (endsNumber_printMoreItems items rest) item h.1 (le_of_max_le_left hroom))
        (moreItems_print items h.2 (le_of_max_le_right hroom))

/-- Every further item of a list comes behind a comma. -/
theorem moreItems_print {room : Nat} {rest : List Char} :
    ∀ items : List Json, IntegralItems items → nestingItems items ≤ room →
      Items room false (printMoreItems items ++ rest) items (']' :: rest)
  | [], _, _ => .nil rfl
  | item :: items, h, hroom => by
      rw [printMoreItems, List.append_assoc, List.cons_append]
      exact .cons (nextItem_more h.1 _)
        (document_print (endsNumber_printMoreItems items rest) item h.1 (le_of_max_le_left hroom))
        (moreItems_print items h.2 (le_of_max_le_right hroom))

/-- The first member of an object comes right behind the brace. -/
theorem members_print {room : Nat} {rest : List Char} :
    ∀ members : List (String × Json), IntegralMembers members → nestingMembers members ≤ room →
      Members room true (printMembers members ++ rest) members ('\x7d' :: rest)
  | [], _, _ => .nil rfl
  | (key, value) :: members, h, hroom => by
      rw [printMembers, List.append_assoc, List.append_assoc, List.cons_append, printString_append]
      exact .cons rfl (readString_print key _) rfl
        (document_print (endsNumber_printMoreMembers members rest) value h.1
          (le_of_max_le_left hroom))
        (moreMembers_print members h.2 (le_of_max_le_right hroom))

/-- Every further member of an object comes behind a comma. -/
theorem moreMembers_print {room : Nat} {rest : List Char} :
    ∀ members : List (String × Json), IntegralMembers members → nestingMembers members ≤ room →
      Members room false (printMoreMembers members ++ rest) members ('\x7d' :: rest)
  | [], _, _ => .nil rfl
  | (key, value) :: members, h, hroom => by
      rw [printMoreMembers, List.append_assoc, List.append_assoc, List.cons_append,
        printString_append, List.cons_append]
      exact .cons rfl (readString_print key _) rfl
        (document_print (endsNumber_printMoreMembers members rest) value h.1
          (le_of_max_le_left hroom))
        (moreMembers_print members h.2 (le_of_max_le_right hroom))

end

/-- The text of a document of integers is read as that document. -/
theorem read_text {j : Json} (h : j.Integral) (hroom : j.nesting ≤ roomAtStart) :
    read j.text = .ok j := by
  have hread := document_print endsNumber_nil j h hroom
  rw [List.append_nil, ← reader_eq_ok_iff] at hread
  rw [read, whole, text, String.toList_ofList, hread]
  rfl

end SubscriptionBilling.Json
