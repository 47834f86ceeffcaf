import Mathlib
import SubscriptionBilling.Text.Numeral
/-!
# Runs of digits

What a writer of numbers puts down is a run of decimal digits that spells the
number (`Spells`), and readers take such a run off the front of a text up to the
first character that is no digit (`Ends`).  A text that is nothing but such a run,
with a plus sign or without, is read as the integer that it spells
(`integer?_eq_some_iff`).  What is read need not be what is written again: that is
so for the usual way to write an integer only (`decimalInt_eq_iff`).
-/

namespace SubscriptionBilling.Text

theorem toNat_of_isDigit {c : Char} (h : c.isDigit = true) : 48 ≤ c.toNat ∧ c.toNat ≤ 57 := by
  simpa [Char.isDigit, UInt32.le_iff_toNat_le] using h

/-- Decimal digits, at least one, that stand for a number. -/
structure Spells (digits : List Char) (n : Nat) : Prop where
  nonempty : digits ≠ []
  isDigit : ∀ c ∈ digits, c.isDigit = true
  value : Nat.ofDigitChars 10 digits 0 = n

section FirstDigit

variable {c : Char} {rest : List Char} {n : Nat} (h : Spells (c :: rest) n)

include h

theorem Spells.head : c.isDigit = true := h.isDigit c List.mem_cons_self

theorem Spells.tail : ∀ d ∈ rest, d.isDigit = true :=
  fun d hd => h.isDigit d (List.mem_cons_of_mem c hd)

/-- The first digit is read before the others. -/
theorem Spells.value_cons : Nat.ofDigitChars 10 rest (digitValue c) = n := by
  have hvalue := h.value
  rw [Nat.ofDigitChars_cons, Nat.mul_zero, Nat.zero_add] at hvalue
  exact hvalue

end FirstDigit

/-- A numeral has a first digit. -/
theorem Spells.eq_cons {digits : List Char} {n : Nat} (h : Spells digits n) :
    ∃ c rest, digits = c :: rest ∧ c.isDigit = true := by
  obtain ⟨c, rest, rfl⟩ := List.exists_cons_of_ne_nil h.nonempty
  exact ⟨c, rest, rfl, h.head⟩

/-- No digit stands in front. -/
def Ends (cs : List Char) : Prop := ∀ c rest, cs = c :: rest → c.isDigit = false

theorem ends_cons {c : Char} (h : c.isDigit = false) (rest : List Char) : Ends (c :: rest) := by
  intro c' rest' heq
  rw [← (List.cons.inj heq).1]
  exact h

/-- Where the digits end there is no digit to drop. -/
theorem dropWhile_of_ends {cs : List Char} (h : Ends cs) : cs.dropWhile Char.isDigit = cs := by
  cases cs with
  | nil => rfl
  | cons c cs => exact List.dropWhile_cons_of_neg (by rw [h c cs rfl]; decide)

/-- Where the digits end there is no digit to take. -/
theorem takeWhile_of_ends {cs : List Char} (h : Ends cs) : cs.takeWhile Char.isDigit = [] := by
  cases cs with
  | nil => rfl
  | cons c cs => exact List.takeWhile_cons_of_neg (by rw [h c cs rfl]; decide)

/-- Digits never make a number smaller. -/
theorem le_ofDigitChars (digits : List Char) (n : Nat) : n ≤ Nat.ofDigitChars 10 digits n := by
  rw [Nat.ofDigitChars_eq_ofDigitChars_zero]
  have hpositive : 1 ≤ 10 ^ digits.length := Nat.one_le_pow _ _ (by decide)
  nlinarith

/-- The decimal text of a number spells it. -/
theorem spells_decimal (n : Nat) : Spells (decimal n) n where
  nonempty := Nat.toDigits_ne_nil
  isDigit _ h := Nat.isDigit_of_mem_toDigits (by decide) (by decide) h
  value := ofDecimal_decimal n

/-- Zeros in front change nothing. -/
theorem spells_padded (width n : Nat) : Spells (padded width n) n where
  nonempty h := (spells_decimal n).nonempty (List.append_eq_nil_iff.mp h).2
  isDigit c h := by
    rcases List.mem_append.mp h with hzero | hdecimal
    · rw [List.eq_of_mem_replicate hzero]
      rfl
    · exact (spells_decimal n).isDigit c hdecimal
  value := by
    rw [padded, Nat.ofDigitChars_append, Nat.ofDigitChars_replicate_zero, Nat.mul_zero]
    exact (spells_decimal n).value

/-- A number that fits the width is written in just that width. -/
theorem length_padded {width n : Nat} (hwidth : 0 < width) (h : n < 10 ^ width) :
    (padded width n).length = width := by
  have hle : (decimal n).length ≤ width := (Nat.length_toDigits_le_iff (by decide) hwidth).mpr h
  rw [padded, List.length_append, List.length_replicate]
  omega

/-- A number without zeros in front starts with zero only if it is zero. -/
theorem decimal_eq_cons_zero {n : Nat} {rest : List Char} (h : decimal n = '0' :: rest) :
    n = 0 ∧ rest = [] := by
  induction n using Nat.strongRecOn generalizing rest with
  | ind n ih =>
      rw [decimal] at h
      by_cases hn : n < 10
      · rw [Nat.toDigits_of_lt_base hn, List.cons.injEq, Nat.digitChar_eq_zero] at h
        exact ⟨h.1, h.2.symm⟩
      · rw [Nat.toDigits_of_base_le (by decide) (not_lt.mp hn)] at h
        obtain ⟨c, front, hfront⟩ := List.exists_cons_of_ne_nil (spells_decimal (n / 10)).nonempty
        have hc : c = '0' := by
          have hsame : c :: front ++ [(n % 10).digitChar] = '0' :: rest := hfront ▸ h
          exact (List.cons.inj hsame).1
        have hzero := (ih (n / 10) (by omega) (hc ▸ hfront)).1
        omega

/-! ## Reading a numeral -/

/-- The reader of digits gives a number just if the text spells it: some digits and
nothing else. -/
theorem digits?_eq_some_iff {cs : List Char} {n : Nat} : digits? cs = some n ↔ Spells cs n := by
  unfold digits? ofDecimal
  constructor
  · intro h
    split at h
    · rename_i hdigits
      exact ⟨hdigits.1, List.all_eq_true.mp hdigits.2, Option.some.inj h⟩
    · cases h
  · intro h
    rw [if_pos ⟨h.nonempty, List.all_eq_true.mpr h.isDigit⟩, h.value]

/-- The numeral of a number: its digits, with a plus sign or without. -/
def IsNumeral (cs : List Char) (n : Nat) : Prop :=
  ∃ digits, Spells digits n ∧ (cs = digits ∨ cs = '+' :: digits)

/-- Numbers are read from their numerals. -/
theorem natural?_eq_some_iff {cs : List Char} {n : Nat} : natural? cs = some n ↔ IsNumeral cs n := by
  unfold natural? IsNumeral
  split
  · rename_i rest
    rw [digits?_eq_some_iff]
    constructor
    · exact fun hspells => ⟨rest, hspells, .inr rfl⟩
    · rintro ⟨digits, hspells, rfl | htail⟩
      · exact absurd hspells.head (by decide)
      · exact (List.cons.inj htail).2 ▸ hspells
  · rename_i hplus
    rw [digits?_eq_some_iff]
    constructor
    · exact fun hspells => ⟨cs, hspells, .inl rfl⟩
    · rintro ⟨digits, hspells, rfl | htail⟩
      · exact hspells
      · exact absurd htail (hplus digits)

/-- A numeral has nothing but digits, and a plus sign at most. -/
theorem IsNumeral.not_mem {cs : List Char} {n : Nat} (h : IsNumeral cs n) {c : Char}
    (hdigit : c.isDigit = false) (hplus : c ≠ '+') : c ∉ cs := by
  obtain ⟨digits, hspells, hcs⟩ := h
  have hdigits : c ∉ digits := by
    intro hmem
    rw [hspells.isDigit c hmem] at hdigit
    cases hdigit
  rcases hcs with rfl | rfl
  · exact hdigits
  · exact List.not_mem_cons_of_ne_of_not_mem hplus hdigits

/-- The positive integers are read from the numerals of numbers. -/
theorem integer?_eq_some_iff {cs : List Char} {n : Nat} (h : 1 ≤ n) :
    integer? cs = some (n : Int) ↔ IsNumeral cs n := by
  unfold IsNumeral integer?
  split
  · rename_i rest
    rw [Option.map_eq_some_iff]
    constructor
    · rintro ⟨m, hm, heq⟩
      have hmn : m = n := Int.ofNat.inj heq
      exact ⟨rest, hmn ▸ digits?_eq_some_iff.mp hm, .inr rfl⟩
    · rintro ⟨digits, hspells, rfl | htail⟩
      · exact absurd hspells.head (by decide)
      · obtain rfl : rest = digits := (List.cons.inj htail).2
        exact ⟨n, digits?_eq_some_iff.mpr hspells, rfl⟩
  · rename_i rest
    constructor
    · intro hsome
      cases hdigits : digits? rest with
      | none =>
          rw [hdigits] at hsome
          cases hsome
      | some m =>
          rw [hdigits] at hsome
          have hnegative : -(m : Int) = n := Option.some.inj hsome
          omega
    · rintro ⟨digits, hspells, rfl | htail⟩
      · exact absurd hspells.head (by decide)
      · cases htail
  · rename_i hplus hminus
    rw [Option.map_eq_some_iff]
    constructor
    · rintro ⟨m, hm, heq⟩
      have hmn : m = n := Int.ofNat.inj heq
      exact ⟨cs, hmn ▸ digits?_eq_some_iff.mp hm, .inl rfl⟩
    · rintro ⟨digits, hspells, rfl | htail⟩
      · exact ⟨n, digits?_eq_some_iff.mpr hspells, rfl⟩
      · exact absurd htail (hplus digits)

/-! ## The usual way to write a number -/

/-- A digit has a value below ten, and is the digit of that value. -/
theorem digitChar_digitValue {c : Char} (h : c.isDigit = true) :
    digitValue c < 10 ∧ (digitValue c).digitChar = c := by
  have hrange := toNat_of_isDigit h
  have hvalue : digitValue c = c.toNat - 48 := rfl
  have hlt : digitValue c < 10 := by omega
  refine ⟨hlt, Char.toNat_inj.mp ?_⟩
  rw [Nat.toNat_digitChar_of_lt_ten hlt]
  omega

/-- More digits behind those of a positive number. -/
theorem decimal_append {digits : List Char} (h : ∀ c ∈ digits, c.isDigit = true) {n : Nat}
    (hn : 0 < n) : decimal n ++ digits = decimal (Nat.ofDigitChars 10 digits n) := by
  induction digits generalizing n with
  | nil => exact List.append_nil _
  | cons c rest ih =>
      obtain ⟨hc, hrest⟩ := List.forall_mem_cons.mp h
      obtain ⟨hlt, hchar⟩ := digitChar_digitValue hc
      have hstep : decimal n ++ [c] = decimal (10 * n + digitValue c) := by
        have happend := Nat.toDigits_append_toDigits (by decide : 1 < 10) hn hlt
        rwa [Nat.toDigits_of_lt_base hlt, hchar] at happend
      have hmore := ih hrest (by omega : 0 < 10 * n + digitValue c)
      rw [← hstep, List.append_assoc] at hmore
      rw [Nat.ofDigitChars_cons]
      exact hmore

/-- Digits without zeros in front are those that are written. -/
theorem Spells.decimal_eq {digits : List Char} {n : Nat} (h : Spells digits n)
    (hlead : digits.head? ≠ some '0') : decimal n = digits := by
  cases digits with
  | nil => exact absurd rfl h.nonempty
  | cons c rest =>
      obtain ⟨hlt, hchar⟩ := digitChar_digitValue h.head
      have hpositive : 0 < digitValue c := by
        by_contra hzero
        rw [Nat.eq_zero_of_not_pos hzero] at hchar
        exact hlead (congrArg some hchar.symm)
      rw [← h.value_cons, ← decimal_append h.tail hpositive, decimal, Nat.toDigits_of_lt_base hlt,
        hchar]
      rfl

/-- Digits without zeros in front, unless they are a zero. -/
def Unpadded (digits : List Char) : Prop := digits = ['0'] ∨ digits.head? ≠ some '0'

/-- Of all the ways to spell a number just the one without zeros in front is its decimal
text. -/
theorem Spells.decimal_eq_iff {digits : List Char} {n : Nat} (h : Spells digits n) :
    decimal n = digits ↔ Unpadded digits := by
  constructor
  · rintro rfl
    by_cases hlead : (decimal n).head? = some '0'
    · obtain ⟨rest, hcons⟩ := List.head?_eq_some_iff.mp hlead
      obtain ⟨rfl, rfl⟩ := decimal_eq_cons_zero hcons
      exact .inl hcons
    · exact .inr hlead
  · rintro (rfl | hlead)
    · rw [← h.value]
      rfl
    · exact h.decimal_eq hlead

/-- An integer as it is usually written: without a plus sign and without zeros in
front, and zero without a minus sign. -/
def IsUsual : List Char → Prop
  | '+' :: _ => False
  | '-' :: digits => digits.head? ≠ some '0'
  | digits => Unpadded digits

/-- The decimal text of a number begins with a digit. -/
theorem decimal_ne_cons {n : Nat} {c : Char} {rest : List Char} (h : c.isDigit = false) :
    decimal n ≠ c :: rest := by
  intro heq
  have hspells : Spells (c :: rest) n := heq ▸ spells_decimal n
  rw [hspells.head] at h
  cases h

/-- The integers that are written the way they were read. -/
theorem decimalInt_eq_iff {cs : List Char} {i : Int} (h : integer? cs = some i) :
    decimalInt i = cs ↔ IsUsual cs := by
  unfold integer? at h
  split at h
  · obtain ⟨n, -, rfl⟩ := Option.map_eq_some_iff.mp h
    exact iff_false_intro (decimal_ne_cons rfl)
  · rename_i rest
    cases hdigits : digits? rest with
    | none =>
        rw [hdigits] at h
        cases h
    | some n =>
        rw [hdigits] at h
        obtain rfl : -(n : Int) = i := Option.some.inj h
        have hspells := digits?_eq_some_iff.mp hdigits
        cases n with
        | zero =>
            refine iff_of_false (decimal_ne_cons rfl) fun hlead => hlead ?_
            rw [← hspells.decimal_eq hlead]
            rfl
        | succ m =>
            show '-' :: decimal (m + 1) = '-' :: rest ↔ rest.head? ≠ some '0'
            rw [List.cons.injEq, hspells.decimal_eq_iff, and_iff_right rfl]
            refine or_iff_right fun hzero => ?_
            have hvalue := hspells.value
            rw [hzero] at hvalue
            cases hvalue
  · rename_i hplus hminus
    obtain ⟨n, hn, rfl⟩ := Option.map_eq_some_iff.mp h
    unfold IsUsual
    split
    · exact absurd rfl (hplus _)
    · exact absurd rfl (hminus _)
    · exact (digits?_eq_some_iff.mp hn).decimal_eq_iff

end SubscriptionBilling.Text
