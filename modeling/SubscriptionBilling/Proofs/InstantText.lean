import Mathlib
import SubscriptionBilling.Instant.Text
import SubscriptionBilling.Proofs.Calendar
import SubscriptionBilling.Proofs.Numerals
/-!
# Instants survive as text

The text of an instant is read as that instant (`parse_text`), in every year of
the range, whether its second has decimals or not, and inside of leap seconds.
Each part of the text has a lemma of its own, which says that reading it gives
the number that was written and leaves what follows.
-/

namespace SubscriptionBilling.Instant

open Text

/-! ## Numerals -/

/-- Digits are read up to the width that is asked for or up to where they end, if the
number fits; the rest is left. -/
theorem readDigits_append {digits rest : List Char} (hdigits : ∀ c ∈ digits, c.isDigit = true)
    {width n : Nat} (hwidth : digits.length ≤ width) (hends : digits.length = width ∨ Ends rest)
    (hfits : Nat.ofDigitChars 10 digits n ≤ largestNumeral) :
    readDigits width n (digits ++ rest) = .ok (Nat.ofDigitChars 10 digits n, rest) := by
  induction digits generalizing width n with
  | nil =>
      rw [List.nil_append, Nat.ofDigitChars_nil]
      cases width with
      | zero => cases rest <;> rfl
      | succ width =>
          have hrest : Ends rest := hends.resolve_left (Nat.succ_ne_zero width).symm
          cases rest with
          | nil => rfl
          | cons c cs => rw [readDigits, if_neg (by rw [hrest c cs rfl]; decide)]
  | cons c digits ih =>
      obtain ⟨hc, hrest⟩ := List.forall_mem_cons.mp hdigits
      cases width with
      | zero => exact absurd hwidth (Nat.not_succ_le_zero _)
      | succ width =>
          rw [Nat.ofDigitChars_cons, Nat.mul_comm] at hfits
          have hsmall : n * 10 + digitValue c ≤ largestNumeral :=
            (le_ofDigitChars digits _).trans hfits
          rw [List.cons_append, readDigits, if_pos hc, if_neg (not_lt.mpr hsmall),
            Nat.ofDigitChars_cons, Nat.mul_comm 10 n]
          refine ih hrest (Nat.le_of_succ_le_succ hwidth) (hends.imp_left ?_) hfits
          exact Nat.succ.inj

/-- A numeral is read up to its width, or up to what is no digit. -/
theorem readNumeral_append {digits rest : List Char} {width n : Nat} (h : Spells digits n)
    (hwidth : digits.length ≤ width) (hends : digits.length = width ∨ Ends rest)
    (hfits : n ≤ largestNumeral) : readNumeral width (digits ++ rest) = .ok (n, rest) := by
  have hread : readDigits width 0 (digits ++ rest) = .ok (n, rest) := by
    rw [readDigits_append h.isDigit hwidth hends (by rwa [h.value]), h.value]
  obtain ⟨c, back, rfl, hdigit⟩ := h.eq_cons
  rw [List.cons_append, readNumeral, if_pos hdigit]
  exact hread

/-- No blank is skipped in front of a character that is none. -/
theorem trimLeft_cons {c : Char} (h : isBlank c = false) (rest : List Char) :
    trimLeft (c :: rest) = c :: rest :=
  List.dropWhile_cons_of_neg (by rw [h]; decide)

theorem isBlank_of_isDigit {c : Char} (h : c.isDigit = true) : isBlank c = false := by
  have hrange := toNat_of_isDigit h
  simp only [isBlank, Bool.or_eq_false_iff, Bool.and_eq_false_iff, decide_eq_false_iff_not,
    beq_eq_false_iff_ne]
  omega

/-- In front of a numeral there is nothing to trim. -/
theorem trimLeft_numeral {digits : List Char} {n : Nat} (h : Spells digits n)
    (rest : List Char) : trimLeft (digits ++ rest) = digits ++ rest := by
  obtain ⟨c, back, rfl, hdigit⟩ := h.eq_cons
  exact trimLeft_cons (isBlank_of_isDigit hdigit) _

/-! ## Parts -/

/-- A field of two digits. -/
theorem readField_padded {low high n : Nat} (hlow : low ≤ n) (hhigh : n ≤ high) (hn : n < 100)
    (rest : List Char) : readField low high (padded 2 n ++ rest) = .ok (n, rest) := by
  have hlength : (padded 2 n).length = 2 := length_padded (by decide) hn
  have hfits : n ≤ largestNumeral := by
    unfold largestNumeral
    omega
  rw [readField, trimLeft_numeral (spells_padded 2 n),
    readNumeral_append (spells_padded 2 n) hlength.le (.inl hlength) hfits]
  exact if_pos ⟨hlow, hhigh⟩

/-- A year of the calendar passes the check. -/
theorem checkYear_of_range {year : Int} (hlow : -262143 ≤ year) (hhigh : year ≤ 262142)
    (rest : List Char) : checkYear year rest = .ok (year, rest) :=
  if_pos ⟨by omega, by omega⟩

/-- A year without a sign has four digits at most. -/
theorem readYear_unsigned {digits : List Char} {n : Nat} (h : Spells digits n)
    (rest : List Char) :
    readYear (digits ++ rest) =
      (readNumeral 4 (digits ++ rest)).bind fun r => checkYear r.1 r.2 := by
  have hfirst : ∀ c cs, digits ++ rest = c :: cs → c.isDigit = true := by
    obtain ⟨d, back, rfl, hdigit⟩ := h.eq_cons
    intro c cs heq
    rwa [← (List.cons.inj heq).1]
  rw [readYear, trimLeft_numeral h]
  split
  · rename_i cs heq
    exact absurd (hfirst '-' cs heq) (by decide)
  · rename_i cs heq
    exact absurd (hfirst '+' cs heq) (by decide)
  · rfl

/-- A year is read as it was written, with its sign if it has one: four digits without a
sign, and any number of digits behind one. -/
theorem readYear_writeYear {year : Int} (hlow : -262143 ≤ year) (hhigh : year ≤ 262142)
    {rest : List Char} (hends : Ends rest) :
    readYear (writeYear year ++ rest) = .ok (year, rest) := by
  have hchecked : checkYear year rest = .ok (year, rest) := checkYear_of_range hlow hhigh rest
  have hfits : year.natAbs ≤ largestNumeral := by
    unfold largestNumeral
    omega
  rw [writeYear]
  by_cases hplain : 0 ≤ year ∧ year ≤ 9999
  · have hwidth : (padded 4 year.toNat).length = 4 := length_padded (by decide) (by omega)
    have hread : readNumeral 4 (padded 4 year.toNat ++ rest) = .ok (year.toNat, rest) :=
      readNumeral_append (spells_padded 4 _) hwidth.le (.inl hwidth) (by omega)
    have hyear : ((year.toNat : Nat) : Int) = year := Int.toNat_of_nonneg hplain.1
    rw [if_pos hplain, readYear_unsigned (spells_padded 4 _), hread]
    rwa [Except.bind, hyear]
  · have hlength : (padded 4 year.natAbs).length ≤ (padded 4 year.natAbs ++ rest).length := by
      rw [List.length_append]
      exact Nat.le_add_right _ _
    have hread := readNumeral_append (spells_padded 4 year.natAbs) hlength (.inr hends) hfits
    rw [if_neg hplain, List.cons_append, readYear]
    by_cases hneg : year < 0
    · have hyear : -((year.natAbs : Nat) : Int) = year := by omega
      rw [if_pos hneg, trimLeft_cons (by decide)]
      show ((readNumeral _ _).bind fun r => checkYear (-(r.1 : Int)) r.2) = _
      rwa [hread, Except.bind, hyear]
    · have hyear : ((year.natAbs : Nat) : Int) = year := by omega
      rw [if_neg hneg, trimLeft_cons (by decide)]
      show ((readNumeral _ _).bind fun r => checkYear (r.1 : Int) r.2) = _
      rwa [hread, Except.bind, hyear]

/-- So many digits behind the point stand for so many units of their last
place. -/
theorem readFraction_padded {width n : Nat} (hpositive : 0 < width) (hwidth : width ≤ 9)
    (hn : n < 10 ^ width) {rest : List Char} (hends : Ends rest) :
    readFraction ('.' :: padded width n ++ rest) = .ok (n * 10 ^ (9 - width), rest) := by
  have hlength : (padded width n).length = width := length_padded hpositive hn
  have hsmall : n ≤ largestNumeral := by
    have hlarge : 10 ^ width ≤ 10 ^ 9 := Nat.pow_le_pow_right (by decide) hwidth
    unfold largestNumeral
    omega
  have hread := readNumeral_append (spells_padded width n) (hlength.trans_le hwidth)
    (.inr hends) hsmall
  have htaken : (padded width n ++ rest).length - rest.length = width := by
    rw [List.length_append, hlength, Nat.add_sub_cancel]
  rw [List.cons_append, readFraction]
  show ((readNumeral 9 (padded width n ++ rest)).bind fun r =>
    .ok (r.1 * Nat.pow 10 (9 - ((padded width n ++ rest).length - r.2.length)),
      r.2.dropWhile Char.isDigit)) = _
  rw [hread, Except.bind, htaken, dropWhile_of_ends hends, Nat.pow_eq]

/-- The decimals of a second, as far as they are written. -/
theorem readFraction_writeFraction {nano : Nat} (h : nano < 1000000000) {rest : List Char}
    (hends : Ends rest) (hpoint : ∀ cs, rest ≠ '.' :: cs) :
    readFraction (writeFraction nano ++ rest) = .ok (nano, rest) := by
  rw [writeFraction]
  by_cases hzero : nano = 0
  · rw [if_pos hzero, List.nil_append, hzero, readFraction]
    exact hpoint
  · rw [if_neg hzero]
    by_cases hmilli : nano % 1000000 = 0
    · have hunits : nano / 1000000 * 10 ^ (9 - 3) = nano := by omega
      rw [if_pos hmilli, readFraction_padded (by decide) (by decide) (by omega) hends, hunits]
    · rw [if_neg hmilli]
      by_cases hmicro : nano % 1000 = 0
      · have hunits : nano / 1000 * 10 ^ (9 - 6) = nano := by omega
        rw [if_pos hmicro, readFraction_padded (by decide) (by decide) (by omega) hends, hunits]
      · rw [if_neg hmicro, readFraction_padded (by decide) (by decide) (by omega) hends,
          Nat.pow_zero, Nat.mul_one]

/-- A mark that is no blank. -/
theorem readMark_cons {mark : Char} (h : isBlank mark = false) (rest : List Char) :
    readMark mark (trimLeft (mark :: rest)) = .ok rest := by
  rw [trimLeft_cons h, readMark, if_pos rfl]

/-! ## What is written of an instant -/

/-- The seconds since the date began, without those of a leap second. -/
def timeOfDay (i : Instant) : Nat := (i.second % secondsPerDay).toNat

/-- The second by which a leap second comes after the last of its minute. -/
def extra (i : Instant) : Nat := if i.isLeapSecond then 1 else 0

/-- The time of day has fewer seconds than a day. -/
theorem timeOfDay_lt (i : Instant) : i.timeOfDay < 86400 := by
  rw [timeOfDay, secondsPerDay]
  omega

/-- The day of the date and the time of day make up the seconds. -/
theorem day_timeOfDay (i : Instant) : i.date.day * secondsPerDay + i.timeOfDay = i.second := by
  rw [date, Date.day_ofDay, timeOfDay, secondsPerDay]
  omega

/-- A leap second is written as the sixtieth of its minute, and nothing else is. -/
theorem sixtieth_iff (i : Instant) :
    (if i.timeOfDay % 60 + i.extra = 60 then 1 else 0) = i.extra := by
  obtain ⟨-, -, -, hleap⟩ := i.valid
  rw [extra]
  by_cases h : i.isLeapSecond = true
  · have hlarge : 1000000000 ≤ i.nano := by simpa [isLeapSecond] using h
    have hlast : i.timeOfDay % 60 = 59 := by
      rw [timeOfDay, secondsPerDay]
      omega
    rw [if_pos h, hlast]
    rfl
  · have hno : i.timeOfDay % 60 + 0 ≠ 60 := by omega
    rw [if_neg h, if_neg hno]

/-- Without a leap second there is less than a second of nanoseconds. -/
theorem nano_sub_lt (i : Instant) :
    i.nano - i.extra * 1000000000 < 1000000000 ∧
      i.nano - i.extra * 1000000000 + i.extra * 1000000000 = i.nano := by
  obtain ⟨-, -, hnano, -⟩ := i.valid
  rw [extra]
  by_cases h : i.isLeapSecond = true
  · have hlarge : 1000000000 ≤ i.nano := by simpa [isLeapSecond] using h
    rw [if_pos h]
    omega
  · have hsmall : i.nano < 1000000000 := by simpa [isLeapSecond] using h
    rw [if_neg h]
    omega

/-- The text of an instant, part by part: the year, two digits each for month, day,
hour, minute and second, the fraction if there is one, and the mark of universal time. A
leap second is the sixtieth. -/
theorem write_eq (i : Instant) :
    i.write = writeYear i.date.year ++ '-' :: (padded 2 i.date.month ++ '-' ::
      (padded 2 i.date.dayOfMonth ++ 'T' :: (padded 2 (i.timeOfDay / 3600) ++ ':' ::
      (padded 2 (i.timeOfDay / 60 % 60) ++ ':' :: (padded 2 (i.timeOfDay % 60 + i.extra) ++
      (writeFraction (i.nano - i.extra * 1000000000) ++ ['Z'])))))) := by
  simp only [write, date, timeOfDay, extra, List.append_assoc, List.cons_append]

/-! ## The whole text -/

/-- The parts of an instant make it up again, also in a leap second, which is the
sixtieth. -/
theorem ofParts_eq (i : Instant) :
    ofParts i.date (i.timeOfDay / 3600) (i.timeOfDay / 60 % 60) (i.timeOfDay % 60 + i.extra)
      (i.nano - i.extra * 1000000000) 0 = .ok i := by
  obtain ⟨-, hnano⟩ := i.nano_sub_lt
  have hwall : i.date.day * secondsPerDay + ((i.timeOfDay / 3600 * 3600 +
      i.timeOfDay / 60 % 60 * 60 + (i.timeOfDay % 60 + i.extra - i.extra) : Nat) : Int) - 0 =
        i.second := by
    have hsum := i.day_timeOfDay
    omega
  rw [ofParts, i.sixtieth_iff, hwall, hnano, of?, dif_pos i.valid]
  rfl

/-- What comes after a part that was read: the reading goes on with the value of the
part and the rest of the text. -/
theorem bind_of_eq {α β : Type} {x : Except Refusal α} {a : α} (h : x = .ok a)
    (f : α → Except Refusal β) : (x >>= f) = f a := by
  rw [h]
  rfl

/-- **Reading what was written.** The text of an instant is read part by part, each by
its own lemma, and the parts make up the instant again. -/
theorem read_write (i : Instant) : read i.write = .ok i := by
  obtain ⟨hvalid, hmonth, hmonth'⟩ := i.date_valid
  obtain ⟨hyear, hyear'⟩ := i.date_year
  obtain ⟨hnano, -⟩ := i.nano_sub_lt
  have htime := i.timeOfDay_lt
  have hextra : i.extra ≤ 1 := by
    rw [extra]
    split <;> decide
  have hday : i.date.dayOfMonth ≤ 31 := hvalid.2.trans (monthLength_le _ _)
  have hhour : i.timeOfDay / 3600 ≤ 23 := by omega
  have hminute : i.timeOfDay / 60 % 60 ≤ 59 := by omega
  have hsecond : i.timeOfDay % 60 + i.extra ≤ 60 := by omega
  have hended : ¬ trimLeft [] ≠ [] := fun h => h rfl
  have hnear : ¬ secondsPerDay ≤ ((0 : Int).natAbs : Int) := by decide
  rw [write_eq]
  unfold read
  -- One part of the text after the other, from the year to the offset.
  refine (bind_of_eq (readYear_writeYear hyear hyear' (ends_cons rfl _)) _).trans ?_
  refine (bind_of_eq (readMark_cons rfl _) _).trans ?_
  refine (bind_of_eq (readField_padded hmonth hmonth' (by omega) _) _).trans ?_
  refine (bind_of_eq (readMark_cons rfl _) _).trans ?_
  refine (bind_of_eq (readField_padded hvalid.1 hday (by omega) _) _).trans ?_
  refine (bind_of_eq rfl _).trans ?_
  refine (bind_of_eq (readField_padded (Nat.zero_le _) hhour (by omega) _) _).trans ?_
  refine (bind_of_eq (readMark_cons rfl _) _).trans ?_
  refine (bind_of_eq (readField_padded (Nat.zero_le _) hminute (by omega) _) _).trans ?_
  refine (bind_of_eq (readMark_cons rfl _) _).trans ?_
  refine (bind_of_eq (readField_padded (Nat.zero_le _) hsecond (by omega) _) _).trans ?_
  refine (bind_of_eq (readFraction_writeFraction hnano (ends_cons rfl [])
    fun cs h => by cases h) _).trans ?_
  refine (bind_of_eq (by decide : readOffset (trimLeft ['Z']) = .ok (0, [])) _).trans ?_
  refine (if_neg hended).trans ?_
  refine (bind_of_eq (if_pos ⟨hyear, hyear', hvalid⟩ : checkDate i.date = .ok ()) _).trans ?_
  exact (if_neg hnear).trans i.ofParts_eq

/-- The text of an instant is read as that instant. -/
theorem parse_text (i : Instant) : parse i.text = .ok i := by
  rw [parse, text, String.toList_ofList, read_write]

end SubscriptionBilling.Instant
