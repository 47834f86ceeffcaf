import Mathlib
import SubscriptionBilling.Json.Reader
/-!
# What is read can be passed over

The readers of strings and numbers make a value of what stands in front of a
text, and `skipString` and `skipNumber` pass over the same characters without
one.  Where the first succeed the second do, and leave the same rest
(`skipString_of_read`, `skipNumber_of_read`); so a part that is read is also
shorter by what was taken.
-/

namespace SubscriptionBilling.Json

open Text

/-! ## Strings -/

/-- A text that was read with a character in front was read without it. -/
theorem consChar_eq_ok {c : Char} {s rest : List Char}
    {result : Except Fault (List Char × List Char)} (h : consChar c result = .ok (s, rest)) :
    ∃ back, result = .ok (back, rest) ∧ s = c :: back := by
  cases result with
  | error e => cases h
  | ok r =>
      cases h
      exact ⟨r.1, rfl, rfl⟩

/-- A text that can be read can be skipped, up to the same quotation mark. -/
theorem skipString_of_readChars {cs s rest : List Char} (h : readChars cs = .ok (s, rest)) :
    skipString cs = .ok rest := by
  fun_induction readChars cs generalizing s with
  | case2 back =>
      cases h
      rw [skipString]
  | case9 a b c d high hhigh hnot hpair e f g k back low hlow hislow ih =>
      -- The second half of a pair is passed over like an escape of its own.
      obtain ⟨tail, htail, -⟩ := consChar_eq_ok h
      simp only [skipString, hhigh, hlow]
      exact ih htail
  | case14 a b c d back n hquad hlow hhigh ih =>
      obtain ⟨tail, htail, -⟩ := consChar_eq_ok h
      simp only [skipString, hquad]
      exact ih htail
  | case16 c back hquad hunicode c' hescape ih =>
      obtain ⟨tail, htail, -⟩ := consChar_eq_ok h
      rw [skipString, hescape]
      · exact ih htail
      · exact hquad
      · exact hunicode
  | case19 c back hquote hend hquad hunicode hescape hlarge ih =>
      obtain ⟨tail, htail, -⟩ := consChar_eq_ok h
      rw [skipString, if_neg hlarge]
      · exact ih htail
      · exact hquote
      · exact hend
      · exact hquad
      · exact hunicode
      · exact hescape
  | _ => cases h

/-- A string that is read can be passed over. -/
theorem skipString_of_read {cs rest : List Char} {s : String} (h : readString cs = .ok (s, rest)) :
    skipString cs = .ok rest := by
  rw [readString] at h
  cases hchars : readChars cs with
  | error e =>
      rw [hchars] at h
      cases h
  | ok r =>
      rw [hchars] at h
      cases h
      exact skipString_of_readChars hchars

/-- Passing over a string takes its closing quote. -/
theorem length_skipString {cs rest : List Char} (h : skipString cs = .ok rest) :
    rest.length < cs.length := by
  fun_induction skipString cs with
  | case2 back =>
      cases h
      exact Nat.lt_succ_self _
  | case5 a b c d back n hquad ih =>
      have hback := ih h
      simp only [List.length_cons]
      omega
  | case7 c back hquad hunicode hescape ih =>
      have hback := ih h
      simp only [List.length_cons]
      omega
  | case10 c back hquote hend hquad hunicode hescape hlarge ih =>
      have hback := ih h
      simp only [List.length_cons]
      omega
  | _ => cases h

/-! ## Numbers -/

/-- What follows the digits that were taken and those that were not. -/
theorem dropWhile_takeFitting (n taken : Nat) (cs : List Char) :
    (takeFitting n taken cs).2.2.dropWhile Char.isDigit = cs.dropWhile Char.isDigit := by
  fun_induction takeFitting n taken cs with
  | case1 n taken c cs hfits ih =>
      have hdigit : c.isDigit = true := (Bool.and_eq_true_iff.mp hfits).1
      rw [ih, List.dropWhile_cons_of_pos hdigit]
  | case2 => rfl
  | case3 => rfl

/-- The digits of an exponent that are left over because there are too many are skipped
with the others. -/
theorem dropWhile_takeExponent (n : Nat) (cs : List Char) :
    (takeExponent n cs).2.dropWhile Char.isDigit = cs.dropWhile Char.isDigit := by
  fun_induction takeExponent n cs with
  | case1 n c cs hfits ih =>
      have hdigit : c.isDigit = true := (Bool.and_eq_true_iff.mp hfits).1
      rw [ih, List.dropWhile_cons_of_pos hdigit]
  | case2 => rfl
  | case3 => rfl

/-- Without a digit in front there is nothing to drop. -/
theorem dropWhile_of_not_startsWithDigit {cs : List Char} (h : startsWithDigit cs = false) :
    cs.dropWhile Char.isDigit = cs := by
  cases cs with
  | nil => rfl
  | cons c cs =>
      have hdigit : ¬ c.isDigit = true := by simpa [startsWithDigit] using h
      exact List.dropWhile_cons_of_neg hdigit

/-- Digits are taken only from a text that starts with one. -/
theorem startsWithDigit_of_takeFitting {n taken : Nat} {cs : List Char}
    (h : startsWithDigit (takeFitting n taken cs).2.2 = true ∨
      (takeFitting n taken cs).2.1 ≠ taken) : startsWithDigit cs = true := by
  cases cs with
  | nil => simp [takeFitting, startsWithDigit] at h
  | cons c cs =>
      by_cases hfits : (c.isDigit && n * 10 + digitValue c < UInt64.size) = true
      · exact (Bool.and_eq_true_iff.mp hfits).1
      · rw [takeFitting, if_neg hfits] at h
        exact h.resolve_right fun hne => hne rfl

/-- Making a double reads nothing more. -/
theorem rest_makeDouble {negative : Bool} {significand : Nat} {power : Int} {cs rest : List Char}
    {n : Number} (h : makeDouble negative significand power cs = .ok (n, rest)) : cs = rest := by
  rw [makeDouble] at h
  split at h
  · exact (Prod.mk.inj (Except.ok.inj h)).2
  · cases h

/-- An integer is made of digits that were taken already, and takes no more. -/
theorem rest_makeInteger {negative : Bool} {n : Nat} {cs rest : List Char} {x : Number}
    (h : makeInteger negative n cs = .ok (x, rest)) : cs = rest := by
  rw [makeInteger] at h
  split at h
  · exact (Prod.mk.inj (Except.ok.inj h)).2
  · split at h
    · exact (Prod.mk.inj (Except.ok.inj h)).2
    · exact rest_makeDouble h

/-- An exponent that can be read can be skipped. -/
theorem skipExponent_of_read {negative : Bool} {significand : Nat} {power : Int}
    {cs rest : List Char} {n : Number}
    (h : readExponent negative significand power cs = .ok (n, rest)) :
    skipExponent cs = .ok rest := by
  simp only [readExponent] at h
  simp only [skipExponent]
  generalize (takeSign cs).1 = down at h
  generalize (takeSign cs).2 = tail at h ⊢
  cases tail with
  | nil => cases h
  | cons c tail =>
      rw [readPower] at h
      by_cases hdigit : c.isDigit = true
      · rw [if_neg (by simp [hdigit])] at h
        have hstarts : startsWithDigit (c :: tail) = true := hdigit
        rw [if_pos hstarts, List.dropWhile_cons_of_pos hdigit,
          ← dropWhile_takeExponent (digitValue c) tail]
        generalize takeExponent (digitValue c) tail = taken at h ⊢
        obtain ⟨e, back⟩ := taken
        cases back with
        | nil =>
            rw [← rest_makeDouble h]
            rfl
        | cons d back =>
            by_cases hmore : d.isDigit = true
            · simp only [if_pos hmore] at h
              split at h
              · cases h
              · rw [List.dropWhile_cons_of_pos hmore, (Prod.mk.inj (Except.ok.inj h)).2]
            · simp only [if_neg hmore] at h
              rw [← rest_makeDouble h, List.dropWhile_cons_of_neg hmore]
      · rw [if_pos (by simp [hdigit])] at h
        cases h

/-- Without an `e` of either case there is no exponent to skip. -/
theorem skipScale_of_ends {cs : List Char} (hlower : ∀ rest, cs ≠ 'e' :: rest)
    (hupper : ∀ rest, cs ≠ 'E' :: rest) : skipScale cs = .ok cs := by
  rw [skipScale]
  · exact hlower
  · exact hupper

/-- What can be read as a number behind its decimals can be skipped. -/
theorem skipScale_of_read {negative : Bool} {significand : Nat} {power : Int}
    {cs rest : List Char} {n : Number}
    (h : readScale negative significand power cs = .ok (n, rest)) :
    skipScale cs = .ok rest := by
  fun_cases readScale negative significand power cs with
  | case1 back =>
      rw [readScale] at h
      exact skipExponent_of_read h
  | case2 back =>
      rw [readScale] at h
      exact skipExponent_of_read h
  | case3 _ hlower hupper =>
      rw [readScale] at h
      · rw [skipScale_of_ends hlower hupper, rest_makeDouble h]
      · exact hlower
      · exact hupper

/-- Decimals that can be read begin with a digit, and behind all of them an exponent can
be skipped. -/
theorem skipDecimals_of_read {negative : Bool} {significand : Nat} {power : Int}
    {cs rest : List Char} {n : Number}
    (h : readDecimals negative significand power cs = .ok (n, rest)) :
    startsWithDigit cs = true ∧ skipScale (cs.dropWhile Char.isDigit) = .ok rest := by
  simp only [readDecimals] at h
  rw [← dropWhile_takeFitting significand 0 cs]
  by_cases hmore : startsWithDigit (takeFitting significand 0 cs).2.2 = true
  · rw [if_pos hmore] at h
    exact ⟨startsWithDigit_of_takeFitting (.inl hmore), skipScale_of_read h⟩
  · rw [if_neg hmore] at h
    split at h
    · cases h
    · rename_i htaken
      rw [dropWhile_of_not_startsWithDigit (Bool.not_eq_true _ ▸ hmore)]
      exact ⟨startsWithDigit_of_takeFitting (.inr htaken), skipScale_of_read h⟩

/-- What follows the integer part of a number that is read can be passed over. -/
theorem skipTail_of_read {negative : Bool} {significand : Nat} {power : Int}
    {cs rest : List Char} {n : Number}
    (h : readTail negative significand power cs = .ok (n, rest)) :
    (match cs with
      | '.' :: back =>
        if startsWithDigit back then skipScale (back.dropWhile Char.isDigit)
        else .error (.next .invalidNumber back)
      | cs => skipScale cs) = .ok rest := by
  fun_cases readTail negative significand power cs with
  | case1 back =>
      rw [readTail] at h
      obtain ⟨hstarts, hskip⟩ := skipDecimals_of_read h
      simp only [hstarts, hskip, if_true]
  | case2 _ hpoint =>
      rw [readTail] at h
      · split
        · exact absurd rfl (hpoint _)
        · exact skipScale_of_read h
      · exact hpoint

/-- However far the integer part was taken, its digits are all passed over. -/
theorem dropWhile_integerPart (c : Char) (cs : List Char) :
    (if c = '0' then (0, 0, cs) else takeFitting (digitValue c) 0 cs).2.2.dropWhile Char.isDigit =
      cs.dropWhile Char.isDigit := by
  split
  · rfl
  · exact dropWhile_takeFitting (digitValue c) 0 cs

/-- A number that is read can be passed over. -/
theorem skipNumber_of_read {negative : Bool} {cs rest : List Char} {n : Number}
    (h : readNumber negative cs = .ok (n, rest)) : skipNumber cs = .ok rest := by
  cases cs with
  | nil => cases h
  | cons c cs =>
      rw [readNumber] at h
      rw [skipNumber]
      split at h
      · cases h
      · rename_i hdigit
        rw [if_neg hdigit]
        split at h
        · cases h
        · rename_i hzero
          rw [if_neg hzero]
          have hdigits := dropWhile_integerPart c cs
          generalize (if c = '0' then (0, 0, cs) else takeFitting (digitValue c) 0 cs) = taken
            at h hdigits
          simp only [splitDigits, hdigits] at h
          -- A point or a letter goes on with the number, anything else ends it.
          split at h
          · rename_i tail hpoint
            have hskip := skipTail_of_read (hpoint ▸ h)
            rw [hpoint]
            exact hskip
          · rename_i tail hletter
            rw [hletter]
            exact skipScale_of_read (hletter ▸ h)
          · rename_i tail hletter
            rw [hletter]
            exact skipScale_of_read (hletter ▸ h)
          · rename_i hpoint hlower hupper
            have hrest : cs.dropWhile Char.isDigit = rest := by
              split at h
              · exact rest_makeInteger h
              · exact rest_makeDouble h
            rw [hrest] at hpoint hlower hupper ⊢
            split
            · exact absurd rfl (hpoint _)
            · exact skipScale_of_ends hlower hupper

theorem length_dropWhile_digits (cs : List Char) :
    (cs.dropWhile Char.isDigit).length ≤ cs.length :=
  (List.dropWhile_suffix _).length_le

theorem length_skipScale {cs rest : List Char} (h : skipScale cs = .ok rest) :
    rest.length ≤ cs.length := by
  have hexponent : ∀ {cs}, skipExponent cs = .ok rest → rest.length ≤ cs.length := by
    intro cs h
    have hsign : (takeSign cs).2.length ≤ cs.length := by
      fun_cases takeSign cs <;> simp
    simp only [skipExponent] at h
    split at h
    · cases h
      exact (length_dropWhile_digits _).trans hsign
    · cases h
  fun_cases skipScale cs with
  | case1 back => exact (hexponent h).trans (Nat.le_succ _)
  | case2 back => exact (hexponent h).trans (Nat.le_succ _)
  | case3 _ hlower hupper =>
      rw [skipScale_of_ends hlower hupper] at h
      cases h
      exact le_refl _

/-- Passing over a number takes a digit at least. -/
theorem length_skipNumber {cs rest : List Char} (h : skipNumber cs = .ok rest) :
    rest.length < cs.length := by
  cases cs with
  | nil => cases h
  | cons c cs =>
      have hcs := length_dropWhile_digits cs
      rw [skipNumber] at h
      split at h
      · cases h
      · split at h
        · cases h
        · rw [List.length_cons]
          split at h
          · rename_i tail hpoint
            split at h
            · have htail := length_skipScale h
              have hback := length_dropWhile_digits tail
              rw [hpoint, List.length_cons] at hcs
              omega
            · cases h
          · have htail := length_skipScale h
            omega

end SubscriptionBilling.Json
