import Mathlib
import SubscriptionBilling.Text.Lowercase
/-!
# Words in any case

A text in lower case is a given word of ASCII letters if and only if it is that
word with some of its ASCII letters in upper case (`lowercase_eq_iff`), although
lower case is that of Unicode: outside ASCII only the Kelvin sign, which becomes a
`k`, and the capital I with a dot lead to an ASCII letter, and so words with `i`
or `k` are left out (`isPlain`).
-/

namespace SubscriptionBilling.Text

/-- An ASCII character that is the lower-case form of ASCII characters only. -/
def isPlain (c : Char) : Bool := c.toNat < 0x80 && c != 'i' && c != 'k' && c != '\x00'

/-- Plain characters are among those of ASCII. -/
theorem lt_of_isPlain {c : Char} (h : isPlain c = true) : c.toNat < 0x80 := by
  simp only [isPlain, Bool.and_eq_true, decide_eq_true_eq] at h
  exact h.1.1.1

/-- A character of ASCII has one lower-case character, and it is the one that Lean's own
`Char.toLower` gives. -/
theorem lower_of_lt {c : Char} (h : c.toNat < 0x80) : lower c = [c.toLower] := by
  rw [lower]
  exact if_pos h

/-- A run that leads into ASCII consists of the Kelvin sign. -/
theorem run_leads {r : CaseRun} (h : r ∈ caseRuns) :
    r.first = 0x212A ∧ r.last = 0x212A ∧ r.shift = -8383 ∨
      (0x80 : Int) ≤ (r.first : Int) + r.shift := by
  have hall : caseRuns.all (fun r => decide (r.first = 0x212A ∧ r.last = 0x212A ∧
      r.shift = -8383 ∨ (0x80 : Int) ≤ (r.first : Int) + r.shift)) = true := by
    decide +kernel
  exact of_decide_eq_true (List.all_eq_true.mp hall r h)

/-- Nothing outside ASCII is plain, and a code point that does not exist counts as
the null character. -/
theorem isPlain_ofNat {n : Nat} (h : 0x80 ≤ n) : isPlain (Char.ofNat n) = false := by
  unfold Char.ofNat
  split
  · rename_i hvalid
    have hcode : (Char.ofNatAux n hvalid).toNat = n := rfl
    have hlarge : ¬ n < 0x80 := by omega
    simp [isPlain, hcode, hlarge]
  · rfl

/-- Only an ASCII character has a plain one in its lower-case form. -/
theorem lt_of_mem_lower {c d : Char} (hmem : d ∈ lower c) (hplain : isPlain d = true) :
    c.toNat < 0x80 := by
  by_cases hlarge : c.toNat < 0x80
  · exact hlarge
  have hnot : isPlain d = false := by
    rw [lower, if_neg hlarge] at hmem
    split at hmem
    · rcases List.mem_cons.mp hmem with rfl | hdot
      · rfl
      · rw [List.mem_singleton.mp hdot]
        rfl
    · split at hmem
      · rename_i r hfind
        have hrun := List.mem_of_find?_eq_some hfind
        have hbounds : r.first ≤ c.toNat ∧ c.toNat ≤ r.last := by
          have h := List.find?_some hfind
          simp only [Bool.and_eq_true, decide_eq_true_eq] at h
          exact h.1
        rw [List.mem_singleton.mp hmem]
        rcases run_leads hrun with ⟨hfirst, hlast, hshift⟩ | hfar
        · have hkelvin : ((c.toNat : Int) + r.shift).toNat = 'k'.toNat := by
            have hk : 'k'.toNat = 107 := rfl
            omega
          rw [hkelvin]
          rfl
        · exact isPlain_ofNat (by omega)
      · rw [List.mem_singleton.mp hmem]
        simp [isPlain, hlarge]
  rw [hnot] at hplain
  cases hplain

theorem lower_ne_nil (c : Char) : lower c ≠ [] := by
  unfold lower
  dsimp only
  split
  · simp
  · split
    · simp
    · split <;> simp

/-- A text whose lower-case form is plain is that form but for the case of ASCII
letters. -/
theorem eq_map_toLower {before cs : List Char}
    (h : ∀ d ∈ lowercaseAfter before cs, isPlain d = true) :
    lowercaseAfter before cs = cs.map Char.toLower := by
  induction cs generalizing before with
  | nil => rfl
  | cons c after ih =>
      rw [lowercaseAfter] at h ⊢
      have hrest := ih fun d hd => h d (List.mem_append_right _ hd)
      by_cases hsigma : c = 'Σ'
      · -- Neither form of a sigma is plain.
        rw [if_pos hsigma] at h
        have hform := h _ (List.mem_append_left _ (List.mem_singleton.mpr rfl))
        split at hform <;> cases hform
      · rw [if_neg hsigma] at h ⊢
        obtain ⟨d, hd⟩ := List.exists_mem_of_ne_nil _ (lower_ne_nil c)
        have hascii := lt_of_mem_lower hd (h d (List.mem_append_left _ hd))
        rw [lower_of_lt hascii, hrest]
        rfl

/-- Within ASCII, lower case is that of ASCII. -/
theorem lowercaseAfter_of_ascii {before cs : List Char} (h : ∀ c ∈ cs, c.toNat < 0x80) :
    lowercaseAfter before cs = cs.map Char.toLower := by
  induction cs generalizing before with
  | nil => rfl
  | cons c after ih =>
      have hc := h c List.mem_cons_self
      have hsigma : c ≠ 'Σ' := by
        rintro rfl
        exact absurd hc (by decide)
      rw [lowercaseAfter, if_neg hsigma, lower_of_lt hc,
        ih fun d hd => h d (List.mem_cons_of_mem c hd)]
      rfl

/-- Nothing beyond ASCII becomes a character of ASCII by `Char.toLower`. -/
theorem lt_of_toLower_lt {c : Char} (h : c.toLower.toNat < 0x80) : c.toNat < 0x80 := by
  by_cases hupper : 'A' ≤ c ∧ c ≤ 'Z'
  · have hlast : c.toNat ≤ 'Z'.toNat := Char.le_def.mp hupper.2
    exact Nat.lt_of_le_of_lt hlast (by decide)
  · have hsame : c.toLower = c := dif_neg hupper
    rwa [hsame] at h

/-- In front of the capital letters nothing is changed: digits, signs and the point stay
what they are. -/
theorem toLower_of_lt {c : Char} (h : c.toNat < 65) : c.toLower = c := by
  refine dif_neg fun hupper => ?_
  have hlarge : 65 ≤ c.toNat := UInt32.le_iff_toNat_le.mp hupper.1
  omega

/-- What becomes a digit, a sign or the point has been that character before. -/
theorem toLower_of_toLower_lt {c : Char} (h : c.toLower.toNat < 65) : c.toLower = c := by
  by_cases hupper : c.val ≥ 'A'.val ∧ c.val ≤ 'Z'.val
  · have hhigh : c.val.toNat ≤ 90 := UInt32.le_iff_toNat_le.mp hupper.2
    have hlow : 65 ≤ c.val.toNat := UInt32.le_iff_toNat_le.mp hupper.1
    have hmoved : c.toLower.toNat = (c.val + 32).toNat := by
      show c.toLower.val.toNat = _
      unfold Char.toLower
      rw [dif_pos hupper]
      rfl
    have hshift : (32 : UInt32).toNat = 32 := rfl
    rw [hmoved, UInt32.toNat_add] at h
    omega
  · exact dif_neg hupper

/-- **Words in any case.**  The lower-case form of a text is a plain word exactly
if the text is that word but for the case of ASCII letters. -/
theorem lowercase_eq_iff {s word : String} (h : ∀ d ∈ word.toList, isPlain d = true) :
    lowercase s = word ↔ s.toList.map Char.toLower = word.toList := by
  rw [lowercase, ← String.toList_inj, String.toList_ofList]
  constructor
  · intro heq
    rw [← heq]
    exact (eq_map_toLower (heq ▸ h)).symm
  · intro heq
    rw [← heq]
    refine lowercaseAfter_of_ascii fun c hc => lt_of_toLower_lt (lt_of_isPlain (h _ ?_))
    rw [← heq]
    exact List.mem_map_of_mem hc

end SubscriptionBilling.Text
