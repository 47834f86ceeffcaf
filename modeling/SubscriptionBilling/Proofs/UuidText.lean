import Mathlib
import SubscriptionBilling.Uuid
/-!
# UUIDs survive as text

The canonical text of a UUID is read as that UUID (`parse_text`): it is as long
as a grouped text, its hyphens stand where they should, and between them stand
the digits.
-/

namespace SubscriptionBilling.Uuid

open Text

/-- Characters of one byte each. -/
theorem byteCount_eq_length {cs : List Char} (h : ∀ c ∈ cs, c.utf8Size = 1) :
    byteCount cs = cs.length := by
  induction cs with
  | nil => rfl
  | cons c cs ih =>
      obtain ⟨hc, hcs⟩ := List.forall_mem_cons.mp h
      have hrest := ih hcs
      rw [byteCount] at hrest ⊢
      rw [List.foldr_cons, hrest, hc, List.length_cons, Nat.add_comm]

/-- A hexadecimal digit takes one byte. -/
theorem utf8Size_hexDigit (d : Fin 16) : (hexDigit d).utf8Size = 1 := by
  revert d
  decide

/-- The digits of a UUID without hyphens are read as this UUID. -/
theorem ofDigits?_simple (u : Uuid) : ofDigits? u.simple = some u := by
  have hvalues : ∀ ds : List (Fin 16), (ds.map hexDigit).mapM hexValue? = some ds := by
    intro ds
    induction ds with
    | nil => rfl
    | cons d ds ih => simp [hexValue?_hexDigit, ih]
  rw [ofDigits?, simple, hvalues]
  exact dif_pos u.length_eq

/-- Five groups with hyphens between them. -/
theorem ofHyphenated?_groups {a b c d e : List Char} (ha : a.length = 8) (hb : b.length = 4)
    (hc : c.length = 4) (hd : d.length = 4) :
    ofHyphenated? (a ++ '-' :: b ++ '-' :: c ++ '-' :: d ++ '-' :: e) =
      ofDigits? (a ++ b ++ c ++ d ++ e) := by
  have h8 : (a ++ '-' :: b ++ '-' :: c ++ '-' :: d ++ '-' :: e).drop 8 =
      '-' :: (b ++ '-' :: c ++ '-' :: d ++ '-' :: e) := by
    simp [← ha]
  have h13 : (a ++ '-' :: b ++ '-' :: c ++ '-' :: d ++ '-' :: e).drop 13 =
      '-' :: (c ++ '-' :: d ++ '-' :: e) := by
    rw [← List.drop_drop (i := 5) (j := 8), h8]
    simp [← hb]
  have h18 : (a ++ '-' :: b ++ '-' :: c ++ '-' :: d ++ '-' :: e).drop 18 =
      '-' :: (d ++ '-' :: e) := by
    rw [← List.drop_drop (i := 5) (j := 13), h13]
    simp [← hc]
  have h23 : (a ++ '-' :: b ++ '-' :: c ++ '-' :: d ++ '-' :: e).drop 23 = '-' :: e := by
    rw [← List.drop_drop (i := 5) (j := 18), h18]
    simp [← hd]
  have hfirst : (a ++ '-' :: b ++ '-' :: c ++ '-' :: d ++ '-' :: e).take 8 = a := by
    simp [← ha]
  have hgroups : ∀ {g : List Char} (rest : List Char), g.length = 4 → (g ++ rest).take 4 = g :=
    fun rest hg => List.take_left' hg
  rw [ofHyphenated?, h8, h13, h18, h23, hfirst]
  simp only [List.append_assoc, List.cons_append, hgroups _ hb, hgroups _ hc, hgroups _ hd]

/-- The groups of a UUID, and that they make up its digits. -/
theorem groups_simple (u : Uuid) :
    u.simple.take 8 ++ (u.simple.drop 8).take 4 ++ (u.simple.drop 12).take 4 ++
      (u.simple.drop 16).take 4 ++ u.simple.drop 20 = u.simple := by
  have hglue : ∀ n, (u.simple.drop n).take 4 ++ u.simple.drop (n + 4) = u.simple.drop n := by
    intro n
    rw [← List.drop_drop, List.take_append_drop]
  simp only [List.append_assoc, hglue, List.take_append_drop]

/-- The text of a UUID is read as that UUID. -/
theorem parse_text (u : Uuid) : parse u.text = .ok u := by
  have hlength : u.simple.length = 32 := by
    rw [simple, List.length_map, u.length_eq]
  have hsizes : ∀ c ∈ u.hyphenated, c.utf8Size = 1 := by
    intro c hc
    by_cases hhyphen : c = '-'
    · rw [hhyphen]
      rfl
    · have hdigit : c ∈ u.simple := by
        rw [← filter_hyphenated]
        exact List.mem_filter.mpr ⟨hc, bne_iff_ne.mpr hhyphen⟩
      obtain ⟨d, -, rfl⟩ := List.mem_map.mp hdigit
      exact utf8Size_hexDigit d
  have hbytes : byteCount u.hyphenated = 36 := by
    rw [byteCount_eq_length hsizes]
    simp [hyphenated, hlength]
  have hread : ofHyphenated? u.hyphenated = some u := by
    rw [hyphenated, ofHyphenated?_groups, groups_simple, ofDigits?_simple] <;> simp [hlength]
  have hgrouped : grouped? u.hyphenated = some u.hyphenated := by
    rw [grouped?, hbytes]
    rfl
  rw [parse, text, String.toList_ofList]
  simp only [hgrouped, hread]

end SubscriptionBilling.Uuid
