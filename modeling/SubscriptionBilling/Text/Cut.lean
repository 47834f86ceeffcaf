/-!
# Cutting texts

`behind?` takes a known beginning off a text, and `cutLast?` cuts a text at the
last place where a mark stands.  Each is pinned down by the text it puts back
together.  `dropBytes?` and `takeBytes?` cut behind a number of bytes, unless
that is inside a character.
-/

namespace SubscriptionBilling.Text

/-- What stands behind a beginning; nothing if the text begins otherwise. -/
def behind? : List Char → List Char → Option (List Char)
  | [], cs => some cs
  | _ :: _, [] => none
  | b :: beginning, c :: cs => if b = c then behind? beginning cs else none

/-- Cuts a text at the last place where a mark stands. -/
def cutLast? (mark : List Char) : List Char → Option (List Char × List Char)
  | [] => none
  | c :: cs =>
    match cutLast? mark cs with
    | some (front, back) => some (c :: front, back)
    | none => (behind? mark (c :: cs)).map fun back => ([], back)

/-- The text behind so many bytes. -/
def dropBytes? : Nat → List Char → Option (List Char)
  | 0, cs => some cs
  | _ + 1, [] => none
  | n + 1, c :: cs => if c.utf8Size ≤ n + 1 then dropBytes? (n + 1 - c.utf8Size) cs else none

/-- The first so many bytes of a text. -/
def takeBytes? : Nat → List Char → Option (List Char)
  | 0, _ => some []
  | _ + 1, [] => none
  | n + 1, c :: cs =>
    if c.utf8Size ≤ n + 1 then (takeBytes? (n + 1 - c.utf8Size) cs).map (c :: ·) else none

theorem behind?_eq_some_iff {beginning cs rest : List Char} :
    behind? beginning cs = some rest ↔ cs = beginning ++ rest := by
  induction beginning generalizing cs with
  | nil => simp [behind?]
  | cons b beginning ih =>
    cases cs with
    | nil => simp [behind?]
    | cons c cs =>
      by_cases h : b = c
      · simp [behind?, h, ih]
      · simp [behind?, h, Ne.symm h]

theorem eq_append_of_cutLast? {mark cs front back : List Char}
    (h : cutLast? mark cs = some (front, back)) : cs = front ++ mark ++ back := by
  induction cs generalizing front with
  | nil => simp [cutLast?] at h
  | cons c cs ih =>
    simp only [cutLast?] at h
    split at h
    · rename_i f b hcut
      simp only [Option.some.injEq, Prod.mk.injEq] at h
      obtain ⟨rfl, rfl⟩ := h
      simp [ih hcut]
    · simp only [Option.map_eq_some_iff, Prod.mk.injEq] at h
      obtain ⟨rest, hrest, rfl, rfl⟩ := h
      simpa using behind?_eq_some_iff.1 hrest

/-- A single character is not found if it does not stand anywhere. -/
theorem cutLast?_singleton_eq_none_iff {mark : Char} {cs : List Char} :
    cutLast? [mark] cs = none ↔ mark ∉ cs := by
  induction cs with
  | nil => simp [cutLast?]
  | cons c cs ih =>
    rw [List.mem_cons, not_or, ← ih, cutLast?]
    cases cutLast? [mark] cs with
    | some cut => simp
    | none => by_cases h : mark = c <;> simp [behind?, h]

/-- Behind the last place where a character stands, it does not stand again. -/
theorem not_mem_of_cutLast? {mark : Char} {cs front back : List Char}
    (h : cutLast? [mark] cs = some (front, back)) : mark ∉ back := by
  induction cs generalizing front with
  | nil => simp [cutLast?] at h
  | cons c cs ih =>
    rw [cutLast?] at h
    split at h
    · rename_i f b hcut
      simp only [Option.some.injEq, Prod.mk.injEq] at h
      obtain ⟨rfl, rfl⟩ := h
      exact ih hcut
    · rename_i hcut
      obtain ⟨rest, hrest, hpair⟩ := Option.map_eq_some_iff.1 h
      obtain ⟨-, rfl⟩ := Prod.mk.inj hpair
      have hcs : cs = rest := (List.cons.inj (behind?_eq_some_iff.1 hrest)).2
      exact hcs ▸ cutLast?_singleton_eq_none_iff.1 hcut

/-- A mark is not found in a text without its first character. -/
theorem cutLast?_eq_none_of_not_mem {m : Char} {mark cs : List Char} (h : m ∉ cs) :
    cutLast? (m :: mark) cs = none := by
  induction cs with
  | nil => rfl
  | cons c cs ih =>
    rw [List.mem_cons, not_or] at h
    rw [cutLast?, ih h.2, behind?, if_neg h.1]
    rfl

/-- A text is cut where a mark stands if its first character does not stand
behind that. -/
theorem cutLast?_append {m : Char} {mark back : List Char} (h : m ∉ mark ++ back)
    (front : List Char) :
    cutLast? (m :: mark) (front ++ m :: (mark ++ back)) = some (front, back) := by
  induction front with
  | nil =>
    have hbehind : behind? (m :: mark) (m :: (mark ++ back)) = some back :=
      behind?_eq_some_iff.2 rfl
    rw [List.nil_append, cutLast?, cutLast?_eq_none_of_not_mem h, hbehind]
    rfl
  | cons c front ih => rw [List.cons_append, cutLast?, ih]

end SubscriptionBilling.Text
