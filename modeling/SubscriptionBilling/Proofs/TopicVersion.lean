import SubscriptionBilling.Envelope
import SubscriptionBilling.Proofs.Numerals
import SubscriptionBilling.Proofs.TopicTree
/-!
# The version of a topic

A topic may end in the version of what is published under it, as a segment of its
own: `user.created.v2`.  `Topic.version` does not look for a segment.  It cuts the
name at the last place where `.v` stands and tries to read a number from what is
left; so it is the numeral that has to keep dots, other segments and other
characters out.

`namesVersion_iff` says that both come to the same, for any name whatever, and
`version_rule` that the version is the number that the last segment names, if it
fits 32 bits, and one in every other case.
-/

namespace SubscriptionBilling

open Text

namespace Topic

/-- The last of several segments is a `v` with the numeral of a number. -/
def NamesVersion (t : Topic) (n : Nat) : Prop :=
  '.' ∈ t.name.toList ∧ ∃ numeral, t.segments.getLast? = some ('v' :: numeral) ∧
    IsNumeral numeral n

variable {t : Topic} {n m : Nat} {front back : List Char}

/-- Where a name is cut, the last segment begins, unless a dot follows. -/
theorem segments_of_cutLast? (hcut : cutLast? ['.', 'v'] t.name.toList = some (front, back))
    (hdot : '.' ∉ back) : t.segments = (mk (String.ofList front)).segments ++ ['v' :: back] := by
  have hname : t.name.toList = (mk (String.ofList front)).name.toList ++ '.' :: 'v' :: back := by
    rw [eq_append_of_cutLast? hcut, String.toList_ofList]
    simp only [List.append_assoc, List.cons_append, List.nil_append]
  have hlast : '.' ∉ 'v' :: back := List.not_mem_cons_of_ne_of_not_mem (by decide) hdot
  rw [segments_of_eq_append hname, segmentsOf_eq_splitOn, List.splitOn_eq_singleton hlast]

/-- A last segment that begins with a `v` is where the name is cut, unless a dot
follows. -/
theorem cutLast?_of_segments {front : List (List Char)} (hfront : front ≠ [])
    (hsegments : t.segments = front ++ ['v' :: back]) (hdot : '.' ∉ back) :
    cutLast? ['.', 'v'] t.name.toList = some (['.'].intercalate front, back) := by
  have hname : t.name.toList = ['.'].intercalate front ++ '.' :: (['v'] ++ back) := by
    rw [← intercalate_segments t, hsegments, intercalate_append hfront (List.cons_ne_nil _ _),
      List.intercalate_singleton]
    simp only [List.append_assoc, List.cons_append, List.nil_append]
  rw [hname]
  exact cutLast?_append (List.not_mem_cons_of_ne_of_not_mem (by decide) hdot) _

/-- **Segments and cuts.**  The last segment names a version exactly if a numeral
stands where the name is cut. -/
theorem namesVersion_iff : t.NamesVersion n ↔
    ∃ front back, cutLast? ['.', 'v'] t.name.toList = some (front, back) ∧ IsNumeral back n := by
  constructor
  · rintro ⟨hseveral, numeral, hlast, hnumeral⟩
    obtain ⟨front, hsegments⟩ := List.getLast?_eq_some_iff.mp hlast
    refine ⟨_, numeral, cutLast?_of_segments ?_ hsegments (hnumeral.not_mem rfl (by decide)),
      hnumeral⟩
    -- A name that is one segment has no dot in it.
    rintro rfl
    have hname : t.name.toList = 'v' :: numeral := by
      rw [← intercalate_segments t, hsegments, List.nil_append, List.intercalate_singleton]
    rw [hname] at hseveral
    exact List.not_mem_cons_of_ne_of_not_mem (by decide) (hnumeral.not_mem rfl (by decide)) hseveral
  · rintro ⟨front, back, hcut, hnumeral⟩
    refine ⟨?_, back, ?_, hnumeral⟩
    · rw [eq_append_of_cutLast? hcut]
      simp
    · rw [segments_of_cutLast? hcut (hnumeral.not_mem rfl (by decide))]
      exact List.getLast?_concat

/-- A topic names one version at most. -/
theorem NamesVersion.unique (h : t.NamesVersion n) (h' : t.NamesVersion m) : n = m := by
  obtain ⟨front, back, hcut, hnumeral⟩ := namesVersion_iff.mp h
  obtain ⟨front', back', hcut', hnumeral'⟩ := namesVersion_iff.mp h'
  cases hcut.symm.trans hcut'
  exact Option.some.inj
    ((natural?_eq_some_iff.mpr hnumeral).symm.trans (natural?_eq_some_iff.mpr hnumeral'))

/-- The version that is named is read, if it fits 32 bits. -/
theorem NamesVersion.version (h : t.NamesVersion n) :
    t.version = if n < UInt32.size then UInt32.ofNat n else 1 := by
  obtain ⟨front, back, hcut, hnumeral⟩ := namesVersion_iff.mp h
  simp only [Topic.version, hcut, natural?_eq_some_iff.mpr hnumeral]

/-- Without a version that is named, the version is one. -/
theorem version_of_unnamed (h : ∀ n, ¬ t.NamesVersion n) : t.version = 1 := by
  unfold Topic.version
  split
  · rfl
  · rename_i front back hcut
    split
    · rfl
    · rename_i n hread
      exact absurd (namesVersion_iff.mpr ⟨front, back, hcut, natural?_eq_some_iff.mp hread⟩) (h n)

/-- The version of a topic is the word that it names, and one if it names none. -/
theorem version_eq_iff {word : UInt32} :
    t.version = word ↔ t.NamesVersion word.toNat ∨
      word = 1 ∧ ∀ other : UInt32, ¬ t.NamesVersion other.toNat := by
  by_cases hnamed : ∃ n, t.NamesVersion n
  · obtain ⟨n, hn⟩ := hnamed
    rw [hn.version]
    by_cases hfits : n < UInt32.size
    · have hword : (UInt32.ofNat n).toNat = n := UInt32.toNat_ofNat_of_lt' hfits
      rw [if_pos hfits]
      constructor
      · rintro rfl
        rw [hword]
        exact .inl hn
      · rintro (hnames | ⟨-, hnone⟩)
        · rw [hn.unique hnames, UInt32.ofNat_toNat]
        · refine absurd ?_ (hnone (UInt32.ofNat n))
          rw [hword]
          exact hn
    -- No word is as large as the number that is named.
    · have hnone : ∀ other : UInt32, ¬ t.NamesVersion other.toNat := by
        intro other hother
        exact hfits (hn.unique hother ▸ other.toNat_lt)
      rw [if_neg hfits, eq_comm]
      exact ⟨fun hone => .inr ⟨hone, hnone⟩,
        fun h => h.elim (fun hnames => absurd hnames (hnone word)) And.left⟩
  · have hnone : ∀ n, ¬ t.NamesVersion n := fun n hn => hnamed ⟨n, hn⟩
    rw [version_of_unnamed hnone, eq_comm]
    exact ⟨fun hone => .inr ⟨hone, fun other => hnone other.toNat⟩,
      fun h => h.elim (fun hnames => absurd hnames (hnone _)) And.left⟩

/-- A version behind any name at all. -/
theorem namesVersion_append (name : String) (n : Nat) :
    NamesVersion ⟨name ++ ".v" ++ String.ofList (decimal n)⟩ n := by
  have hnumeral : IsNumeral (decimal n) n := ⟨decimal n, spells_decimal n, .inl rfl⟩
  refine namesVersion_iff.mpr ⟨name.toList, decimal n, ?_, hnumeral⟩
  have hdot : '.' ∉ ['v'] ++ decimal n :=
    List.not_mem_cons_of_ne_of_not_mem (by decide) (hnumeral.not_mem rfl (by decide))
  have hname : (name ++ ".v" ++ String.ofList (decimal n)).toList =
      name.toList ++ '.' :: (['v'] ++ decimal n) := by
    have hmark : ".v".toList = ['.', 'v'] := rfl
    rw [String.toList_append, String.toList_append, hmark, String.toList_ofList,
      List.append_assoc]
    rfl
  rw [hname]
  exact cutLast?_append hdot name.toList

end Topic

/-- **The version of a topic** is the number that its last segment names behind a
`v`, if there is a segment before it and the number fits 32 bits, and one
otherwise.  So a number that is written behind any name is the version, and it
becomes the schema version of a new envelope. -/
theorem version_rule :
    (∀ (t : Topic) (n : UInt32), t.version = n ↔
      t.NamesVersion n.toNat ∨ n = 1 ∧ ∀ m : UInt32, ¬ t.NamesVersion m.toNat) ∧
    (∀ (name : String) (n : UInt32),
      Topic.version ⟨name ++ ".v" ++ String.ofList (decimal n.toNat)⟩ = n) ∧
    ∀ (id : EventId) (now : Instant) (t : Topic) (aggregateId aggregateType : String)
      (payload : Json),
      (Envelope.new id now t aggregateId aggregateType payload).schemaVersion = t.version := by
  refine ⟨fun t n => Topic.version_eq_iff, ?_, ?_⟩
  · intro name n
    exact Topic.version_eq_iff.mpr (.inl (Topic.namesVersion_append name n.toNat))
  · intro id now t aggregateId aggregateType payload
    rfl

/-- Of two versions the last counts, with a plus sign and zeros in front. -/
example : Topic.version ⟨"a.v1.v+007"⟩ = 7 ∧ Topic.version ⟨"a.v2.x"⟩ = 1 ∧
    Topic.version ⟨"v2"⟩ = 1 ∧ Topic.version ⟨"a.v4294967296"⟩ = 1 := by
  decide +kernel

end SubscriptionBilling
