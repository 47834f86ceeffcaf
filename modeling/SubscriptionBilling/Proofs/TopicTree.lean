import Mathlib.Data.List.Basic
import Mathlib.Data.List.Induction
import SubscriptionBilling.Bus.Registry
/-!
# The tree of topics

Topics form a tree.  `Topic.isA` decides by the text of two names whether one
topic lies under another, and `Topic.parent?` goes up by cutting a name at its
last dot; in terms of the names between the dots (`Topic.segments`) the first is
to be the beginning of a list and the second is to drop its last member.
`isA_iff_isPrefix` and `parent_cases` say so for any name, with dots at its ends
or next to each other or with a `*` in it; the topic `*` stands apart, since it is
above every topic whatever its segments.

From there on everything is about lists.  `isA_agrees` says that both ways to ask
whether one topic stands above another agree with going up step by step
(`Topic.climb`), and that every topic leads up to `*`.  `isA_treeOrder` has the
laws of the order, and what they mean for the bus: who hears of an event under
one topic hears of it under every topic above.
-/

namespace SubscriptionBilling

/-- Two lists of texts are joined by joining each and putting one more mark between
them, if neither is empty. -/
theorem Text.intercalate_append {α : Type} {mark : List α} {xs ys : List (List α)} (hxs : xs ≠ [])
    (hys : ys ≠ []) :
    mark.intercalate (xs ++ ys) = mark.intercalate xs ++ mark ++ mark.intercalate ys := by
  induction xs with
  | nil => exact absurd rfl hxs
  | cons x rest ih =>
      cases rest with
      | nil => simp [List.intercalate_cons_of_ne_nil hys]
      | cons y rest =>
          have hrest : y :: rest ≠ [] := List.cons_ne_nil y rest
          have hboth : y :: rest ++ ys ≠ [] := List.append_ne_nil_of_left_ne_nil hrest ys
          rw [List.cons_append, List.intercalate_cons_of_ne_nil hboth, ih hrest,
            List.intercalate_cons_of_ne_nil hrest]
          simp only [List.append_assoc]

namespace Topic

/-! ## Names as lists of segments -/

/-- The text between the dots is what splitting at the dots leaves. -/
theorem segmentsOf_eq_splitOn (cs : List Char) : segmentsOf cs = cs.splitOn '.' := by
  induction cs with
  | nil => rfl
  | cons c cs ih =>
      rw [segmentsOf, ih, List.splitOn_cons_eq_if_modifyHead]
      by_cases hdot : c = '.'
      · simp [hdot]
      · cases hsplit : cs.splitOn '.' with
        | nil => exact absurd hsplit (List.splitOn_ne_nil '.' cs)
        | cons s ss => simp [hdot]

/-- Every topic has a segment, be it an empty one. -/
theorem segments_ne_nil (t : Topic) : t.segments ≠ [] := by
  rw [segments, segmentsOf_eq_splitOn]
  exact List.splitOn_ne_nil '.' _

/-- The segments put back together, with a point between each two, are the name. -/
theorem intercalate_segments (t : Topic) : ['.'].intercalate t.segments = t.name.toList := by
  rw [segments, segmentsOf_eq_splitOn, List.intercalate_splitOn]

/-- A topic is known by its segments, as they make up its name. -/
theorem eq_of_segments {t u : Topic} (h : t.segments = u.segments) : t = u := by
  have hname : t.name.toList = u.name.toList := by
    rw [← intercalate_segments t, ← intercalate_segments u, h]
  cases t
  cases u
  exact congrArg mk (String.toList_inj.mp hname)

/-- A name without a point is one segment, also the empty name. -/
theorem segments_of_not_mem {t : Topic} (h : '.' ∉ t.name.toList) :
    t.segments = [t.name.toList] := by
  rw [segments, segmentsOf_eq_splitOn, List.splitOn_eq_singleton h]

/-- A name is cut at any point as its segments are. -/
theorem segments_of_eq_append {t front : Topic} {back : List Char}
    (h : t.name.toList = front.name.toList ++ '.' :: back) :
    t.segments = front.segments ++ segmentsOf back := by
  simp only [segments, segmentsOf_eq_splitOn, h, List.splitOn_append_cons_self]

theorem segments_any : any.segments = [['*']] := rfl

/-- Two topics have all segments of the first in common, or its name as far as a
dot or the end. -/
theorem isPrefix_segments_iff {t above : Topic} :
    above.segments <+: t.segments ↔
      t = above ∨ ∃ rest, t.name.toList = above.name.toList ++ '.' :: rest := by
  constructor
  · rintro ⟨more, hmore⟩
    by_cases hnone : more = []
    · subst hnone
      rw [List.append_nil] at hmore
      exact .inl (eq_of_segments hmore.symm)
    · refine .inr ⟨['.'].intercalate more, ?_⟩
      rw [← intercalate_segments t, ← hmore,
        Text.intercalate_append above.segments_ne_nil hnone, intercalate_segments]
      simp only [List.append_assoc, List.singleton_append]
  · rintro (rfl | ⟨rest, hrest⟩)
    · exact List.prefix_refl _
    · rw [segments_of_eq_append hrest]
      exact List.prefix_append _ _

/-- **Lying under a topic** is to begin with its segments, unless that topic is
the highest. -/
theorem isA_iff_isPrefix {t above : Topic} :
    t.isA above = true ↔ above = any ∨ above.segments <+: t.segments := by
  rw [isA_iff, isPrefix_segments_iff]

/-- Every topic lies under itself. -/
theorem isA_refl (t : Topic) : t.isA t = true :=
  isA_iff_isPrefix.mpr (.inr (List.prefix_refl _))

/-- Every topic lies under the topic of everything. -/
theorem isA_any (t : Topic) : t.isA any = true := isA_iff_isPrefix.mpr (.inl rfl)

/-- Nothing but the topic of everything stands above it. -/
theorem eq_any_of_isA {above : Topic} (h : any.isA above = true) : above = any := by
  rcases isA_iff_isPrefix.mp h with rfl | hfront
  · rfl
  · have hsome : 1 ≤ above.segments.length := List.length_pos_iff.mpr above.segments_ne_nil
    exact eq_of_segments (hfront.eq_of_length_le hsome)

/-- Two topics that lie under each other are the same, since each begins with the
segments of the other. -/
theorem isA_antisymm {t above : Topic} (h : t.isA above = true) (h' : above.isA t = true) :
    t = above := by
  rcases isA_iff_isPrefix.mp h with rfl | hfront
  · exact eq_any_of_isA h'
  · rcases isA_iff_isPrefix.mp h' with rfl | hback
    · exact (eq_any_of_isA h).symm
    · exact eq_of_segments (hback.eq_of_length_le hfront.length_le)

/-- Of two topics above a third, one stands above the other. -/
theorem isA_or_isA {t a b : Topic} (ha : t.isA a = true) (hb : t.isA b = true) :
    a.isA b = true ∨ b.isA a = true := by
  rcases isA_iff_isPrefix.mp ha with rfl | hfront
  · exact .inr b.isA_any
  · rcases isA_iff_isPrefix.mp hb with rfl | hfront'
    · exact .inl a.isA_any
    · refine (List.prefix_or_prefix_of_prefix hfront hfront').symm.imp ?_ ?_
      · exact fun h => isA_iff_isPrefix.mpr (.inr h)
      · exact fun h => isA_iff_isPrefix.mpr (.inr h)

/-! ## Going up -/

/-- What stands directly above a topic. -/
inductive Parent (t : Topic) : Option Topic → Prop
  /-- Nothing stands above the highest topic. -/
  | highest (hany : t = any) : Parent t none
  /-- A single segment lies directly under the highest topic. -/
  | single (hany : t ≠ any) (hsegments : t.segments = [t.name.toList]) : Parent t (some any)
  /-- Of several segments, the last one is dropped. -/
  | dropped (up : Topic) (last : List Char) (hany : t ≠ any)
      (hsegments : t.segments = up.segments ++ [last]) : Parent t (some up)

/-- The topic of everything is recognised by its name. -/
theorem isAny_eq_true_iff {t : Topic} : t.isAny = true ↔ t = any := by
  cases t
  simp [isAny, any]

/-- **One step up.**  A name that is cut at its last dot loses its last segment. -/
theorem parent_cases (t : Topic) : Parent t t.parent? := by
  by_cases hany : t = any
  · subst hany
    exact .highest rfl
  · have hother : ¬ t.isAny = true := fun h => hany (isAny_eq_true_iff.mp h)
    rw [parent?, if_neg hother]
    cases hcut : Text.cutLast? ['.'] t.name.toList with
    | none => exact .single hany (segments_of_not_mem (Text.cutLast?_singleton_eq_none_iff.mp hcut))
    | some cut =>
        obtain ⟨front, back⟩ := cut
        have hname : t.name.toList = (mk (String.ofList front)).name.toList ++ '.' :: back := by
          rw [String.toList_ofList, Text.eq_append_of_cutLast? hcut, List.append_assoc,
            List.singleton_append]
        refine .dropped ⟨String.ofList front⟩ back hany ?_
        rw [segments_of_eq_append hname, segmentsOf_eq_splitOn,
          List.splitOn_eq_singleton (Text.not_mem_of_cutLast? hcut)]

/-- A topic lies under the one directly above, be it a beginning of its name or the
topic of everything. -/
theorem isA_of_parent {t up : Topic} (h : t.parent? = some up) : t.isA up = true := by
  have hparent := t.parent_cases
  rw [h] at hparent
  cases hparent with
  | single => exact t.isA_any
  | dropped _ last hany hsegments =>
      rw [isA_iff_isPrefix, hsegments]
      exact .inr (List.prefix_append _ _)

/-- Of several segments, the last one is dropped by going up. -/
theorem parent_of_segments {t : Topic} {front : List (List Char)} {last : List Char}
    (hfront : front ≠ []) (hsegments : t.segments = front ++ [last]) :
    ∃ up, t.parent? = some up ∧ up.segments = front := by
  have hseveral : ∀ s, t.segments ≠ [s] := by
    intro s hs
    have hone : front ++ [last] = [] ++ [s] := hsegments.symm.trans hs
    exact hfront (List.append_inj_left' hone rfl)
  have hparent := t.parent_cases
  generalize hup : t.parent? = up at hparent
  cases hparent with
  | highest hany => exact absurd segments_any (hany ▸ hseveral _)
  | single hany hone => exact absurd hone (hseveral _)
  | dropped up last' hany hdropped =>
      exact ⟨up, rfl, List.append_inj_left' (hdropped.symm.trans hsegments) rfl⟩

/-- The topic so many steps above. -/
def climb : Nat → Topic → Option Topic
  | 0, t => some t
  | n + 1, t => t.parent?.bind (climb n)

/-- To go up some steps and one more is to begin with the topic above. -/
theorem climb_succ {t up : Topic} (h : t.parent? = some up) (n : Nat) :
    t.climb (n + 1) = up.climb n := by
  rw [climb, h, Option.bind_some]

/-- Some steps up and then some more are all of them. -/
theorem climb_add (m n : Nat) (t : Topic) : t.climb (m + n) = (t.climb m).bind (climb n) := by
  induction m generalizing t with
  | zero => rw [Nat.zero_add, climb, Option.bind_some]
  | succ m ih =>
      rw [Nat.add_right_comm, climb, climb, Option.bind_assoc]
      exact congrArg (Option.bind t.parent?) (funext ih)

/-- Whatever is reached by going up stands above where one began; the induction is on
the steps. -/
theorem isA_of_climb {t above : Topic} {n : Nat} (h : t.climb n = some above) :
    t.isA above = true := by
  induction n generalizing t with
  | zero =>
      cases h
      exact isA_refl _
  | succ n ih =>
      obtain ⟨up, hup, hrest⟩ := Option.bind_eq_some_iff.mp h
      exact isA_trans (isA_of_parent hup) (ih hrest)

/-- **The way up ends** at the highest topic, after as many steps as there are
segments at most. -/
theorem climb_to_any (t : Topic) :
    ∃ n, n ≤ t.segments.length ∧ t.climb n = some any ∧ t.climb (n + 1) = none := by
  -- Each step drops a segment, up to the last, which is replaced by `*`.
  generalize hlength : t.segments.length = length
  induction length generalizing t with
  | zero => exact absurd (List.length_eq_zero_iff.mp hlength) t.segments_ne_nil
  | succ length ih =>
      have hparent := t.parent_cases
      generalize hup : t.parent? = up at hparent
      cases hparent with
      | highest hany =>
          subst hany
          exact ⟨0, Nat.zero_le _, rfl, rfl⟩
      | single => exact ⟨1, Nat.le_add_left 1 length, climb_succ hup 0, climb_succ hup 1⟩
      | dropped up last hany hsegments =>
          have hrest : up.segments.length = length := by
            rw [hsegments, List.length_append, List.length_singleton] at hlength
            exact Nat.succ.inj hlength
          obtain ⟨n, hn, hlast, hend⟩ := ih up hrest
          exact ⟨n + 1, Nat.succ_le_succ hn, (climb_succ hup n).trans hlast,
            (climb_succ hup (n + 1)).trans hend⟩

/-- Going up drops the segments one by one, and so comes by every beginning of a name.
-/
theorem climb_of_isPrefix {t above : Topic} (h : above.segments <+: t.segments) :
    ∃ n, t.climb n = some above := by
  obtain ⟨more, hmore⟩ := h
  induction more using List.reverseRecOn generalizing t with
  | nil =>
      rw [List.append_nil] at hmore
      exact ⟨0, congrArg some (eq_of_segments hmore.symm)⟩
  | append_singleton more last ih =>
      have hfront : above.segments ++ more ≠ [] :=
        List.append_ne_nil_of_left_ne_nil above.segments_ne_nil more
      rw [← List.append_assoc] at hmore
      obtain ⟨up, hup, hsegments⟩ := parent_of_segments hfront hmore.symm
      obtain ⟨n, hn⟩ := ih hsegments.symm
      exact ⟨n + 1, (climb_succ hup n).trans hn⟩

/-- **Three ways to stand above.**  A topic lies under another if and only if that
one is `*` or its segments are the first segments of the topic, and if and only if
going up from the topic comes by it; and going up from any topic ends, with `*`
as the last. -/
theorem isA_agrees (t above : Topic) :
    (t.isA above = true ↔ above = any ∨ above.segments <+: t.segments) ∧
      (t.isA above = true ↔ ∃ n, t.climb n = some above) ∧
      ∃ n, t.climb n = some any ∧ t.climb (n + 1) = none := by
  obtain ⟨n, -, hlast, hend⟩ := t.climb_to_any
  refine ⟨isA_iff_isPrefix, ⟨fun h => ?_, fun ⟨_, hclimb⟩ => isA_of_climb hclimb⟩,
    n, hlast, hend⟩
  rcases isA_iff_isPrefix.mp h with rfl | hfront
  · exact ⟨n, hlast⟩
  · exact climb_of_isPrefix hfront

/-! ## The list of all topics above -/

/-- A name has one segment more than it has points, and so at most one more than it has
characters. -/
theorem length_segments_le (t : Topic) : t.segments.length ≤ t.name.length + 1 := by
  have hle : ∀ cs : List Char, (segmentsOf cs).length ≤ cs.length + 1 := by
    intro cs
    induction cs with
    | nil => exact Nat.le_refl 1
    | cons c cs ih =>
        rw [segmentsOf, List.length_cons]
        split
        · exact Nat.succ_le_succ ih
        · split
          · exact Nat.le_add_left 1 _
          · rename_i hsegments
            rw [hsegments] at ih
            exact Nat.le_succ_of_le ih
  exact hle t.name.toList

/-- The topics above a topic, listed with fuel, are those that one step up after the
other leads to. -/
theorem getElem?_ancestors (fuel : Nat) (t : Topic) {n : Nat} (h : n < fuel) :
    (ancestors fuel t)[n]? = t.climb (n + 1) := by
  induction fuel generalizing t n with
  | zero => exact absurd h (Nat.not_lt_zero n)
  | succ fuel ih =>
      rw [ancestors, climb]
      cases t.parent? with
      | none => rfl
      | some up =>
          cases n with
          | zero => rfl
          | succ n => exact ih up (Nat.lt_of_succ_lt_succ h)

/-- The list of the topics above is never longer than its fuel. -/
theorem length_ancestors_le (fuel : Nat) (t : Topic) : (ancestors fuel t).length ≤ fuel := by
  induction fuel generalizing t with
  | zero => exact Nat.le_refl 0
  | succ fuel ih =>
      rw [ancestors]
      cases t.parent? with
      | none => exact Nat.zero_le _
      | some up => exact Nat.succ_le_succ (ih up)

/-- **All topics above** are listed in the order in which going up comes by them,
and none is left out. -/
theorem getElem?_parents (t : Topic) (n : Nat) : t.parents[n]? = t.climb (n + 1) := by
  by_cases hfuel : n < t.name.length + 2
  · exact getElem?_ancestors _ t hfuel
  · -- There are fewer topics above than the list has room for.
    obtain ⟨last, hlast, -, hend⟩ := t.climb_to_any
    have hroom := t.length_segments_le
    obtain ⟨more, rfl⟩ : ∃ more, n = last + more := ⟨n - last, by omega⟩
    have hnone : t.climb (last + more + 1) = none := by
      rw [Nat.add_right_comm, climb_add, hend, Option.bind_none]
    rw [hnone, List.getElem?_eq_none_iff]
    exact Nat.le_trans (length_ancestors_le _ t) (Nat.le_of_not_lt hfuel)

/-- Above a dot at the beginning is the empty name; a `*` before a dot is `*`. -/
example : (⟨".created"⟩ : Topic).parents = [⟨""⟩, any] ∧ (⟨"*.x"⟩ : Topic).parents = [any] := by
  constructor <;> cbv

end Topic

/-! ## The order, and who hears of an event -/

/-- An order with a root in which all that stands above one member is a chain. -/
structure IsTreeOrder {α : Type} (under : α → α → Prop) (root : α) : Prop where
  refl : ∀ t, under t t
  trans : ∀ {t u v}, under t u → under u v → under t v
  antisymm : ∀ {t u}, under t u → under u t → t = u
  root : ∀ t, under t root
  chain : ∀ {t u v}, under t u → under t v → under u v ∨ under v u

namespace Bus.Registry

variable {H : Type}

/-- The subscriptions that an event of a topic goes to. -/
def heard (r : Registry H) (event : Topic) : List (Topic × H) :=
  r.subscriptions.filter fun s => event.isA s.1

end Bus.Registry

/-- **Topics are a tree** with `*` as its root.  If an event goes to one
subscription under a topic, it goes to every subscription under each topic above. -/
theorem isA_treeOrder {H : Type} (r : Bus.Registry H) :
    IsTreeOrder (fun t above : Topic => t.isA above = true) .any ∧
      ∀ event : Topic, r.matching event = (r.heard event).map Prod.snd ∧
        ∀ s ∈ r.heard event, ∀ above : Topic, s.1.isA above = true →
          (r.subscriptions.filter fun other => other.1 = above).Sublist (r.heard event) := by
  refine ⟨⟨Topic.isA_refl, Topic.isA_trans, Topic.isA_antisymm, Topic.isA_any, Topic.isA_or_isA⟩,
    fun event => ⟨r.matching_eq event, ?_⟩⟩
  intro s hs above habove
  have hevent : event.isA s.1 = true := (List.mem_filter.mp hs).2
  refine List.monotone_filter_right r.subscriptions ?_
  intro other hother
  rw [of_decide_eq_true hother]
  exact Topic.isA_trans hevent habove

/-- Four handlers, three of them under topics that lie one above the other. -/
def Sample.nested : Bus.Registry Nat :=
  (((Bus.Registry.empty.subscribe ⟨"user"⟩ 1).subscribe ⟨"user."⟩ 2).subscribe ⟨"user.v1"⟩
    3).subscribe .any 4

/-- The dot at the end of a name begins one more segment. -/
theorem isA_treeOrder_nested :
    (⟨"user."⟩, 2) ∈ Sample.nested.heard ⟨"user..v1"⟩ ∧
      (⟨"user."⟩ : Topic).isA ⟨"user"⟩ = true ∧
      [((⟨"user"⟩ : Topic), 1)].Sublist (Sample.nested.heard ⟨"user..v1"⟩) ∧
      Sample.nested.matching ⟨"user..v1"⟩ = [1, 2, 4] := by
  have hheard : Sample.nested.heard ⟨"user..v1"⟩ =
      [(⟨"user"⟩, 1), (⟨"user."⟩, 2), (.any, 4)] := by decide
  have hmem : (⟨"user."⟩, 2) ∈ Sample.nested.heard ⟨"user..v1"⟩ := by simp [hheard]
  have habove : (⟨"user."⟩ : Topic).isA ⟨"user"⟩ = true := by cbv
  obtain ⟨hmatching, hup⟩ := (isA_treeOrder Sample.nested).2 ⟨"user..v1"⟩
  refine ⟨hmem, habove, ?_, ?_⟩
  · have hunder : Sample.nested.subscriptions.filter (fun other => other.1 = ⟨"user"⟩) =
        [(⟨"user"⟩, 1)] := by decide
    rw [← hunder]
    exact hup _ hmem ⟨"user"⟩ habove
  · rw [hmatching, hheard]
    rfl

end SubscriptionBilling
