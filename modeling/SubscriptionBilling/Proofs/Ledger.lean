import Mathlib.Data.Set.Function
import Mathlib.Logic.Relation
import Mathlib.Order.Interval.Set.Defs
import SubscriptionBilling.Proofs.Keyed
import SubscriptionBilling.Proofs.StatusChain
/-!
# The ledger of subscriptions

Of all that the services share, the story of a subscription depends on three
things: the stored subscriptions, what the publisher was handed, and how many
UUIDs were taken.  `Ledger.Step` lists what can happen to them.  `Ledger.Sound`
says that every stored subscription has its story told without a gap; a step
keeps that (`Sound.step`), as long as no UUID is taken twice, and so does
any number of steps (`Sound.reach`).
-/

namespace SubscriptionBilling

/-- The subscriptions, the events handed over, and the number of UUIDs taken. -/
structure Ledger where
  store : SubscriptionStore
  handed : List Envelope
  drawn : Nat

namespace Ledger

variable {uuids : Nat → Uuid} {l l' : Ledger}

/-- What can happen to a ledger while UUIDs are taken from a sequence. -/
inductive Step (uuids : Nat → Uuid) (l : Ledger) : Ledger → Prop
  /-- A UUID is taken for something else. -/
  | drew : Step uuids l { l with drawn := l.drawn + 1 }
  /-- Something else is announced. -/
  | other (e : Envelope) (htopic : e.topic ≠ StatusChanged.topic) :
      Step uuids l { l with handed := l.handed ++ [e] }
  /-- A new subscription is saved. -/
  | created (s : Subscription) (hid : s.id = ⟨uuids l.drawn⟩) (hstatus : s.status = .active) :
      Step uuids l ⟨l.store.save s, l.handed, l.drawn + 1⟩
  /-- A subscription is written and keeps its status. -/
  | kept (id : SubscriptionId) (s s' : Subscription) (tr : Transition)
      (hfind : l.store.find? id = some s) (hmoves : s.Moves tr s')
      (hsame : s.status = s'.status) :
      Step uuids l { l with store := OrderedMap.set l.store id s' }
  /-- A subscription changes its status, and that is announced. -/
  | changed (id : SubscriptionId) (s s' : Subscription) (tr : Transition) (e : Envelope)
      (hfind : l.store.find? id = some s) (hmoves : s.Moves tr s')
      (hchanged : s.status ≠ s'.status) (hannounces : s.Announces s' e) :
      Step uuids l ⟨OrderedMap.set l.store id s', l.handed ++ [e], l.drawn + 1⟩

/-- One ledger comes of another. -/
def Reach (uuids : Nat → Uuid) : Ledger → Ledger → Prop := Relation.ReflTransGen (Step uuids)

/-- A step takes UUIDs from the supply and never gives one back. -/
theorem Step.drawn_le (h : Step uuids l l') : l.drawn ≤ l'.drawn := by
  cases h with
  | drew => exact Nat.le_succ _
  | other => exact Nat.le_refl _
  | created => exact Nat.le_succ _
  | kept => exact Nat.le_refl _
  | changed => exact Nat.le_succ _

/-- The number of UUIDs that were drawn only grows. -/
theorem Reach.drawn_le (h : Reach uuids l l') : l.drawn ≤ l'.drawn := by
  induction h with
  | refl => exact Nat.le_refl _
  | tail _ hstep ih => exact ih.trans hstep.drawn_le

/-- A key that is new after a step is a UUID that was drawn in it. -/
theorem Step.mem_keys (h : Step uuids l l') {id : SubscriptionId} (hid : id ∈ l'.store.keys) :
    id ∈ l.store.keys ∨ ∃ i ∈ Set.Ico l.drawn l'.drawn, id = ⟨uuids i⟩ := by
  cases h with
  | drew => exact .inl hid
  | other => exact .inl hid
  | created s hs =>
      rcases OrderedMap.mem_keys_set.mp hid with hnew | hold
      · exact .inr ⟨l.drawn, ⟨Nat.le_refl _, Nat.lt_succ_self _⟩, hnew.trans hs⟩
      · exact .inl hold
  | kept _ _ s' _ hfind => exact .inl (OrderedMap.keys_set_of_find? hfind s' ▸ hid)
  | changed _ _ s' _ _ hfind => exact .inl (OrderedMap.keys_set_of_find? hfind s' ▸ hid)

/-- Every identifier was there before, or is a UUID that was drawn on the way. -/
theorem Reach.mem_keys (h : Reach uuids l l') {id : SubscriptionId} (hid : id ∈ l'.store.keys) :
    id ∈ l.store.keys ∨ ∃ i ∈ Set.Ico l.drawn l'.drawn, id = ⟨uuids i⟩ := by
  induction h with
  | refl => exact .inl hid
  | tail hreach hstep ih =>
      have hdrawn := Reach.drawn_le hreach
      rcases hstep.mem_keys hid with hmid | ⟨i, hi, heq⟩
      · rcases ih hmid with hold | ⟨i, hi, heq⟩
        · exact .inl hold
        · exact .inr ⟨i, ⟨hi.1, hi.2.trans_le hstep.drawn_le⟩, heq⟩
      · exact .inr ⟨i, ⟨hdrawn.trans hi.1, hi.2⟩, heq⟩

/-- The announcements of a subscription so far. -/
def story (l : Ledger) (id : SubscriptionId) : List Envelope :=
  l.handed.filter (Envelope.isStatusChangeOf · id)

/-- Every stored subscription stands under its own identifier, which is a UUID
taken before, and its story leads from active to its present status; and nothing
was announced of subscriptions that are not stored. -/
structure Sound (uuids : Nat → Uuid) (start : Nat) (l : Ledger) : Prop where
  begun : start ≤ l.drawn
  keyed : l.store.Keyed
  taken : ∀ id ∈ l.store.keys, ∃ i, start ≤ i ∧ i < l.drawn ∧ id = ⟨uuids i⟩
  told : ∀ id s, l.store.find? id = some s → StatusChain .active (l.story id) s.status
  known : ∀ e ∈ l.handed, e.topic = StatusChanged.topic →
    ∃ id ∈ l.store.keys, e.aggregateId = id.text

/-- Where nothing happened yet, there is nothing to tell, and no UUID is spent. -/
theorem sound_empty (uuids : Nat → Uuid) (start : Nat) : Sound uuids start ⟨.empty, [], start⟩ := by
  refine ⟨Nat.le_refl _, SubscriptionStore.keyed_empty, ?_, ?_, ?_⟩
  · intro id hid
    cases hid
  · intro id s hfind
    cases hfind
  · intro e he
    cases he

/-! ## What a step preserves -/

variable {start : Nat}

/-- One more envelope belongs to the story of a subscription just if it announces a
change of its status. -/
theorem story_append (l : Ledger) (store : SubscriptionStore) (e : Envelope) (drawn : Nat)
    (id : SubscriptionId) :
    story ⟨store, l.handed ++ [e], drawn⟩ id =
      if e.isStatusChangeOf id then l.story id ++ [e] else l.story id := by
  rw [story, List.filter_append]
  cases h : e.isStatusChangeOf id <;> simp [story, h]

/-- A UUID that is drawn for something else than a subscription keeps the ledger sound.
-/
theorem Sound.drew (h : Sound uuids start l) :
    Sound uuids start { l with drawn := l.drawn + 1 } := by
  refine ⟨h.begun.trans (Nat.le_succ _), h.keyed, ?_, h.told, h.known⟩
  intro id hid
  obtain ⟨i, hstart, hi, rfl⟩ := h.taken id hid
  exact ⟨i, hstart, hi.trans (Nat.lt_succ_self _), rfl⟩

/-- An announcement of something else than a change of status is in no story. -/
theorem Sound.other (h : Sound uuids start l) {e : Envelope}
    (htopic : e.topic ≠ StatusChanged.topic) :
    Sound uuids start { l with handed := l.handed ++ [e] } := by
  refine ⟨h.begun, h.keyed, h.taken, ?_, ?_⟩
  · intro id s hfind
    have hforeign : e.isStatusChangeOf id = false := by
      rw [Envelope.isStatusChangeOf, beq_false_of_ne htopic, Bool.false_and]
    rw [story_append, hforeign]
    exact h.told id s hfind
  · intro e' he' htopic'
    rcases List.mem_append.mp he' with hold | hnew
    · exact h.known e' hold htopic'
    · rw [List.mem_singleton] at hnew
      exact absurd (hnew ▸ htopic') htopic

/-- Nothing was announced of a subscription that is not stored. -/
theorem Sound.story_eq_nil (h : Sound uuids start l) {id : SubscriptionId}
    (hnew : id ∉ l.store.keys) : l.story id = [] := by
  refine List.filter_eq_nil_iff.mpr fun e he habout => ?_
  rw [Envelope.isStatusChangeOf, Bool.and_eq_true, beq_iff_eq, beq_iff_eq] at habout
  obtain ⟨other, hother, htext⟩ := h.known e he habout.1
  have hid : id = other := SubscriptionId.text_injective (habout.2.symm.trans htext)
  exact hnew (hid ▸ hother)

/-- A UUID that is new is not that of a stored subscription. -/
theorem Sound.fresh (h : Sound uuids start l)
    (hdistinct : Set.InjOn uuids (Set.Ico start (l.drawn + 1))) :
    (⟨uuids l.drawn⟩ : SubscriptionId) ∉ l.store.keys := by
  intro hmem
  obtain ⟨i, hstart, hi, heq⟩ := h.taken _ hmem
  have hsame : l.drawn = i :=
    hdistinct ⟨h.begun, Nat.lt_succ_self _⟩ ⟨hstart, hi.trans (Nat.lt_succ_self _)⟩
      (SubscriptionId.mk.inj heq)
  omega

/-- A subscription that is saved under a UUID which was never drawn before begins its
story: it has no announcement yet, and is active. -/
theorem Sound.created (h : Sound uuids start l)
    (hdistinct : Set.InjOn uuids (Set.Ico start (l.drawn + 1))) {s : Subscription}
    (hid : s.id = ⟨uuids l.drawn⟩) (hstatus : s.status = .active) :
    Sound uuids start ⟨l.store.save s, l.handed, l.drawn + 1⟩ := by
  have hnew := h.fresh hdistinct
  rw [← hid] at hnew
  have hkeys : (l.store.save s).keys = l.store.keys ++ [s.id] := by
    rw [SubscriptionStore.save, OrderedMap.keys_set, if_neg hnew]
  refine ⟨h.begun.trans (Nat.le_succ _), h.keyed.set rfl, ?_, ?_, ?_⟩
  · intro id hmem
    rw [hkeys] at hmem
    rcases List.mem_append.mp hmem with hold | hlast
    · obtain ⟨i, hstart, hi, heq⟩ := h.taken id hold
      exact ⟨i, hstart, hi.trans (Nat.lt_succ_self _), heq⟩
    · rw [List.mem_singleton] at hlast
      exact ⟨l.drawn, h.begun, Nat.lt_succ_self _, hlast.trans hid⟩
  · intro id s' hfind
    rw [SubscriptionStore.save, OrderedMap.find?_set] at hfind
    split at hfind
    · rename_i heq
      cases hfind
      show StatusChain .active (l.story id) s.status
      rw [← heq, h.story_eq_nil hnew]
      exact hstatus.symm
    · exact h.told id s' hfind
  · intro e he htopic
    obtain ⟨id, hmem, htext⟩ := h.known e he htopic
    refine ⟨id, ?_, htext⟩
    rw [hkeys]
    exact List.mem_append_left _ hmem

section Written

variable {id : SubscriptionId} {s s' : Subscription} {tr : Transition}
  (hfind : l.store.find? id = some s) (hmoves : s.Moves tr s')

include hfind hmoves

theorem Sound.id_written (h : Sound uuids start l) : s'.id = id :=
  hmoves.id.trans (h.keyed id s hfind)

/-- A subscription that is written with the status that it had needs no announcement. -/
theorem Sound.kept (h : Sound uuids start l) (hsame : s.status = s'.status) :
    Sound uuids start { l with store := OrderedMap.set l.store id s' } := by
  have hkeys := OrderedMap.keys_set_of_find? hfind s'
  refine ⟨h.begun, h.keyed.set (h.id_written hfind hmoves), ?_, ?_, ?_⟩
  · intro other hother
    exact h.taken other (hkeys ▸ hother)
  · intro other s'' hfind'
    rw [OrderedMap.find?_set] at hfind'
    split at hfind'
    · rename_i heq
      cases hfind'
      rw [← heq, ← hsame]
      exact h.told id s hfind
    · exact h.told other s'' hfind'
  · intro e he htopic
    obtain ⟨other, hother, htext⟩ := h.known e he htopic
    exact ⟨other, hkeys ▸ hother, htext⟩

/-- A change of status with its announcement is the next entry of the story: it begins
at the status that the story had come to. -/
theorem Sound.changed (h : Sound uuids start l) {e : Envelope} (hchanged : s.status ≠ s'.status)
    (hannounces : s.Announces s' e) :
    Sound uuids start ⟨OrderedMap.set l.store id s', l.handed ++ [e], l.drawn + 1⟩ := by
  have hkeys := OrderedMap.keys_set_of_find? hfind s'
  have haggregate : e.aggregateId = id.text := by
    rw [hannounces.aggregateId, h.id_written hfind hmoves]
  refine ⟨h.begun.trans (Nat.le_succ _), h.keyed.set (h.id_written hfind hmoves), ?_, ?_, ?_⟩
  · intro other hother
    obtain ⟨i, hstart, hi, heq⟩ := h.taken other (hkeys ▸ hother)
    exact ⟨i, hstart, hi.trans (Nat.lt_succ_self _), heq⟩
  · intro other s'' hfind'
    rw [OrderedMap.find?_set] at hfind'
    rw [story_append]
    split at hfind'
    · rename_i heq
      cases hfind'
      subst heq
      have habout : e.isStatusChangeOf id = true := by
        rw [Envelope.isStatusChangeOf, hannounces.topic, haggregate, beq_self_eq_true,
          beq_self_eq_true, Bool.and_true]
      rw [if_pos habout]
      exact (h.told id s hfind).append hannounces.source hannounces.target hchanged hmoves.legal
    · rename_i hne
      have hforeign : ¬ e.isStatusChangeOf other = true := by
        rw [Envelope.isStatusChangeOf, haggregate, Bool.and_eq_true, beq_iff_eq, beq_iff_eq]
        exact fun habout => hne (SubscriptionId.text_injective habout.2)
      rw [if_neg hforeign]
      exact h.told other s'' hfind'
  · intro e' he' htopic
    rcases List.mem_append.mp he' with hold | hnew
    · obtain ⟨other, hother, htext⟩ := h.known e' hold htopic
      exact ⟨other, hkeys ▸ hother, htext⟩
    · rw [List.mem_singleton] at hnew
      refine ⟨id, ?_, hnew ▸ haggregate⟩
      rw [hkeys]
      exact OrderedMap.mem_keys_iff.mpr ⟨s, hfind⟩

end Written

/-- **One step.**  A step keeps the ledger sound while UUIDs are distinct. -/
theorem Sound.step (h : Sound uuids start l) (hstep : Step uuids l l')
    (hdistinct : Set.InjOn uuids (Set.Ico start l'.drawn)) : Sound uuids start l' := by
  cases hstep with
  | drew => exact h.drew
  | other e htopic => exact h.other htopic
  | created s hid hstatus => exact h.created hdistinct hid hstatus
  | kept id s s' tr hfind hmoves hsame => exact h.kept hfind hmoves hsame
  | changed id s s' tr e hfind hmoves hchanged hannounces =>
      exact h.changed hfind hmoves hchanged hannounces

/-- **Any number of steps.** The induction is on the steps, whose drawn UUIDs are
distinct as long as those of the whole way are. -/
theorem Sound.reach (h : Sound uuids start l) (hreach : Reach uuids l l')
    (hdistinct : Set.InjOn uuids (Set.Ico start l'.drawn)) : Sound uuids start l' := by
  induction hreach with
  | refl => exact h
  | tail _ hstep ih =>
      refine (ih (hdistinct.mono ?_)).step hstep hdistinct
      exact fun i hi => ⟨hi.1, hi.2.trans_le hstep.drawn_le⟩

end Ledger

end SubscriptionBilling
