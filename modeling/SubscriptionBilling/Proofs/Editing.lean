import SubscriptionBilling.Proofs.Course
import SubscriptionBilling.Proofs.History
import SubscriptionBilling.Proofs.Keyed
import SubscriptionBilling.Proofs.Slots
/-!
# What the store of subscriptions remembers

The callers of the store save subscriptions and modify stored ones, each time
with a revision of their own: it is given a copy, leaves the copy in any state,
and accepts or refuses what it made.  `edited` makes a sequence of such edits and
keeps a log of what each was answered.

Two readings of the log say what the store shows afterwards, whatever the edits
were: under each identifier it has what was written there last (`lastWritten`),
and its order is that of the first saves (`firstSaved`).  `Remembers` is this;
`Remembers.edit` says that one edit keeps it so, and `remembers_course` that a
sequence does.  Calls make an edit as the store does (`trial_together`), and so
does the layout in two parts (`slots_together`), which keeps the copies of the
callers to itself.

`edited_shows` is all of it: what the calls show after the edits, what the layout
shows after the same ones (`Lays`), and what one more modification would come to.
-/

namespace SubscriptionBilling

/-- A revision as an update of the store: of a refused one nothing comes back. -/
def Revision.update (revision : Revision) (s : Subscription) :
    Except Failure (Unit × Subscription) :=
  (revision s).1.map fun _ => ((), (revision s).2)

/-- What the callers of the store ask for. -/
inductive Edit where
  | save (s : Subscription)
  | modify (id : SubscriptionId) (revision : Revision)

/-- How an edit is answered: a modification tells what it stored. -/
abbrev Edit.Answer := Except Failure (Option Subscription)

/-- Edits with their answers, the first one first. -/
abbrev Edit.Log := List (Edit × Edit.Answer)

namespace Edit

/-- The call that an edit makes. -/
def service {H : Type} : Edit → Service H (Option Subscription)
  | save s => do
    Subscriptions.save s
    return none
  | modify id revision => do
    let (_, s) ← Subscriptions.modify id fun _ => revision.update
    return some s

/-- What an edit comes to in a store. -/
def inStore (store : SubscriptionStore) : Edit → Answer × SubscriptionStore
  | save s => (.ok none, store.save s)
  | modify id revision =>
    match store.modify id revision.update with
    | .error failure => (.error failure, store)
    | .ok (r, store) => (.ok (some r.2), store)

/-- What an edit comes to in a store in two parts. -/
def inSlots (slots : Slots) : Edit → Answer × Slots
  | save s => (.ok none, slots.save s)
  | modify id revision =>
    ((slots.modify id revision).1.map some, (slots.modify id revision).2)

/-- An accepted copy has the identifier that the caller was given. -/
def KeepsId : Edit → Prop
  | save _ => True
  | modify _ revision => ∀ s, (revision s).1 = .ok () → (revision s).2.id = s.id

/-- What an edit wrote, and under which identifier. -/
def written : Edit × Answer → Option (SubscriptionId × Subscription)
  | (save s, _) => some (s.id, s)
  | (modify id _, .ok (some s)) => some (id, s)
  | (modify _ _, _) => none

/-- What was written last under an identifier. -/
def lastWritten (log : Log) (id : SubscriptionId) : Option Subscription :=
  (log.filterMap written).reverse.lookup id

/-- The identifier that an edit saves under. -/
def savedUnder : Edit → Option SubscriptionId
  | save s => some s.id
  | modify _ _ => none

/-- The identifiers in the order of their first save. -/
def firstSaved (edits : List Edit) : List SubscriptionId :=
  (edits.filterMap savedUnder).eraseDups

/-- One more entry of the log matters under the one identifier that it writes to, if it
writes at all. -/
theorem lastWritten_snoc (log : Log) (entry : Edit × Answer) (id : SubscriptionId) :
    lastWritten (log ++ [entry]) id =
      match written entry with
      | some (key, s) => if key = id then some s else lastWritten log id
      | none => lastWritten log id := by
  rw [lastWritten, List.filterMap_append]
  cases hwritten : written entry with
  | none => simp [hwritten, lastWritten]
  | some pair =>
      obtain ⟨key, s⟩ := pair
      rw [List.filterMap_cons_some hwritten]
      exact lookup_reverse_snoc (log.filterMap written) key id s

/-- Without repetitions, a list that gets one more item is as it was if it has that item
already, and has it behind the others if not. -/
theorem eraseDups_snoc {α : Type} [DecidableEq α] (as : List α) (a : α) :
    (as ++ [a]).eraseDups = if a ∈ as.eraseDups then as.eraseDups else as.eraseDups ++ [a] := by
  rw [List.eraseDups_append]
  by_cases hmem : a ∈ as
  · simp [List.removeAll, hmem]
  · simp [List.removeAll, hmem, List.eraseDups_cons]

/-- A first save goes behind the others, and any other edit leaves the order. -/
theorem firstSaved_snoc (edits : List Edit) (e : Edit) :
    firstSaved (edits ++ [e]) =
      match savedUnder e with
      | some id => if id ∈ firstSaved edits then firstSaved edits else firstSaved edits ++ [id]
      | none => firstSaved edits := by
  rw [firstSaved, List.filterMap_append]
  cases hsaved : savedUnder e with
  | none => simp [hsaved, firstSaved]
  | some id =>
      rw [List.filterMap_cons_some hsaved]
      exact eraseDups_snoc (edits.filterMap savedUnder) id

/-! ## One edit and all of them -/

/-- A store shows what a log says. -/
structure Remembers (log : Log) (store : SubscriptionStore) : Prop where
  found : ∀ id, store.find? id = lastWritten log id
  order : store.keys = firstSaved (log.map Prod.fst)

theorem remembers_empty : Remembers [] .empty := ⟨fun _ => rfl, rfl⟩

/-- A modification of what is not stored changes nothing, and the failure names the
identifier that was asked for. -/
theorem modify_absent {store : SubscriptionStore} {id : SubscriptionId}
    (hfind : store.find? id = none) (revision : Revision) :
    (modify id revision).inStore store = (.error (SubscriptionStore.missing id), store) := by
  simp only [inStore, SubscriptionStore.modify, hfind]

/-- A refused modification changes nothing, whatever became of the copy. -/
theorem modify_refused {store : SubscriptionStore} {id : SubscriptionId} {s : Subscription}
    (hfind : store.find? id = some s) {revision : Revision} {failure : Failure}
    (hrefuses : (revision s).1 = .error failure) :
    (modify id revision).inStore store = (.error failure, store) := by
  have hupdate : revision.update s = .error failure := by rw [Revision.update, hrefuses]; rfl
  simp only [inStore, SubscriptionStore.modify, hfind, hupdate]

/-- An accepted modification stores the copy in place of what was modified, and tells
the caller what it stored. -/
theorem modify_accepted {store : SubscriptionStore} {id : SubscriptionId} {s : Subscription}
    (hfind : store.find? id = some s) {revision : Revision} (haccepts : (revision s).1 = .ok ()) :
    (modify id revision).inStore store =
      (.ok (some (revision s).2), OrderedMap.set store id (revision s).2) := by
  have hupdate : revision.update s = .ok ((), (revision s).2) := by
    rw [Revision.update, haccepts]
    rfl
  simp only [inStore, SubscriptionStore.modify, hfind, hupdate]

/-- What writes nothing is as if it had not been asked for: neither the last writes nor
the order of the first saves are others. -/
theorem Remembers.unwritten {log : Log} {store : SubscriptionStore} (h : Remembers log store)
    (id : SubscriptionId) (revision : Revision) (failure : Failure) :
    Remembers (log ++ [(modify id revision, .error failure)]) store := by
  refine ⟨?_, ?_⟩
  · intro other
    rw [lastWritten_snoc]
    exact h.found other
  · rw [List.map_append, List.map_singleton, firstSaved_snoc]
    exact h.order

/-- **One edit.**  A store that shows what the log says still does so after one
more edit. -/
theorem Remembers.edit {log : Log} {store : SubscriptionStore} (h : Remembers log store)
    (e : Edit) : Remembers (log ++ [(e, (e.inStore store).1)]) (e.inStore store).2 := by
  cases e with
  | save s =>
      refine ⟨?_, ?_⟩
      · intro other
        rw [lastWritten_snoc]
        exact (OrderedMap.find?_set store s.id other s).trans (by rw [h.found other]; rfl)
      · rw [List.map_append, List.map_singleton, firstSaved_snoc, ← h.order]
        exact OrderedMap.keys_set store s.id s
  | modify id revision =>
      cases hfind : store.find? id with
      | none =>
          rw [modify_absent hfind]
          exact h.unwritten id revision _
      | some s =>
          cases hverdict : (revision s).1 with
          | error failure =>
              rw [modify_refused hfind hverdict]
              exact h.unwritten id revision failure
          | ok accepted =>
              rw [modify_accepted hfind hverdict]
              refine ⟨?_, ?_⟩
              · intro other
                rw [lastWritten_snoc, OrderedMap.find?_set, h.found other]
                rfl
              · rw [List.map_append, List.map_singleton, firstSaved_snoc]
                exact (OrderedMap.keys_set_of_find? hfind _).trans h.order

/-- **All edits.**  What a store shows goes by the log of everything since it was
empty. -/
theorem remembers_course (edits : List Edit) {log : Log} {store : SubscriptionStore}
    (h : Remembers log store) :
    Remembers (log ++ (course inStore edits store).1) (course inStore edits store).2 :=
  course_keeps (P := Remembers) (fun h e => h.edit e) edits h

/-- As long as accepted copies keep their identifiers, every subscription stands
under its own. -/
theorem KeepsId.keyed {e : Edit} (he : e.KeepsId) {store : SubscriptionStore} (h : store.Keyed) :
    (e.inStore store).2.Keyed := by
  cases e with
  | save s => exact h.set rfl
  | modify id revision =>
      cases hfind : store.find? id with
      | none =>
          rw [modify_absent hfind]
          exact h
      | some s =>
          cases hverdict : (revision s).1 with
          | error failure =>
              rw [modify_refused hfind hverdict]
              exact h
          | ok accepted =>
              have hid : (revision s).2.id = id := (he s hverdict).trans (h id s hfind)
              rw [modify_accepted hfind hverdict]
              exact h.set hid

/-- If every caller leaves the identifier of its copy alone, every subscription goes on
standing under its own one. -/
theorem keyed_course {edits : List Edit} (hkeeps : ∀ e ∈ edits, e.KeepsId)
    {store : SubscriptionStore} (h : store.Keyed) : (course inStore edits store).2.Keyed := by
  induction edits generalizing store with
  | nil => exact h
  | cons e rest ih =>
      have hfirst : e.KeepsId := hkeeps e List.mem_cons_self
      have hrest : ∀ e ∈ rest, e.KeepsId := fun e he => hkeeps e (List.mem_cons_of_mem _ he)
      exact ih hrest (hfirst.keyed h)

/-- The layout in two parts makes an edit as the store does.  Of a copy that is
refused it shows nothing, and so the two go on together whatever became of it. -/
theorem slots_together {slots : Slots} {store : SubscriptionStore} (h : slots.Holds store)
    (e : Edit) :
    (e.inSlots slots).1 = (e.inStore store).1 ∧
      (e.inSlots slots).2.Holds (e.inStore store).2 := by
  cases e with
  | save s => exact ⟨rfl, h.save s⟩
  | modify id revision =>
      cases hfind : store.find? id with
      | none =>
          rw [inSlots, Slots.modify_absent ((h.found id).trans hfind), modify_absent hfind]
          exact ⟨rfl, h⟩
      | some s =>
          have hfound : slots.find? id = some s := (h.found id).trans hfind
          cases hverdict : (revision s).1 with
          | error failure =>
              rw [inSlots, Slots.modify_refused hfound hverdict, modify_refused hfind hverdict]
              exact ⟨rfl, h⟩
          | ok accepted =>
              rw [inSlots, Slots.modify_accepted hfound hverdict, modify_accepted hfind hverdict]
              exact ⟨rfl, h.replace hfind (revision s).2⟩

/-! ## What callers see -/

/-- An edit as a call, while no call fails. -/
def inTrial (t : Trial World) (e : Edit) : Answer × Trial World :=
  Trial.run .smooth (e.service : Service Empty (Option Subscription)) t

/-- Calls for edits, one after the other. -/
def edited (edits : List Edit) (t : Trial World) : Log × Trial World := course inTrial edits t

/-- The subscriptions of a trial are those of a store. -/
def Keeps (t : Trial World) (store : SubscriptionStore) : Prop := t.state.subscriptions = store

/-- **One call.** It makes an edit as the store does, and answers it alike; nothing
fails in the calls themselves. -/
theorem trial_together {t : Trial World} {store : SubscriptionStore} (h : Keeps t store)
    (e : Edit) :
    (e.inTrial t).1 = (e.inStore store).1 ∧ Keeps (e.inTrial t).2 (e.inStore store).2 := by
  unfold Keeps at h ⊢
  subst h
  cases e with
  | save s =>
      rw [inTrial, service, Trial.run_bind, Trial.run_saveSubscription]
      exact ⟨rfl, rfl⟩
  | modify id revision =>
      rw [inTrial, service, Trial.run_bind, Trial.run_modify, inStore, Trial.modify]
      simp only [Plan.smooth]
      cases SubscriptionStore.modify t.state.subscriptions id revision.update <;> exact ⟨rfl, rfl⟩

/-- What the layout in two parts shows once the edits of a log were made, and what
one more modification would do to it. -/
structure Lays (edits : List Edit) (log : Log) (slots : Slots) : Prop where
  /-- The order has every identifier once, in the order of the first saves. -/
  order : slots.order = firstSaved edits ∧ slots.order.Nodup
  /-- The index leads to what was written last. -/
  found : ∀ id, slots.find? id = lastWritten log id
  /-- A listing goes through the order, and has what is the customer's by now. -/
  listing : ∀ customer, slots.ofCustomer customer =
    ((firstSaved edits).filterMap (lastWritten log)).filter (·.customer = customer)
  /-- There is nothing to modify, and both parts stay as they are. -/
  absent : ∀ id revision, lastWritten log id = none →
    slots.modify id revision = (.error (SubscriptionStore.missing id), slots)
  /-- The caller refuses, and both parts stay as they are, whatever it made of its
  copy. -/
  refused : ∀ id revision s failure, lastWritten log id = some s →
    (revision s).1 = .error failure → slots.modify id revision = (.error failure, slots)
  /-- The caller accepts, and the copy is written over what the index had. -/
  accepted : ∀ id revision s, lastWritten log id = some s → (revision s).1 = .ok () →
    slots.modify id revision = (.ok (revision s).2, slots.replace id (revision s).2)

/-- What the calls show once the edits of a log were made, and what one more
modification would come to. -/
structure Shows (edits : List Edit) (log : Log) (t : Trial World) : Prop where
  /-- Every edit was answered. -/
  logged : log.map Prod.fst = edits
  /-- An identifier leads to what was written under it last. -/
  found : ∀ id, (Trial.run .smooth (Subscriptions.find? id : Service Empty _) t).1 =
    .ok (lastWritten log id)
  /-- It leads to nothing just if nothing was ever saved under it. -/
  never : ∀ id, lastWritten log id = none ↔ ∀ s, .save s ∈ edits → s.id ≠ id
  /-- The order is that of the first saves, with every identifier once. -/
  order : t.state.subscriptions.keys = firstSaved edits ∧ (firstSaved edits).Nodup
  /-- A listing goes through the order, and has what is the customer's by now. -/
  listing : ∀ customer,
    (Trial.run .smooth (Subscriptions.ofCustomer customer : Service Empty _) t).1 =
      .ok (((firstSaved edits).filterMap (lastWritten log)).filter (·.customer = customer))
  /-- There is nothing to modify. -/
  absent : ∀ id revision, lastWritten log id = none →
    ((modify id revision).inTrial t).1 = .error (SubscriptionStore.missing id) ∧
      ((modify id revision).inTrial t).2.state.subscriptions = t.state.subscriptions
  /-- The revision is refused, whatever it made of its copy. -/
  refused : ∀ id revision s failure, lastWritten log id = some s →
    (revision s).1 = .error failure →
    ((modify id revision).inTrial t).1 = .error failure ∧
      ((modify id revision).inTrial t).2.state.subscriptions = t.state.subscriptions
  /-- The revision is accepted; its copy is stored, and nothing else changes. -/
  accepted : ∀ id revision s, lastWritten log id = some s → (revision s).1 = .ok () →
    ((modify id revision).inTrial t).1 = .ok (some (revision s).2) ∧
      ((modify id revision).inTrial t).2.state.subscriptions.keys = firstSaved edits ∧
      ∀ other, ((modify id revision).inTrial t).2.state.subscriptions.find? other =
        if id = other then some (revision s).2 else lastWritten log other
  /-- If accepted copies keep their identifiers, what is stored has its own. -/
  keyed : (∀ e ∈ edits, e.KeepsId) → SubscriptionStore.Keyed t.state.subscriptions
  /-- The layout in two parts answers alike, and shows the same. -/
  slots : (course inSlots edits .empty).1 = log ∧ Lays edits log (course inSlots edits .empty).2

/-- The order has just the identifiers that were saved under. -/
theorem mem_firstSaved {edits : List Edit} {id : SubscriptionId} :
    id ∈ firstSaved edits ↔ ∃ s, .save s ∈ edits ∧ s.id = id := by
  simp only [firstSaved, List.mem_eraseDups, List.mem_filterMap]
  constructor
  · rintro ⟨e, hmem, hsaved⟩
    cases e with
    | save s => exact ⟨s, hmem, Option.some.inj hsaved⟩
    | modify id revision => cases hsaved
  · rintro ⟨s, hmem, rfl⟩
    exact ⟨.save s, hmem, rfl⟩

/-- Nothing was written under an identifier just if nothing was ever saved under it,
since a modification needs something to modify. -/
theorem Remembers.never {log : Log} {store : SubscriptionStore} (h : Remembers log store)
    (id : SubscriptionId) :
    lastWritten log id = none ↔ ∀ s, .save s ∈ log.map Prod.fst → s.id ≠ id := by
  have hkey : id ∈ store.keys ↔ ∃ s, lastWritten log id = some s := by
    rw [OrderedMap.mem_keys_iff, h.found]
  rw [h.order, mem_firstSaved] at hkey
  rw [← Option.not_isSome_iff_eq_none, Option.isSome_iff_exists, ← hkey]
  simp only [not_exists, not_and]

/-- A listing of the store goes through the identifiers in the order of their first
saves, and has what was written last under each of them, as far as it is the customer's
by now. -/
theorem Remembers.listing {log : Log} {store : SubscriptionStore} (h : Remembers log store)
    (customer : CustomerId) :
    store.ofCustomer customer =
      ((firstSaved (log.map Prod.fst)).filterMap (lastWritten log)).filter
        (·.customer = customer) := by
  have hfound : store.find? = lastWritten log := funext h.found
  rw [SubscriptionStore.ofCustomer, OrderedMap.values_eq_filterMap, h.order, hfound]
  rfl

/-- A layout that holds what a store does shows what the log of the store says. -/
theorem Remembers.lays {log : Log} {store : SubscriptionStore} (h : Remembers log store)
    {slots : Slots} (hholds : slots.Holds store) : Lays (log.map Prod.fst) log slots := by
  have hfound : ∀ id, slots.find? id = lastWritten log id :=
    fun id => (hholds.found id).trans (h.found id)
  refine ⟨⟨hholds.order.trans h.order, ?_⟩, hfound, ?_, ?_, ?_, ?_⟩
  · rw [hholds.order]
    exact store.nodup
  · intro customer
    rw [hholds.ofCustomer, h.listing]
  · intro id revision hnone
    exact Slots.modify_absent ((hfound id).trans hnone) revision
  · intro id revision s failure hsome hrefuses
    exact Slots.modify_refused ((hfound id).trans hsome) hrefuses
  · intro id revision s hsome haccepts
    exact Slots.modify_accepted ((hfound id).trans hsome) haccepts

/-- **What a store shows.**  Begin with an empty store and make any edits.  The
calls show what was written last under each identifier, in the order of the first
saves, and so does the layout in two parts; a modification that is refused, or of
what is not stored, leaves both as they are. -/
theorem edited_shows (edits : List Edit) {w : World} (hempty : w.subscriptions = .empty) :
    Shows edits (edited edits (.new w)).1 (edited edits (.new w)).2 := by
  have hremembers := remembers_course edits remembers_empty
  have hlogged : (course inStore edits .empty).1.map Prod.fst = edits := map_fst_course edits _
  obtain ⟨hlog, hstore⟩ : (course inTrial edits (.new w)).1 = (course inStore edits .empty).1 ∧
      Keeps (course inTrial edits (.new w)).2 (course inStore edits .empty).2 :=
    course_together trial_together edits hempty
  obtain ⟨hslots, hholds⟩ : (course inSlots edits .empty).1 = (course inStore edits .empty).1 ∧
      (course inSlots edits .empty).2.Holds (course inStore edits .empty).2 :=
    course_together slots_together edits Slots.holds_empty
  have hkeyed : (∀ e ∈ edits, e.KeepsId) → (course inStore edits .empty).2.Keyed :=
    fun hkeeps => keyed_course hkeeps SubscriptionStore.keyed_empty
  rw [edited, hlog]
  generalize (course inTrial edits (.new w)).2 = t at hstore ⊢
  rw [List.nil_append] at hremembers
  generalize hmade : course inStore edits .empty = made at *
  obtain ⟨log, store⟩ := made
  dsimp only at *
  have hlays := hlogged ▸ hremembers.lays hholds
  have hone := trial_together hstore
  unfold Keeps at hstore hone
  subst hstore
  refine ⟨hlogged, ?found, ?never, ?order, ?listing, ?absent, ?refused, ?accepted, hkeyed,
    hslots, hlays⟩
  case found =>
    intro id
    rw [Trial.run_findSubscription, hremembers.found]
    rfl
  case never => exact hlogged ▸ hremembers.never
  case order =>
    have horder := hlogged ▸ hremembers.order
    exact ⟨horder, horder ▸ t.state.subscriptions.nodup⟩
  case listing =>
    intro customer
    rw [Trial.run_ofCustomer, hremembers.listing, hlogged]
    rfl
  case absent =>
    intro id revision hnone
    rw [(hone _).1, (hone _).2, modify_absent ((hremembers.found id).trans hnone)]
    exact ⟨rfl, rfl⟩
  case refused =>
    intro id revision s failure hsome hrefuses
    rw [(hone _).1, (hone _).2, modify_refused ((hremembers.found id).trans hsome) hrefuses]
    exact ⟨rfl, rfl⟩
  case accepted =>
    intro id revision s hsome haccepts
    have hfind := (hremembers.found id).trans hsome
    rw [(hone _).1, (hone _).2, modify_accepted hfind haccepts]
    refine ⟨rfl, ?_, ?_⟩
    · rw [OrderedMap.keys_set_of_find? hfind, hremembers.order, hlogged]
    · intro other
      rw [OrderedMap.find?_set, hremembers.found]

end Edit

namespace Sample

/-- Gives a subscription to somebody else. -/
def handOver : Revision := fun s => (.ok (), { s with customer := ⟨.ofNat 7⟩ })

/-- Cancels its copy and thinks better of it. -/
def thinkBetter : Revision := fun s =>
  (.error (.new .internalError "abort"), (s.cancel default).2)

/-- Two subscriptions of the customer are saved.  The first is handed over, the
second stays as it is, and what was never saved cannot be handed over. -/
def edits : List Edit :=
  [.save (subscription 2 .active), .save (subscription 3 .pastDue), .modify ⟨.ofNat 2⟩ handOver,
    .modify ⟨.ofNat 3⟩ thinkBetter, .modify ⟨.ofNat 4⟩ handOver]

end Sample

open Edit in
/-- The subscription that was handed over keeps its place and leaves the listing. -/
theorem edited_shows_handOver :
    Sample.start.subscriptions = .empty ∧
      ∃ log t, edited Sample.edits (.new Sample.start) = (log, t) ∧ Shows Sample.edits log t ∧
        log.map Prod.snd = [.ok none, .ok none,
          .ok (some { Sample.subscription 2 .active with customer := ⟨.ofNat 7⟩ }),
          .error (.new .internalError "abort"), .error (SubscriptionStore.missing ⟨.ofNat 4⟩)] ∧
        t.state.subscriptions.keys = [⟨.ofNat 2⟩, ⟨.ofNat 3⟩] ∧
        (Trial.run .smooth
            (Subscriptions.ofCustomer Sample.customer.id : Service Empty _) t).1 =
          .ok [Sample.subscription 3 .pastDue] := by
  have hempty : Sample.start.subscriptions = .empty := rfl
  have hshows := edited_shows Sample.edits hempty
  refine ⟨hempty, (edited Sample.edits (.new Sample.start)).1,
    (edited Sample.edits (.new Sample.start)).2, rfl, hshows, ?_, ?_, ?_⟩
  · cbv
  · rw [hshows.order.1]
    decide
  · rw [hshows.listing]
    cbv

end SubscriptionBilling
