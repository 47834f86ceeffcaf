import SubscriptionBilling.Proofs.Linking
import SubscriptionBilling.Proofs.PaidPeriod
import SubscriptionBilling.Proofs.Permanence
/-!
# What a listing shows

A listing is read off the stores, and nothing in the stores says how they came to
be what they are.  `listed_of_history` says it in terms of what happened.  A
customer is unknown until a sign-up inserted the record; what is listed was saved
for the customer, in this order; the status of each subscription is where the
last announcement of it led, or active if there is none; and it is paid until the
end of the period of the last invoice that wrote it.

Each of the four is kept by one errand first: `known_serve`, `Recorded.serve`,
the ledger, and `expiresAt_serve`.  Only the order and the statuses need the
UUIDs to be distinct.
-/

namespace SubscriptionBilling

/-! ## The last announcement -/

/-- A story ends where its last change leads, or where it began. -/
theorem StatusChain.last {source target : Status} {events : List Envelope}
    (h : StatusChain source events target) :
    (∃ e, events.getLast? = some e ∧ e.status? "to" = some target) ∨
      events = [] ∧ target = source := by
  induction events generalizing source with
  | nil => exact .inr ⟨rfl, Eq.symm h⟩
  | cons first rest ih =>
      obtain ⟨next, -, hto, -, -, hrest⟩ := h
      rw [List.getLast?_cons]
      rcases ih hrest with ⟨e, hlast, htarget⟩ | ⟨rfl, rfl⟩
      · rw [hlast]
        exact .inl ⟨e, rfl, htarget⟩
      · exact .inl ⟨first, rfl, hto⟩

/-- A status is read from its token only. -/
theorem Envelope.member?_of_status? {e : Envelope} {member : String} {s : Status}
    (h : e.status? member = some s) : e.payload.member? member = some (.string s.token) := by
  obtain ⟨token, htext, hparse⟩ := Option.bind_eq_some_iff.mp h
  obtain ⟨value, hmember, hvalue⟩ := Option.bind_eq_some_iff.mp htext
  have htoken : token = s.token := by
    refine Status.parse_eq_ok_iff.mp ?_
    cases hread : Status.parse token with
    | error e => simp [hread, Except.toOption] at hparse
    | ok s' => simpa [hread, Except.toOption] using hparse
  rw [hmember, Json.text?_eq_some_iff.mp hvalue, htoken]

namespace Trial

/-- The last announcement of a subscription that was handed over says what its
status is, and without any it is active. -/
def Told (t : Trial World) (id : SubscriptionId) (status : Status) : Prop :=
  (∃ e, (t.ledger.story id).getLast? = some e ∧
    e.payload.member? "to" = some (.string status.token)) ∨
    t.ledger.story id = [] ∧ status = .active

/-- In a sound ledger the status of a stored subscription is the one that its story has
come to. -/
theorem told_of_sound {t : Trial World} {uuids : Nat → Uuid} {start : Nat}
    (h : Ledger.Sound uuids start t.ledger) {id : SubscriptionId} {s : Subscription}
    (hfind : t.state.subscriptions.find? id = some s) : t.Told id s.status := by
  rcases (h.told id s hfind).last with ⟨e, hlast, htarget⟩ | hnothing
  · exact .inl ⟨e, hlast, Envelope.member?_of_status? htarget⟩
  · exact .inr hnothing

/-- Without subscriptions to begin with, the ledger is sound as long as no UUID was
taken twice. -/
theorem Evolution.sound {w : World} (hempty : w.subscriptions = .empty) {t : Trial World}
    (hevolution : Evolution (.new w) t)
    (hdistinct : Set.InjOn w.supply.uuids (Set.Ico w.supply.drawn t.state.supply.drawn)) :
    Ledger.Sound w.supply.uuids w.supply.drawn t.ledger := by
  have hstart : (Trial.new w).ledger = ⟨.empty, [], w.supply.drawn⟩ := by
    rw [← hempty]
    rfl
  have hreach := hevolution.reach
  rw [hstart] at hreach
  exact (Ledger.sound_empty w.supply.uuids w.supply.drawn).reach hreach hdistinct

end Trial

/-! ## The order of subscriptions -/

namespace SubscriptionStore

variable {paid : CustomerId → Prop} {before after : SubscriptionStore}

/-- A store that goes on without a new key has the same keys. -/
theorem Outlives.keys_eq (h : Outlives paid before after)
    (hold : ∀ id ∈ after.keys, id ∈ before.keys) : after.keys = before.keys := by
  obtain ⟨new, hkeys⟩ := h.order
  have hnodup : (before.keys ++ new).Nodup := hkeys ▸ after.nodup
  have hnone : new = [] := by
    refine List.eq_nil_iff_forall_not_mem.mpr fun id hid => ?_
    have hmem : id ∈ before.keys := hold id (hkeys ▸ List.mem_append_right _ hid)
    exact (List.nodup_append.mp hnodup).2.2 id hmem id hid rfl
  rw [← hkeys, hnone, List.append_nil]

/-- The identifiers and owners of what is stored, in the order of the keys. -/
theorem map_title_values (store : SubscriptionStore) :
    store.values.map Subscription.title =
      store.keys.filterMap fun id => (store.find? id).map Subscription.title := by
  rw [OrderedMap.values_eq_filterMap, List.map_filterMap]

end SubscriptionStore

namespace Trial

variable {t t' : Trial World}

/-- The store holds what was saved, in the order in which it was saved. -/
def Recorded (t : Trial World) : Prop :=
  (OrderedMap.values t.state.subscriptions).map Subscription.title =
    t.journal.saved.map Subscription.title

/-- What is listed for a customer was saved for the customer, in this order. -/
theorem Recorded.listing (h : Recorded t) (customer : CustomerId) :
    (SubscriptionStore.ofCustomer t.state.subscriptions customer).map Subscription.id =
      (t.journal.saved.filter fun s => s.customer == customer).map Subscription.id := by
  have htitles : ∀ subscriptions : List Subscription,
      (subscriptions.filter fun s => s.customer == customer).map Subscription.id =
        ((subscriptions.map Subscription.title).filter fun title =>
          title.2 == customer).map Prod.fst := by
    intro subscriptions
    rw [List.filter_map, List.map_map]
    rfl
  rw [SubscriptionStore.ofCustomer, htitles, h, ← htitles]

/-- The first subscription of a customer is new, if what was stored before keeps
its customer. -/
theorem Founds.not_mem_keys {owner : CustomerId} {s : Subscription} (h : Founds t t' owner s)
    (hkeyed : SubscriptionStore.Keyed t.state.subscriptions) {paid : CustomerId → Prop}
    (houtlives : SubscriptionStore.Outlives paid t.state.subscriptions t'.state.subscriptions) :
    s.id ∉ OrderedMap.keys t.state.subscriptions := by
  intro hmem
  obtain ⟨s₀, hfind⟩ := OrderedMap.mem_keys_iff.mp hmem
  obtain ⟨s', hfind', hadvances, -⟩ := houtlives.kept hfind
  rw [h.store, SubscriptionStore.save, OrderedMap.find?_set, if_pos rfl] at hfind'
  cases hfind'
  have howner : s₀.customer = owner := hadvances.customer.symm.trans h.customer
  have hkey : s₀.id = s.id := hkeyed s.id s₀ hfind
  have hlisted : s₀ ∈ SubscriptionStore.ofCustomer t.state.subscriptions owner :=
    (SubscriptionStore.mem_ofCustomer_iff hkeyed).mpr ⟨hkey.symm ▸ hfind, howner⟩
  rw [h.first] at hlisted
  exact absurd hlisted List.not_mem_nil

end Trial

open Trial

/-- An errand tends to subscriptions at most, or it founds the first one of a
customer. -/
theorem Errand.keeps_or_founds (plan : Plan) (e : Errand) (t : Trial World) :
    Keeps t (e.serve plan t) ∨ ∃ owner s, Founds t (e.serve plan t) owner s := by
  have hrequest : ∀ request : Request, Keeps t (request.serve plan t) ∨
      ∃ owner s, Founds t (request.serve plan t) owner s := by
    intro request
    rcases request.serve_cases plan t with hkeeps | ⟨-, -, customer, s, -, -, hfounds⟩
    · exact .inl hkeeps
    · exact .inr ⟨customer.id, s, hfounds⟩
  cases e with
  | webhook terms payload => exact hrequest (.webhook terms payload)
  | command id action => exact hrequest (.command id action)
  | delivery envelope => exact hrequest (.delivery envelope)
  | query customer =>
      obtain ⟨new, ⟨-, hsaved⟩, hserve⟩ := serve_query plan customer t
      rw [hserve]
      refine .inl (keeps_of_eq rfl ?_)
      rw [Journal.saved_append, hsaved, List.append_nil]

/-- **One errand.**  It saves a subscription behind the others, or none. -/
theorem Trial.Recorded.serve {plan : Plan} {e : Errand} {t : Trial World} (h : Recorded t)
    (hkeyed : SubscriptionStore.Keyed t.state.subscriptions) {paid : CustomerId → Prop}
    (houtlives : SubscriptionStore.Outlives paid t.state.subscriptions
      (e.serve plan t).state.subscriptions) : Recorded (e.serve plan t) := by
  rcases e.keeps_or_founds plan t with hkeeps | ⟨owner, s, hfounds⟩
  · obtain ⟨ids, htended⟩ := hkeeps.store
    have hkeys := houtlives.keys_eq fun id hid => by
      obtain ⟨s', hfind'⟩ := OrderedMap.mem_keys_iff.mp hid
      obtain ⟨s, hfind, -⟩ := htended.find_before hfind'
      exact OrderedMap.mem_keys_iff.mpr ⟨s, hfind⟩
    rw [Recorded, SubscriptionStore.map_title_values, hkeys,
      SubscriptionStore.filterMap_title htended.find_after, ← SubscriptionStore.map_title_values,
      hkeeps.saved]
    exact h
  · have hnew := hfounds.not_mem_keys hkeyed houtlives
    have hvalues : OrderedMap.values (e.serve plan t).state.subscriptions =
        OrderedMap.values t.state.subscriptions ++ [s] := by
      rw [hfounds.store, SubscriptionStore.save, OrderedMap.values,
        OrderedMap.entries_set_of_not_mem hnew, List.map_append]
      rfl
    rw [Recorded, hvalues, hfounds.saved, List.map_append, List.map_append, h]

namespace Errand

variable {plan : Plan} {t : Trial World} {errands : List Errand}

/-- **Any errands.** The store holds what was saved, in the order of the saves; the
induction is on the errands, of which each saves one subscription at most. -/
theorem Unspent.recorded (h : Unspent t (history plan errands t).state.supply.drawn)
    (hkeyed : SubscriptionStore.Keyed t.state.subscriptions) (hrecorded : Recorded t) :
    Recorded (history plan errands t) := by
  induction errands generalizing t with
  | nil => exact hrecorded
  | cons e rest ih =>
      have houtlives := h.outlives hkeyed
      have hrest :
          Unspent (e.serve plan t) (history plan rest (e.serve plan t)).state.supply.drawn :=
        h.after (e.evolution_serve plan t)
      exact ih hrest houtlives.keyed (hrecorded.serve hkeyed houtlives)

/-! ## What happened -/

/-- One of the errands did something at its moment. -/
def Happened (plan : Plan) (did : Errand → Trial World → Prop) (errands : List Errand)
    (t : Trial World) : Prop :=
  ∃ front e back, errands = front ++ e :: back ∧ did e (history plan front t)

/-- One more errand is served behind all the others. -/
theorem history_snoc (plan : Plan) (errands : List Errand) (e : Errand) (t : Trial World) :
    history plan (errands ++ [e]) t = e.serve plan (history plan errands t) :=
  history_append plan errands [e] t

variable {did : Errand → Trial World → Prop}

theorem not_happened_nil : ¬ Happened plan did [] t := by
  rintro ⟨front, e, back, hsplit, -⟩
  simp at hsplit

/-- **One more errand.** Something happened in a run with one more errand if it happened
before, or if this errand did it in the state that the others had led to. -/
theorem happened_snoc {e : Errand} :
    Happened plan did (errands ++ [e]) t ↔
      Happened plan did errands t ∨ did e (history plan errands t) := by
  constructor
  · rintro ⟨front, e', back, hsplit, hdid⟩
    rcases List.eq_nil_or_concat back with rfl | ⟨back, last, rfl⟩
    · obtain ⟨rfl, hlast⟩ := List.append_inj' hsplit rfl
      cases hlast
      exact .inr hdid
    · rw [List.concat_eq_append, ← List.cons_append, ← List.append_assoc] at hsplit
      obtain ⟨rfl, -⟩ := List.append_inj' hsplit rfl
      exact .inl ⟨front, e', back, rfl, hdid⟩
  · rintro (⟨front, e', back, rfl, hdid⟩ | hdid)
    · exact ⟨front, e', back ++ [e], by simp, hdid⟩
    · exact ⟨errands, e, [], rfl, hdid⟩

/-! ## Records of customers -/

/-- The errand is a sign-up that inserted the record of a customer. -/
def Inserts (plan : Plan) (customer : CustomerId) : Errand → Trial World → Prop
  | delivery e, t => ∃ s record, Provisioning.signUp e = .ok s ∧ customer = .ofUser s.user ∧
      record.id = customer ∧
      (Call.insertCustomer record, none) ∈ (Provisioning.deliver plan e t).calls ∧
      CustomerStore.insert t.state.customers record =
        .ok (Provisioning.deliver plan e t).after.state.customers
  | _, _ => False

/-- **One sign-up.**  A customer is stored after it who was stored before, or whose
record it inserted. -/
theorem known_delivery (plan : Plan) (customer : CustomerId) (e : Envelope) (t : Trial World) :
    ((Provisioning.deliver plan e t).after.state.customers.find? customer).isSome ↔
      (t.state.customers.find? customer).isSome ∨ Inserts plan customer (delivery e) t := by
  rcases Provisioning.deliver_cases plan e t with hidle | ⟨s, account, announced, answer, hstores⟩
  · have hsame : (Provisioning.deliver plan e t).after.state.customers = t.state.customers :=
      hidle.customers
    have hnone : ¬ Inserts plan customer (delivery e) t :=
      fun ⟨_, record, _, _, _, hcall, _⟩ => hidle.inserts record hcall
    rw [hsame, or_iff_left hnone]
  · have hfind : (Provisioning.deliver plan e t).after.state.customers.find? customer =
        if s.user = ⟨customer.uuid⟩ then some (Provisioning.customerOf s account)
        else t.state.customers.find? customer := hstores.find_after ⟨customer.uuid⟩
    rw [hfind]
    by_cases huser : s.user = ⟨customer.uuid⟩
    · have hcustomer : customer = .ofUser s.user := by
        rw [huser]
        rfl
      have hcall : (Call.insertCustomer (Provisioning.customerOf s account), none) ∈
          (Provisioning.deliver plan e t).calls := by
        rw [hstores.calls]
        simp
      rw [if_pos huser]
      exact iff_of_true rfl (.inr ⟨s, Provisioning.customerOf s account, hstores.signUp, hcustomer,
        hcustomer.symm, hcall, hstores.inserted⟩)
    · have hnone : ¬ Inserts plan customer (delivery e) t := by
        rintro ⟨s', record, hread, rfl, -⟩
        cases hread.symm.trans hstores.signUp
        exact huser rfl
      rw [if_neg huser, or_iff_left hnone]

/-- **One errand.** A customer is known afterwards just if it was known or the errand
inserted it; no errand forgets one. -/
theorem known_serve (plan : Plan) (customer : CustomerId) (e : Errand) (t : Trial World) :
    ((e.serve plan t).state.customers.find? customer).isSome ↔
      (t.state.customers.find? customer).isSome ∨ Inserts plan customer e t := by
  cases e with
  | delivery e => exact known_delivery plan customer e t
  | webhook terms payload =>
      rw [customers_aside plan (fun _ h => Errand.noConfusion h) t]
      exact (or_iff_left id).symm
  | command other action =>
      rw [customers_aside plan (fun _ h => Errand.noConfusion h) t]
      exact (or_iff_left id).symm
  | query other =>
      rw [customers_aside plan (fun _ h => Errand.noConfusion h) t]
      exact (or_iff_left id).symm

/-- **Any errands**, if there were no customers to begin with. -/
theorem known_history (plan : Plan) (errands : List Errand) (customer : CustomerId)
    (hempty : t.state.customers = .empty) :
    ((history plan errands t).state.customers.find? customer).isSome ↔
      Happened plan (Inserts plan customer) errands t := by
  induction errands using List.reverseRecOn with
  | nil =>
      have hnone : (history plan [] t).state.customers = .empty := hempty
      rw [hnone]
      exact iff_of_false Bool.false_ne_true not_happened_nil
  | append_singleton errands e ih => rw [history_snoc, known_serve, ih, happened_snoc]

/-! ## Paid periods -/

/-- The errand is a paid invoice that saved or renewed a subscription, for a period
that ends at an instant. -/
def PaysFor (plan : Plan) (id : SubscriptionId) (stop : Instant) : Errand → Trial World → Prop
  | webhook terms payload, t => ∃ webhook, Webhook.parse payload = .ok webhook ∧
      webhook.type = Routes.invoicePaidType ∧ terms.periodEnd t.state.clock = .ok stop ∧
      ((Request.webhook terms payload).calls plan t).Writes id
  | _, _ => False

/-- The last of the errands that paid for a subscription did so until an instant. -/
def LastPaid (plan : Plan) (errands : List Errand) (t : Trial World) (id : SubscriptionId)
    (stop : Instant) : Prop :=
  ∃ front e back, errands = front ++ e :: back ∧ PaysFor plan id stop e (history plan front t) ∧
    ¬ Happened plan (fun e t => ∃ later, PaysFor plan id later e t) back
      (history plan (front ++ [e]) t)

end Errand

/-- Whatever is stored was stored before, and is paid until the same instant. -/
def SubscriptionStore.Unextended (before after : SubscriptionStore) : Prop :=
  ∀ id s', after.find? id = some s' → ∃ s, before.find? id = some s ∧ s'.expiresAt = s.expiresAt

namespace SubscriptionStore

variable {before after : SubscriptionStore}

theorem unextended_refl (store : SubscriptionStore) : Unextended store store :=
  fun _ s hfind => ⟨s, hfind, rfl⟩

/-- Work that leaves the ends of the periods of what it works on alone leaves all of
them alone. -/
theorem Worked.unextended {related : Subscription → Subscription → Prop}
    {ids : List SubscriptionId} (h : Worked related ids before after)
    (hkept : ∀ {s s'}, related s s' → s'.expiresAt = s.expiresAt) : Unextended before after := by
  intro id s' hfind'
  have hkey : id ∈ before.keys := h.keys ▸ OrderedMap.mem_keys_iff.mpr ⟨s', hfind'⟩
  obtain ⟨s, hfind⟩ := OrderedMap.mem_keys_iff.mp hkey
  obtain ⟨s₁, hfind₁, hrelated⟩ := h.found hfind
  cases hfind'.symm.trans hfind₁
  rcases hrelated with rfl | ⟨-, hrelated⟩
  · exact ⟨s', hfind, rfl⟩
  · exact ⟨s, hfind, hkept hrelated⟩

end SubscriptionStore

namespace Trial

variable {H : Type} {plan : Plan} {t : Trial World} {data : Json}

/-- Work for the customer of a body leaves the ends of paid periods alone, if it
does so once the customer is known. -/
theorem unextended_forCustomer {type : String} {work : Customer → Service H Unit}
    (hwork : ∀ customer journal, SubscriptionStore.Unextended t.state.subscriptions
      (run plan (work customer) ⟨t.state, journal⟩).2.state.subscriptions) :
    SubscriptionStore.Unextended t.state.subscriptions
      (run plan (Routes.forCustomer data type work) t).2.state.subscriptions := by
  rcases forCustomer_cases plan data type work t with
    ⟨providerId, failure, -, hrun⟩ | ⟨new, -, -, hrun⟩
  · rw [hrun]
    exact SubscriptionStore.unextended_refl _
  · rw [hrun]
    cases CustomerStore.ofBody? t.state.customers data with
    | none => exact SubscriptionStore.unextended_refl _
    | some customer => exact hwork customer _

/-- The end of a subscription at the provider moves no end of a period. -/
theorem unextended_cancel :
    SubscriptionStore.Unextended t.state.subscriptions
      (run plan (Routes.cancel data : Service H Unit) t).2.state.subscriptions := by
  refine unextended_forCustomer fun customer journal => ?_
  rw [run_cancelAll]
  exact (worked_cancellation plan customer ⟨t.state, journal⟩).unextended
    fun hsettles => hsettles.period not_false

/-- A paid invoice whose period has no end in range extends nothing, since it fails
before it writes. -/
theorem unextended_renew {terms : Terms} {failure : Failure}
    (hperiod : terms.periodEnd t.state.clock = .error failure) :
    SubscriptionStore.Unextended t.state.subscriptions
      (run plan (Routes.renew terms data : Service H Unit) t).2.state.subscriptions := by
  refine unextended_forCustomer fun customer journal => ?_
  rw [run_renewAll, hperiod]
  exact SubscriptionStore.unextended_refl _

end Trial

namespace Errand

variable {plan : Plan} {t : Trial World} {errands : List Errand}

section Webhook

variable {terms : Terms} {payload : String} {webhook : Webhook}
  (hparse : Webhook.parse payload = .ok webhook)

include hparse

/-- An errand pays for a subscription just if it is a paid invoice that reads, its
period ends in range, and one of its calls writes the subscription. -/
theorem paysFor_iff {id : SubscriptionId} {stop : Instant} :
    PaysFor plan id stop (.webhook terms payload) t ↔
      webhook.type = Routes.invoicePaidType ∧ terms.periodEnd t.state.clock = .ok stop ∧
        ((Request.webhook terms payload).calls plan t).Writes id := by
  constructor
  · rintro ⟨webhook', hread, hpays⟩
    cases hread.symm.trans hparse
    exact hpays
  · exact fun hpays => ⟨webhook, hparse, hpays⟩

/-- A paid invoice pays for what it writes, and nothing else is paid for. -/
theorem expiresAt_paid (hpaid : webhook.type = Routes.invoicePaidType) {id : SubscriptionId}
    {s' : Subscription}
    (hfind : ((Errand.webhook terms payload).serve plan t).state.subscriptions.find? id = some s') :
    PaysFor plan id s'.expiresAt (.webhook terms payload) t ∨
      (¬ ∃ stop, PaysFor plan id stop (.webhook terms payload) t) ∧
        ∃ s, t.state.subscriptions.find? id = some s ∧ s'.expiresAt = s.expiresAt := by
  have hserve : (Errand.webhook terms payload).serve plan t =
      (run plan (Routes.renew terms webhook.data : Service Empty Unit) t).2 :=
    receive_paid plan t hparse hpaid terms
  rw [hserve] at hfind
  simp only [paysFor_iff hparse]
  cases hperiod : terms.periodEnd t.state.clock with
  | error failure =>
      refine .inr ⟨?_, unextended_renew hperiod id s' hfind⟩
      rintro ⟨stop, -, hstop, -⟩
      cases hstop
  | ok stop =>
      obtain ⟨new, hjournal, hwrote⟩ :=
        (pays_renew (H := Empty) plan webhook.data hperiod).paidIn
      have hcalls : (Request.webhook terms payload).calls plan t = new := by
        have hafter : (Request.webhook terms payload).serve plan t = _ := hserve
        rw [Request.calls, hafter, hjournal, List.drop_left]
      rw [hcalls]
      by_cases hwrites : new.Writes id
      · rw [hwrote.written id s' hwrites hfind]
        exact .inl ⟨hpaid, rfl, hwrites⟩
      · refine .inr ⟨?_, s', (hwrote.kept id hwrites).symm.trans hfind, rfl⟩
        rintro ⟨later, -, -, hpays⟩
        exact hwrites hpays

/-- Any other webhook leaves the ends of paid periods alone. -/
theorem unextended_webhook (hpaid : webhook.type ≠ Routes.invoicePaidType) :
    SubscriptionStore.Unextended t.state.subscriptions
      ((Errand.webhook terms payload).serve plan t).state.subscriptions := by
  have hserve : (Errand.webhook terms payload).serve plan t =
      (run plan (Routes.service terms webhook.type webhook.data : Service Empty Unit) t).2 :=
    congrArg Prod.snd (run_receive plan t hparse terms)
  rw [hserve, Routes.service, if_neg hpaid]
  split
  · exact unextended_cancel
  · exact SubscriptionStore.unextended_refl _

end Webhook

/-- **One errand.**  It pays for what is stored, or leaves the end of its period
alone. -/
theorem expiresAt_serve (e : Errand) {id : SubscriptionId} {s' : Subscription}
    (hfind : (e.serve plan t).state.subscriptions.find? id = some s') :
    PaysFor plan id s'.expiresAt e t ∨ (¬ ∃ stop, PaysFor plan id stop e t) ∧
      ∃ s, t.state.subscriptions.find? id = some s ∧ s'.expiresAt = s.expiresAt := by
  cases e with
  | webhook terms payload =>
      cases hparse : Webhook.parse payload with
      | error error =>
          have hsame : (webhook terms payload).serve plan t = t :=
            Request.serve_unreadable plan t hparse terms
          rw [hsame] at hfind
          refine .inr ⟨?_, s', hfind, rfl⟩
          rintro ⟨stop, webhook, hread, -⟩
          cases hread.symm.trans hparse
      | ok webhook =>
          by_cases hpaid : webhook.type = Routes.invoicePaidType
          · exact expiresAt_paid hparse hpaid hfind
          · refine .inr ⟨?_, unextended_webhook hparse hpaid id s' hfind⟩
            rintro ⟨stop, hpays⟩
            exact hpaid ((paysFor_iff hparse).mp hpays).1
  | command other action =>
      have hserve : (command other action).serve plan t =
          (turn plan (.command action) other t).2 :=
        congrArg Prod.snd (run_perform plan other action t)
      have hworked :=
        worked_turn plan (Update.command_leads action) (List.mem_singleton_self other) t
      rw [hserve] at hfind
      exact .inr ⟨fun ⟨_, hpays⟩ => hpays, hworked.unextended And.right id s' hfind⟩
  | delivery e =>
      have hsame : ((delivery e).serve plan t).state.subscriptions = t.state.subscriptions :=
        subscriptions_delivery plan e t
      rw [hsame] at hfind
      exact .inr ⟨fun ⟨_, hpays⟩ => hpays, s', hfind, rfl⟩
  | query customer =>
      obtain ⟨new, -, hserve⟩ := serve_query plan customer t
      rw [hserve] at hfind
      exact .inr ⟨fun ⟨_, hpays⟩ => hpays, s', hfind, rfl⟩

/-- An errand that pays is the last one that does, when nothing comes behind it. -/
theorem LastPaid.of_last {e : Errand} {id : SubscriptionId} {stop : Instant}
    (h : PaysFor plan id stop e (history plan errands t)) :
    LastPaid plan (errands ++ [e]) t id stop :=
  ⟨errands, e, [], rfl, h, not_happened_nil⟩

/-- An errand that does not pay leaves it with those before. -/
theorem LastPaid.snoc {e : Errand} {id : SubscriptionId} {stop : Instant}
    (h : LastPaid plan errands t id stop)
    (hnone : ¬ ∃ later, PaysFor plan id later e (history plan errands t)) :
    LastPaid plan (errands ++ [e]) t id stop := by
  obtain ⟨front, payer, back, rfl, hpays, hlast⟩ := h
  refine ⟨front, payer, back ++ [e], by simp, hpays, ?_⟩
  rw [happened_snoc, ← history_append, List.append_assoc, List.singleton_append, not_or]
  exact ⟨hlast, hnone⟩

/-- **Any errands**, if there were no subscriptions to begin with. -/
theorem lastPaid_history (plan : Plan) (errands : List Errand)
    (hempty : t.state.subscriptions = .empty) {id : SubscriptionId} {s : Subscription}
    (hfind : (history plan errands t).state.subscriptions.find? id = some s) :
    LastPaid plan errands t id s.expiresAt := by
  induction errands using List.reverseRecOn generalizing s with
  | nil =>
      have hnothing : t.state.subscriptions.find? id = some s := hfind
      rw [hempty] at hnothing
      cases hnothing
  | append_singleton errands e ih =>
      rw [history_snoc] at hfind
      rcases e.expiresAt_serve hfind with hpays | ⟨hnone, s₀, hfind₀, hsame⟩
      · exact .of_last hpays
      · rw [hsame]
        exact (ih hfind₀).snoc hnone

end Errand

/-! ## The listing -/

namespace Listing

/-- What a trial without failures makes of a listing: the views of what is stored, or
the refusal that names an unknown customer. -/
theorem run_subscriptions {H : Type} (t : Trial World) (customer : CustomerId) :
    (run .smooth (subscriptions customer : Service H (List View)) t).1 =
      if (t.state.customers.find? customer).isSome then
        .ok ((SubscriptionStore.ofCustomer t.state.subscriptions customer).map View.of)
      else .error (unknown customer) := by
  rw [subscriptions, run_bind, run_customerExists]
  cases (t.state.customers.find? customer).isSome <;> rfl

/-- What is shown of the subscriptions of a customer after some errands. -/
structure Shows (plan : Plan) (errands : List Errand) (t : Trial World) (customer : CustomerId)
    (views : List View) : Prop where
  /-- These are the stored subscriptions of the customer. -/
  stored : views = (SubscriptionStore.ofCustomer
    (Errand.history plan errands t).state.subscriptions customer).map View.of
  /-- They were saved for the customer, in this order. -/
  saved : views.map View.subscription = ((Errand.history plan errands t).journal.saved.filter
    fun s => s.customer == customer).map Subscription.id
  /-- Their statuses are where the last announcements led. -/
  status : ∀ v ∈ views, (Errand.history plan errands t).Told v.subscription v.status
  /-- They are paid until the end of the period of the last invoice. -/
  expiresAt : ∀ v ∈ views, Errand.LastPaid plan errands t v.subscription v.expiresAt

/-- The stored subscriptions of a customer show what happened, if there were none to
begin with and no UUID was taken twice. -/
theorem shows_stored (plan : Plan) (errands : List Errand) {w : World}
    (hempty : w.subscriptions = .empty)
    (hdistinct : Set.InjOn w.supply.uuids
      (Set.Ico w.supply.drawn (Errand.history plan errands (.new w)).state.supply.drawn))
    (customer : CustomerId) :
    Shows plan errands (.new w) customer ((SubscriptionStore.ofCustomer
      (Errand.history plan errands (.new w)).state.subscriptions customer).map View.of) := by
  have hsound := (Errand.evolution_history plan errands (.new w)).sound hempty hdistinct
  have hunspent :
      Errand.Unspent (.new w) (Errand.history plan errands (.new w)).state.supply.drawn := by
    refine ⟨hdistinct, fun i _ => ?_⟩
    show _ ∉ OrderedMap.keys w.subscriptions
    rw [hempty]
    exact List.not_mem_nil
  have hkeyed : SubscriptionStore.Keyed (Trial.new w).state.subscriptions := by
    show SubscriptionStore.Keyed w.subscriptions
    rw [hempty]
    exact SubscriptionStore.keyed_empty
  have hrecorded : Recorded (.new w) := by
    show (OrderedMap.values w.subscriptions).map Subscription.title = []
    rw [hempty]
    rfl
  have hstored : ∀ v ∈ (SubscriptionStore.ofCustomer
      (Errand.history plan errands (.new w)).state.subscriptions customer).map View.of,
      ∃ s, (Errand.history plan errands (.new w)).state.subscriptions.find? s.id = some s ∧
        v = View.of s := by
    intro v hv
    obtain ⟨s, hs, rfl⟩ := List.mem_map.mp hv
    exact ⟨s, (SubscriptionStore.mem_ofCustomer hsound.keyed hs).1, rfl⟩
  refine ⟨rfl, ?_, fun v hv => ?_, fun v hv => ?_⟩
  · rw [List.map_map]
    exact (hunspent.recorded hkeyed hrecorded).listing customer
  · obtain ⟨s, hfind, rfl⟩ := hstored v hv
    exact told_of_sound hsound hfind
  · obtain ⟨s, hfind, rfl⟩ := hstored v hv
    exact Errand.lastPaid_history plan errands hempty hfind

end Listing

open Errand in
/-- **What a listing shows.**  Begin with empty stores, and let errands of all kinds
come while any calls fail.  If no UUID is taken twice, a listing without failures
finds no such customer exactly if no sign-up inserted the record, and else it
shows what was saved for the customer, where the last announcements led, and
until when the last invoices paid. -/
theorem listed_of_history {H : Type} (plan : Plan) (errands : List Errand) {w : World}
    (hcustomers : w.customers = .empty) (hsubscriptions : w.subscriptions = .empty)
    {t : Trial World} (hhistory : history plan errands (.new w) = t)
    (hdistinct : Set.InjOn w.supply.uuids (Set.Ico w.supply.drawn t.state.supply.drawn))
    (customer : CustomerId) :
    ((run .smooth (Listing.subscriptions customer : Service H (List Listing.View)) t).1 =
        .error (Listing.unknown customer) ↔
      ¬ Happened plan (Inserts plan customer) errands (.new w)) ∧
    (Happened plan (Inserts plan customer) errands (.new w) → ∃ views,
      (run .smooth (Listing.subscriptions customer : Service H (List Listing.View)) t).1 =
        .ok views ∧ Listing.Shows plan errands (.new w) customer views) := by
  subst hhistory
  have hknown := known_history (t := .new w) plan errands customer hcustomers
  have hshows := Listing.shows_stored plan errands hsubscriptions hdistinct customer
  rw [Listing.run_subscriptions, ← hknown]
  refine ⟨?_, fun hfound => ⟨_, if_pos hfound, hshows⟩⟩
  split
  · rename_i hfound
    refine iff_of_false ?_ (not_not_intro hfound)
    intro h
    cases h
  · rename_i hunknown
    exact iff_of_true rfl hunknown

namespace Sample

/-- The user pays too early, signs up, pays, and falls behind. -/
def settling : List Errand :=
  [.webhook default paidByAda, .delivery signUp, .webhook default paidByAda,
    .command ⟨.ofNat 2⟩ .markPastDue]

theorem serve_paidByAda (plan : Plan) (t : Trial World) :
    (Errand.webhook default paidByAda).serve plan t =
      (run plan (Routes.renew default
        (.object [("object", .object [("customer", .string link)])]) : Service Empty Unit) t).2 :=
  congrArg Prod.snd (run_receive plan t parse_paidByAda default)

theorem serve_signUp (t : Trial World) :
    (Errand.delivery signUp).serve (.ofPublisher failing) t =
      (if (t.state.customers.find? (.ofUser ada.user)).isSome then (.ok (), t.lookedFor ada)
        else run (.ofPublisher failing) (Provisioning.enroll signUp ada : Service Empty Unit)
          (t.lookedFor ada) : Except Failure Unit × Trial World).2 :=
  congrArg Prod.snd (run_signUp (.ofPublisher failing) (fun _ _ => rfl) t)

set_option maxRecDepth 20000 in
/-- Four UUIDs are taken: for the account, the announcement of the customer, the
subscription, and the announcement that nobody hears. -/
theorem listed_settling :
    let t := Errand.history (.ofPublisher failing) settling (.new lobby)
    (t.state.supply.drawn,
      (run .smooth (Listing.subscriptions (.ofUser ada.user) :
        Service Empty (List Listing.View)) t).1.map
          (List.map fun v => (v.subscription, v.status))) =
      (4, .ok [(⟨.ofNat 2⟩, .pastDue)]) := by
  simp only [Errand.history, settling, List.foldl_cons, List.foldl_nil, serve_paidByAda,
    serve_signUp, Listing.run_subscriptions]
  cbv

end Sample

open Errand in
/-- The publisher is down when the subscription falls behind, and the listing shows
it. -/
theorem listed_of_history_unheard :
    Sample.lobby.customers = .empty ∧ Sample.lobby.subscriptions = .empty ∧
      ∃ t, history (.ofPublisher Sample.failing) Sample.settling (.new Sample.lobby) = t ∧
        Set.InjOn Sample.lobby.supply.uuids
          (Set.Ico Sample.lobby.supply.drawn t.state.supply.drawn) ∧
        Happened (.ofPublisher Sample.failing)
          (Inserts (.ofPublisher Sample.failing) (.ofUser Sample.ada.user)) Sample.settling
          (.new Sample.lobby) ∧
        ∃ views,
          (run .smooth (Listing.subscriptions (.ofUser Sample.ada.user) :
            Service Empty (List Listing.View)) t).1 = .ok views ∧
          views.map (fun v => (v.subscription, v.status)) = [(⟨.ofNat 2⟩, .pastDue)] ∧
          Listing.Shows (.ofPublisher Sample.failing) Sample.settling (.new Sample.lobby)
            (.ofUser Sample.ada.user) views := by
  obtain ⟨hdrawn, hlisted⟩ := Prod.mk.inj Sample.listed_settling
  generalize hhistory : history (.ofPublisher Sample.failing) Sample.settling
    (.new Sample.lobby) = t at hdrawn hlisted
  have hofNat : ∀ i < 4, ∀ j < 4, Uuid.ofNat i = Uuid.ofNat j → i = j := by decide
  have hdistinct : Set.InjOn Sample.lobby.supply.uuids
      (Set.Ico Sample.lobby.supply.drawn t.state.supply.drawn) := by
    rw [hdrawn]
    exact fun i hi j hj heq => hofNat i hi.2 j hj.2 heq
  obtain ⟨hunknown, hknown⟩ := listed_of_history (H := Empty) (.ofPublisher Sample.failing)
    Sample.settling rfl rfl hhistory hdistinct (.ofUser Sample.ada.user)
  have hinserted : Happened (.ofPublisher Sample.failing)
      (Inserts (.ofPublisher Sample.failing) (.ofUser Sample.ada.user)) Sample.settling
      (.new Sample.lobby) := by
    by_contra hnever
    rw [hunknown.mpr hnever] at hlisted
    cases hlisted
  obtain ⟨views, hanswer, hshows⟩ := hknown hinserted
  rw [hanswer] at hlisted
  exact ⟨rfl, rfl, t, rfl, hdistinct, hinserted, views, hanswer, Except.ok.inj hlisted, hshows⟩

end SubscriptionBilling
