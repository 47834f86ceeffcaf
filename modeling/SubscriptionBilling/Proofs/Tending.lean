import SubscriptionBilling.Proofs.History
import SubscriptionBilling.Proofs.SignUp
/-!
# What a request does to the subscriptions

A webhook or a command tends to stored subscriptions: they may change, but each
stays where it is and with its customer (`Trial.Tended`).  Only a paid invoice does
more, and only for a customer without subscriptions: it founds the first one
(`Trial.Founds`).  Which subscriptions are tended to is told by the listing of the
stored customer whom the body of the webhook refers to.

`Trial.Works` is what can be done for a customer, from a single turn
(`tended_turn`) to the whole of a webhook (`handled_service`).  `serve_webhook` and
`serve_command` say so of the two kinds of requests that write subscriptions, and
`serve_cases` of all requests.
-/

namespace SubscriptionBilling

/-- The subscriptions that were saved. -/
def Journal.saved (j : Journal) : List Subscription :=
  j.filterMap fun
    | (.saveSubscription s, none) => some s
    | _ => none

theorem Journal.saved_append (j k : Journal) : saved (j ++ k) = saved j ++ saved k :=
  List.filterMap_append

/-- Its identifier and whom it belongs to. -/
def Subscription.title (s : Subscription) : SubscriptionId × CustomerId := (s.id, s.customer)

/-! ## Stores that are tended to -/

namespace SubscriptionStore

/-- Every subscription stays where it is and with its customer, and those that are
not listed are as they were. -/
structure Tended (before after : SubscriptionStore) (ids : List SubscriptionId) : Prop where
  titles : ∀ id, (after.find? id).map Subscription.title = (before.find? id).map Subscription.title
  kept : ∀ id, id ∉ ids → after.find? id = before.find? id

variable {before mid after : SubscriptionStore} {ids ids' : List SubscriptionId}

theorem tended_refl (store : SubscriptionStore) (ids : List SubscriptionId) :
    Tended store store ids :=
  ⟨fun _ => rfl, fun _ _ => rfl⟩

/-- Some subscriptions that were tended, and then some others: all of them were. -/
theorem Tended.trans (h : Tended before mid ids) (h' : Tended mid after ids') :
    Tended before after (ids ++ ids') := by
  refine ⟨fun id => (h'.titles id).trans (h.titles id), fun id hid => ?_⟩
  rw [List.mem_append, not_or] at hid
  rw [h'.kept id hid.2, h.kept id hid.1]

/-- What was tended within some identifiers was tended within more of them. -/
theorem Tended.mono (h : Tended before after ids) (hids : ids ⊆ ids') :
    Tended before after ids' :=
  ⟨h.titles, fun id hid => h.kept id fun hmem => hid (hids hmem)⟩

/-- A subscription that is written with its old title is tended, and it is the only one.
-/
theorem tended_set {store : SubscriptionStore} {id : SubscriptionId} {s s' : Subscription}
    (hfind : store.find? id = some s) (htitle : s'.title = s.title) :
    Tended store (OrderedMap.set store id s') [id] := by
  refine ⟨fun other => ?_, fun other hother => ?_⟩
  · rw [OrderedMap.find?_set]
    split
    · rename_i heq
      rw [← heq, hfind, Option.map_some, Option.map_some, htitle]
    · rfl
  · rw [List.mem_singleton] at hother
    rw [OrderedMap.find?_set, if_neg (Ne.symm hother)]

/-- What is stored afterwards was stored before, under the same title. -/
theorem Tended.find_before (h : Tended before after ids) {id : SubscriptionId} {s' : Subscription}
    (hfind : after.find? id = some s') : ∃ s, before.find? id = some s ∧ s.title = s'.title := by
  have htitles := h.titles id
  rw [hfind, Option.map_some, eq_comm, Option.map_eq_some_iff] at htitles
  exact htitles

/-- What was stored before is stored afterwards, under the same title. -/
theorem Tended.find_after (h : Tended before after ids) {id : SubscriptionId} {s : Subscription}
    (hfind : before.find? id = some s) : ∃ s', after.find? id = some s' ∧ s'.title = s.title := by
  have htitles := h.titles id
  rw [hfind, Option.map_some, Option.map_eq_some_iff] at htitles
  exact htitles

/-- A keyed store that is tended stays keyed, since nobody gets another identifier. -/
theorem Tended.keyed (h : Tended before after ids) (hkeyed : before.Keyed) : after.Keyed := by
  intro id s' hfind
  obtain ⟨s, hbefore, htitle⟩ := h.find_before hfind
  exact (congrArg Prod.fst htitle).symm.trans (hkeyed id s hbefore)

end SubscriptionStore

namespace Trial

/-- Subscriptions were tended to, none was saved as a new one, and customers and
accounts are as they were. -/
structure Tended (t t' : Trial World) (ids : List SubscriptionId) : Prop where
  store : SubscriptionStore.Tended t.state.subscriptions t'.state.subscriptions ids
  saved : t'.journal.saved = t.journal.saved
  customers : t'.state.customers = t.state.customers
  gateway : t'.state.gateway = t.state.gateway

/-- The first subscription of a customer was saved, under the UUID that came
next; everything else is as it was. -/
structure Founds (t t' : Trial World) (owner : CustomerId) (s : Subscription) : Prop where
  id : s.id = ⟨t.state.nextUuid⟩
  customer : s.customer = owner
  first : SubscriptionStore.ofCustomer t.state.subscriptions owner = []
  store : t'.state.subscriptions = SubscriptionStore.save t.state.subscriptions s
  saved : t'.journal.saved = t.journal.saved ++ [s]
  customers : t'.state.customers = t.state.customers
  gateway : t'.state.gateway = t.state.gateway

/-- Subscriptions were tended to at most. -/
structure Keeps (t t' : Trial World) : Prop where
  store : ∃ ids, SubscriptionStore.Tended t.state.subscriptions t'.state.subscriptions ids
  saved : t'.journal.saved = t.journal.saved

/-- Nothing was done. -/
structure Idle (t t' : Trial World) : Prop where
  state : t'.state = t.state
  saved : t'.journal.saved = t.journal.saved

variable {plan : Plan} {t t' t'' : Trial World} {ids ids' : List SubscriptionId}

/-- To tend subscriptions saves none. -/
theorem Tended.keeps (h : Tended t t' ids) : Keeps t t' := ⟨⟨ids, h.store⟩, h.saved⟩

/-- What writes no subscription and saves none keeps everything. -/
theorem keeps_of_eq (hstore : t'.state.subscriptions = t.state.subscriptions)
    (hsaved : t'.journal.saved = t.journal.saved) : Keeps t t' := by
  refine ⟨⟨[], ?_⟩, hsaved⟩
  rw [hstore]
  exact SubscriptionStore.tended_refl _ []

theorem tended_refl (t : Trial World) (ids : List SubscriptionId) : Tended t t ids :=
  ⟨SubscriptionStore.tended_refl _ ids, rfl, rfl, rfl⟩

/-- What is idle tends to nothing. -/
theorem Idle.tended (h : Idle t t') (ids : List SubscriptionId) : Tended t t' ids := by
  refine ⟨?_, h.saved, congrArg World.customers h.state, congrArg World.gateway h.state⟩
  rw [h.state]
  exact SubscriptionStore.tended_refl _ ids

theorem Tended.trans (h : Tended t t' ids) (h' : Tended t' t'' ids') :
    Tended t t'' (ids ++ ids') :=
  ⟨h.store.trans h'.store, h'.saved.trans h.saved, h'.customers.trans h.customers,
    h'.gateway.trans h.gateway⟩

theorem Tended.mono (h : Tended t t' ids) (hids : ids ⊆ ids') : Tended t t' ids' :=
  ⟨h.store.mono hids, h.saved, h.customers, h.gateway⟩

/-- A call that saves no subscription tends to nothing, whatever its answer. -/
theorem tended_noted (t : Trial World) {c : Call} {answer : Option Failure}
    (hquiet : Journal.saved [(c, answer)] = []) (ids : List SubscriptionId) :
    Tended t (t.noted c answer) ids := by
  refine ⟨SubscriptionStore.tended_refl _ ids, ?_, rfl, rfl⟩
  rw [journal_noted, Journal.saved_append, hquiet, List.append_nil]

/-! ## Turns and passes -/

theorem tended_asked (id : SubscriptionId) (t : Trial World) (ids : List SubscriptionId) :
    Tended t (t.asked id) ids := by
  have hnoted : Tended t (t.noted (.modifySubscription id) none) ids := tended_noted t rfl ids
  exact ⟨hnoted.store, hnoted.saved, rfl, rfl⟩

/-- A subscription that is moved along the table is tended by it. -/
theorem tended_rewritten {id : SubscriptionId} {s s' : Subscription} {tr : Transition}
    (hfind : t.state.subscriptions.find? id = some s) (hmoves : s.Moves tr s') :
    Tended t (t.rewritten id s') [id] := by
  have htitle : s'.title = s.title := by
    rw [Subscription.title, hmoves.id, hmoves.customer]
    rfl
  exact ⟨SubscriptionStore.tended_set hfind htitle, (tended_asked id t []).saved, rfl, rfl⟩

/-- **One turn** tends to the subscription whose turn it is. -/
theorem tended_turn (plan : Plan) {update : Update} (hsound : update.Sound) (id : SubscriptionId)
    (t : Trial World) : Tended t (turn plan update id t).2 [id] := by
  have hturn := turn_cases plan update id t
  generalize turn plan update id t = x at hturn ⊢
  obtain ⟨result, t'⟩ := x
  dsimp only at hturn ⊢
  cases hturn with
  | blocked failure => exact tended_noted t rfl _
  | missing => exact tended_asked id t _
  | refused => exact tended_asked id t _
  | silent s s' tr hcall hfind hupdate hsame =>
      exact tended_rewritten hfind (hsound _ _ _ _ hupdate)
  | answered s s' tr answer hcall hfind hupdate hchanged hanswer =>
      have hwritten := tended_rewritten hfind (hsound _ _ _ _ hupdate)
      have hhanding : Tended (t.rewritten id s').drawn
          ((t.rewritten id s').handing (tr, s') answer) [] := tended_noted _ rfl []
      exact ⟨hwritten.store, hhanding.saved.trans hwritten.saved, rfl, rfl⟩

/-- **A pass** tends to those that are listed; the induction is on the listing, turn by
turn. -/
theorem tended_pass (plan : Plan) {update : Update} (hsound : update.Sound)
    (listed : List SubscriptionId) (t : Trial World) :
    Tended t (pass plan update listed t).2 listed := by
  induction listed generalizing t with
  | nil => exact tended_refl t []
  | cons id rest ih =>
      have hturn := tended_turn plan hsound id t
      rw [pass]
      rcases hfirst : turn plan update id t with ⟨result, t₁⟩
      rw [hfirst] at hturn
      cases result with
      | ok r => exact hturn.trans (ih t₁)
      | error failure => exact hturn.mono (List.cons_subset_cons id (List.nil_subset rest))

/-! ## Work for a customer -/

/-- The subscriptions of a customer. -/
def listed (t : Trial World) (customer : CustomerId) : List SubscriptionId :=
  (SubscriptionStore.ofCustomer t.state.subscriptions customer).map Subscription.id

/-- Something was done for a customer: the subscriptions were tended to, or the
first one was founded. -/
inductive Works (customer : CustomerId) (t t' : Trial World) : Prop
  | tended (h : Tended t t' (t.listed customer))
  | founded (s : Subscription) (h : Founds t t' customer s)

/-- Before the work, nothing happened that matters to it: the subscriptions are as they
were, and the next UUID is the same. -/
theorem Works.after {customer : CustomerId} (h : Works customer t' t'')
    (hbefore : Tended t t' []) (hstore : t'.state.subscriptions = t.state.subscriptions)
    (huuid : t'.state.nextUuid = t.state.nextUuid) : Works customer t t'' := by
  cases h with
  | tended h =>
      rw [listed, hstore] at h
      exact .tended (hbefore.trans h)
  | founded s h =>
      refine .founded s ⟨huuid ▸ h.id, h.customer, hstore ▸ h.first, hstore ▸ h.store, ?_,
        h.customers.trans hbefore.customers, h.gateway.trans hbefore.gateway⟩
      rw [h.saved, hbefore.saved]

/-- What is different after the work belongs to the customer: either it is new, or
it belonged to the customer before. -/
def Touches (customer : CustomerId) (t t' : Trial World) : Prop :=
  ∀ id, t'.state.subscriptions.find? id ≠ t.state.subscriptions.find? id →
    ∃ s', t'.state.subscriptions.find? id = some s' ∧ s'.customer = customer ∧
      (id = ⟨t.state.nextUuid⟩ ∨
        ∃ s, t.state.subscriptions.find? id = some s ∧ s.customer = customer)

/-- In a keyed store, work for a customer touches the subscriptions of that customer
only. -/
theorem Works.touches {customer : CustomerId} (h : Works customer t t')
    (hkeyed : SubscriptionStore.Keyed t.state.subscriptions) : Touches customer t t' := by
  intro id hchanged
  cases h with
  | tended h =>
      have hlisted : id ∈ t.listed customer := by
        by_contra hother
        exact hchanged (h.store.kept id hother)
      obtain ⟨s, hs, rfl⟩ := List.mem_map.mp hlisted
      obtain ⟨hfind, howner⟩ := SubscriptionStore.mem_ofCustomer hkeyed hs
      obtain ⟨s', hfind', htitle⟩ := h.store.find_after hfind
      exact ⟨s', hfind', (congrArg Prod.snd htitle).trans howner, .inr ⟨s, hfind, howner⟩⟩
  | founded s h =>
      rw [h.store, SubscriptionStore.save, OrderedMap.find?_set] at hchanged ⊢
      split at hchanged
      · rename_i heq
        exact ⟨s, if_pos heq, h.customer, .inl (heq.symm.trans h.id)⟩
      · exact absurd rfl hchanged

/-- Work for a customer leaves the customers and their accounts alone. -/
theorem Works.aside {customer : CustomerId} (h : Works customer t t') :
    t'.state.customers = t.state.customers ∧ t'.state.gateway = t.state.gateway := by
  cases h with
  | tended h => exact ⟨h.customers, h.gateway⟩
  | founded s h => exact ⟨h.customers, h.gateway⟩

/-- To save the first subscription is to found it, if it is let through. -/
theorem works_save (plan : Plan) {t : Trial World} {s : Subscription} {customer : CustomerId}
    (hid : s.id = ⟨t.state.nextUuid⟩) (hcustomer : s.customer = customer)
    (hfirst : SubscriptionStore.ofCustomer t.state.subscriptions customer = []) :
    Works customer t (save plan t.drawn.ticked s).2 := by
  rw [save]
  cases plan t.drawn.ticked.journal (.saveSubscription s) with
  | some failure =>
      have hnoted : Tended t.drawn.ticked
          (t.drawn.ticked.noted (.saveSubscription s) (some failure)) (t.listed customer) :=
        tended_noted _ rfl _
      exact .tended ⟨hnoted.store, hnoted.saved, rfl, rfl⟩
  | none => exact .founded s ⟨hid, hcustomer, hfirst, rfl, Journal.saved_append _ _, rfl, rfl⟩

/-- The work of a paid invoice for a customer: it tends to the subscriptions that are
listed, or founds the first one under the next UUID. -/
theorem works_renewal (plan : Plan) (terms : Terms) (data : Json) (customer : Customer)
    (period : Except Failure Instant) (t : Trial World) :
    Works customer.id t (renewal plan terms data customer period t).2 := by
  unfold renewal
  cases period with
  | error failure => exact .tended (tended_refl t _)
  | ok periodEnd =>
      have hlisting : Tended t (t.listing customer) [] := tended_noted t rfl []
      cases plan t.journal (.listSubscriptions customer.id) with
      | some failure => exact .tended (tended_noted t rfl _)
      | none =>
          refine Works.after ?_ hlisting rfl rfl
          have hmine : SubscriptionStore.ofCustomer (t.listing customer).state.subscriptions
              customer.id = SubscriptionStore.ofCustomer t.state.subscriptions customer.id := rfl
          dsimp only
          cases hlisted : SubscriptionStore.ofCustomer t.state.subscriptions customer.id with
          | nil => exact works_save plan rfl rfl (hmine.trans hlisted)
          | cons s rest =>
              refine .tended ?_
              rw [listed, hmine, hlisted]
              exact tended_pass plan (Update.renewal_sound periodEnd) _ _

/-- The work of a cancellation for a customer: it tends to the subscriptions that are
listed. -/
theorem works_cancellation (plan : Plan) (customer : Customer) (t : Trial World) :
    Works customer.id t (cancellation plan customer t).2 := by
  unfold cancellation
  cases plan t.journal (.listSubscriptions customer.id) with
  | some failure => exact .tended (tended_noted t rfl _)
  | none =>
      have hlisting : Tended t (t.listing customer) [] := tended_noted t rfl []
      exact .tended (hlisting.trans (tended_pass plan Update.cancellation_sound _ _))

/-! ## Requests -/

section Service

variable {H : Type} (plan : Plan) (t : Trial World) (terms : Terms) (type : String) (data : Json)

/-- Looking for the customer of a body leaves everything as it is. -/
theorem customerOf_idle : ∃ result t', run plan (Routes.customerOf data type : Service H _) t =
    (result, t') ∧ Idle t t' ∧
      ∀ found, result = .ok found → found = CustomerStore.ofBody? t.state.customers data := by
  rw [run_customerOf]
  cases hreference : Webhook.customerReference data with
  | none =>
      refine ⟨_, _, rfl, ⟨rfl, rfl⟩, fun found h => ?_⟩
      rw [CustomerStore.ofBody?, hreference]
      exact (Except.ok.inj h).symm
  | some providerId =>
      refine ⟨_, _, rfl, ⟨rfl, (tended_noted t rfl []).saved⟩, fun found h => ?_⟩
      cases hcall : plan t.journal (.findLinkedCustomer providerId) with
      | some failure =>
          rw [hcall] at h
          cases h
      | none =>
          rw [hcall] at h
          exact (Except.ok.inj h).symm

/-- What a webhook comes to: nothing, or work for the customer whom its body
refers to. -/
def Handled (t t' : Trial World) : Prop :=
  Idle t t' ∨
    ∃ customer, CustomerStore.ofBody? t.state.customers data = some customer ∧
      Works customer.id t t'

variable {plan t data}

/-- A webhook is handled by the work for the customer it is about, or by none. -/
theorem handled_forCustomer {work : Customer → Service H Unit}
    (hwork : ∀ customer t, Works customer.id t (run plan (work customer) t).2) :
    Handled data t (run plan (Routes.forCustomer data type work) t).2 := by
  obtain ⟨result, t', hlooked, hidle, hfound⟩ := customerOf_idle (H := H) plan t type data
  cases result with
  | error failure =>
      rw [run_forCustomer_error hlooked]
      exact .inl hidle
  | ok found =>
      cases found with
      | none =>
          rw [run_forCustomer_none hlooked]
          exact .inl hidle
      | some customer =>
          rw [run_forCustomer_some hlooked]
          exact .inr ⟨customer, (hfound _ rfl).symm, (hwork customer t').after (hidle.tended [])
            (congrArg World.subscriptions hidle.state) (congrArg World.nextUuid hidle.state)⟩

/-- **One webhook.** Whatever its type, it is handled by the work for the customer that
its body names, or by none. -/
theorem handled_service :
    Handled data t (run plan (Routes.service terms type data : Service H Unit) t).2 := by
  unfold Routes.service
  split
  · refine handled_forCustomer _ fun customer t => ?_
    rw [run_renewAll]
    exact (works_renewal plan terms data customer _ t.ticked).after
      ⟨SubscriptionStore.tended_refl _ [], rfl, rfl, rfl⟩ rfl rfl
  · split
    · refine handled_forCustomer _ fun customer t => ?_
      rw [run_cancelAll]
      exact works_cancellation plan customer t
    · exact .inl ⟨rfl, rfl⟩

end Service

end Trial

open Trial

namespace Request

variable (plan : Plan) (t : Trial World)

/-- A request with a webhook that is read comes to what the webhook's service does. -/
theorem serve_webhook {payload : String} {webhook : Webhook}
    (hparse : Webhook.parse payload = .ok webhook) (terms : Terms) :
    Handled webhook.data t (serve plan t (.webhook terms payload)) := by
  rw [serve, run_receive plan t hparse terms]
  exact handled_service terms webhook.type

/-- A request with a webhook that is not read does nothing at all. -/
theorem serve_unreadable {payload : String} {error : WebhookError}
    (hparse : Webhook.parse payload = .error error) (terms : Terms) :
    serve plan t (.webhook terms payload) = t := by
  rw [serve, run_receive_unread plan t _ hparse]

/-- A status command tends to one subscription. -/
theorem serve_command (id : SubscriptionId) (action : Action) :
    Tended t (serve plan t (.command id action)) [id] := by
  rw [serve, run_perform]
  exact tended_turn plan (Update.command_sound action) id t

/-- Webhooks and commands leave the customers and their accounts alone. -/
theorem serve_aside (request : Request) (hrecord : ∀ customer, request ≠ .record customer)
    (hdelivery : ∀ e, request ≠ .delivery e) :
    (request.serve plan t).state.customers = t.state.customers ∧
      (request.serve plan t).state.gateway = t.state.gateway := by
  cases request with
  | delivery e => exact absurd rfl (hdelivery e)
  | record customer => exact absurd rfl (hrecord customer)
  | command id action =>
      have htended := serve_command plan t id action
      exact ⟨htended.customers, htended.gateway⟩
  | webhook terms payload =>
      cases hparse : Webhook.parse payload with
      | error error =>
          rw [serve_unreadable plan t hparse terms]
          exact ⟨rfl, rfl⟩
      | ok webhook =>
          rcases serve_webhook plan t hparse terms with h | ⟨customer, -, h⟩
          · rw [h.state]
            exact ⟨rfl, rfl⟩
          · exact h.aside

/-- A sign-up is nothing to the subscriptions: it stores a customer at most. -/
theorem keeps_delivery (e : Envelope) : Keeps t (serve plan t (.delivery e)) := by
  have houtcome := Provisioning.handle_cases (H := Empty) plan e t
  rw [serve]
  generalize run plan (Provisioning.handle e : Service Empty Unit) t = r at houtcome ⊢
  obtain ⟨result, t'⟩ := r
  dsimp only at houtcome ⊢
  have hlooked : ∀ s, (t.lookedFor s).journal.saved = t.journal.saved :=
    fun s => (tended_noted t rfl []).saved
  have hoffered : ∀ s, (t.offered s).journal.saved = t.journal.saved :=
    fun s => (tended_noted (t.lookedFor s) rfl []).saved.trans (hlooked s)
  have henrolled : ∀ s account, (t.enrolled s account).journal.saved = t.journal.saved :=
    fun s account => (tended_noted (t.offered s) rfl []).saved.trans (hoffered s)
  cases houtcome with
  | unreadable failure hread => exact keeps_of_eq rfl rfl
  | unchecked s failure hread hcall => exact (tended_noted t rfl []).keeps
  | known s customer hread hfind => exact keeps_of_eq rfl (hlooked s)
  | unasked s failure hread hfind hcall =>
      exact keeps_of_eq rfl ((tended_noted (t.lookedFor s) rfl []).saved.trans (hlooked s))
  | declined s error hread hfind hoffer => exact keeps_of_eq rfl (hoffered s)
  | unstored s account failure hread hfind hoffer hcall =>
      exact keeps_of_eq rfl ((tended_noted (t.offered s) rfl []).saved.trans (hoffered s))
  | stored s account answer hread hfind hoffer hanswer =>
      exact keeps_of_eq rfl ((tended_noted (t.enrolled s account).drawn.ticked rfl []).saved.trans
        (henrolled s account))

/-- A customer saved from outside is nothing to the subscriptions. -/
theorem keeps_record (customer : Customer) : Keeps t (serve plan t (.record customer)) := by
  rw [serve, run_saveCustomer, saveCustomer]
  cases plan t.journal (.saveCustomer customer) with
  | some failure => exact (tended_noted t rfl []).keeps
  | none => exact keeps_of_eq rfl (tended_noted t rfl []).saved

/-- **One request.**  It tends to subscriptions at most, or it is a webhook that
founds the first one of a stored customer. -/
theorem serve_cases (request : Request) :
    Keeps t (request.serve plan t) ∨
      ∃ terms payload customer s, request = .webhook terms payload ∧
        customer ∈ t.state.customers.values ∧ Founds t (request.serve plan t) customer.id s := by
  cases request with
  | command id action => exact .inl (serve_command plan t id action).keeps
  | delivery e => exact .inl (keeps_delivery plan t e)
  | record customer => exact .inl (keeps_record plan t customer)
  | webhook terms payload =>
      cases hparse : Webhook.parse payload with
      | error error =>
          rw [serve_unreadable plan t hparse terms]
          exact .inl (keeps_of_eq rfl rfl)
      | ok webhook =>
          rcases serve_webhook plan t hparse terms with h | ⟨customer, hfound, h⟩
          · exact .inl (h.tended []).keeps
          · cases h with
            | tended h => exact .inl h.keeps
            | founded s h =>
                refine .inr ⟨terms, payload, customer, s, rfl, ?_, h⟩
                obtain ⟨providerId, -, hlinked⟩ := Option.bind_eq_some_iff.mp hfound
                exact List.mem_of_find?_eq_some hlinked

/-- The calls that a request made, with their answers. -/
def calls (request : Request) : Journal :=
  (request.serve plan t).journal.drop t.journal.length

/-- A request adds its own calls to the journal, behind all others. -/
theorem journal_serve (request : Request) :
    (request.serve plan t).journal = t.journal ++ request.calls plan t := by
  have hprefix : t.journal <+: (request.serve plan t).journal := by
    cases request <;> exact Activity.journal_isPrefix_trial _ _ _
  obtain ⟨new, hnew⟩ := hprefix
  rw [calls, ← hnew, List.drop_left]

end Request

/-- One more request is served behind all the others, in the state that they have led
to. -/
theorem Trial.history_snoc (plan : Plan) (requests : List Request) (request : Request)
    (t : Trial World) :
    history plan (requests ++ [request]) t = request.serve plan (history plan requests t) := by
  rw [history, List.foldl_append]
  rfl

end SubscriptionBilling
