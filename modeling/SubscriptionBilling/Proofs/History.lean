import SubscriptionBilling.Proofs.Delivery
import SubscriptionBilling.Proofs.Ledger
import SubscriptionBilling.Service.Provisioning
/-!
# Histories of requests

Webhooks, commands, sign-ups and customers saved from outside come in any order,
and any call of theirs may fail.  Each request takes the ledger of subscriptions
some steps further (`Evolves`), which is shown piece by piece for everything
that a service is made of.  With that, `statusChain_of_history` says that the
announcements of every stored subscription tell its story without a gap.
-/

namespace SubscriptionBilling

namespace Trial

/-- What a trial has come to, as far as subscriptions are concerned. -/
def ledger (t : Trial World) : Ledger :=
  ⟨t.state.subscriptions, t.journal.handed, t.state.supply.drawn⟩

/-- One trial goes on to another by steps of the ledger. -/
structure Evolution (t t' : Trial World) : Prop where
  uuids : t'.state.supply.uuids = t.state.supply.uuids
  reach : Ledger.Reach t.state.supply.uuids t.ledger t'.ledger

variable {t t' t'' : Trial World}

/-- Whatever leaves the supply of UUIDs and the ledger alone is an evolution without a
step. -/
theorem Evolution.of_eq (huuids : t'.state.supply.uuids = t.state.supply.uuids)
    (hledger : t'.ledger = t.ledger) : Evolution t t' := by
  refine ⟨huuids, ?_⟩
  rw [hledger]
  exact .refl

/-- One step of the ledger is an evolution, if the UUIDs still to come are as before. -/
theorem Evolution.step (huuids : t'.state.supply.uuids = t.state.supply.uuids)
    (hstep : Ledger.Step t.state.supply.uuids t.ledger t'.ledger) : Evolution t t' :=
  ⟨huuids, .single hstep⟩

theorem Evolution.refl (t : Trial World) : Evolution t t := .of_eq rfl rfl

/-- Two evolutions one after the other make one: their steps are put together, and both
draw from one supply. -/
theorem Evolution.trans (h : Evolution t t') (h' : Evolution t' t'') : Evolution t t'' := by
  refine ⟨h'.uuids.trans h.uuids, h.reach.trans ?_⟩
  rw [← h.uuids]
  exact h'.reach

/-- A call that hands nothing over leaves the ledger alone, whatever its answer. -/
theorem ledger_noted (t : Trial World) {c : Call} (hquiet : ∀ e, c ≠ .publish e)
    (answer : Option Failure) : (t.noted c answer).ledger = t.ledger := by
  have hnothing : Journal.handed [(c, answer)] = [] := by
    cases c <;> first | rfl | exact absurd rfl (hquiet _)
  rw [ledger, journal_noted, Journal.handed_append, hnothing, List.append_nil]
  rfl

/-! ## Activities that may fail -/

variable {H ε α β : Type}

/-- However its calls are answered, an activity takes the ledger some steps
further. -/
def Evolves (x : ExceptT ε (Activity H World) α) : Prop := ∀ plan t, Evolution t (run plan x t).2

theorem evolves_pure (a : α) : Evolves (pure a : ExceptT ε (Activity H World) α) :=
  fun _ t => .refl t

theorem evolves_throw (e : ε) : Evolves (throw e : ExceptT ε (Activity H World) α) :=
  fun _ t => .refl t

theorem evolves_ofExcept (x : Except ε α) :
    Evolves (liftM x : ExceptT ε (Activity H World) α) :=
  fun _ t => .refl t

/-- A service followed by another one evolves as far as it gets: if the first part
fails, its evolution is all there is. -/
theorem Evolves.bind {x : ExceptT ε (Activity H World) α}
    {f : α → ExceptT ε (Activity H World) β} (hx : Evolves x) (hf : ∀ a, Evolves (f a)) :
    Evolves (x >>= f) := by
  intro plan t
  have hfirst := hx plan t
  rcases hrun : run plan x t with ⟨result, t'⟩
  rw [hrun] at hfirst
  cases result with
  | error e =>
      rw [run_bind_error hrun]
      exact hfirst
  | ok a =>
      rw [run_bind_ok hrun]
      exact hfirst.trans (hf a plan t')

/-- What follows a result that is there already may rely on it. -/
theorem evolves_bind_ofExcept {x : Except ε α} {f : α → ExceptT ε (Activity H World) β}
    (hf : ∀ a, x = .ok a → Evolves (f a)) : Evolves (liftM x >>= f) := by
  intro plan t
  cases x with
  | error e => exact .refl t
  | ok a =>
      rw [run_bind_ok (run_ofExcept plan t (.ok a))]
      exact hf a rfl plan t

/-- A service that is caught when it fails evolves, and what catches it goes on from
where it failed. -/
theorem Evolves.tryCatch {x : ExceptT ε (Activity H World) α}
    {handler : ε → ExceptT ε (Activity H World) α} (hx : Evolves x)
    (hhandler : ∀ e, Evolves (handler e)) : Evolves (tryCatch x handler) := by
  intro plan t
  have hfirst := hx plan t
  rw [run_tryCatch]
  rcases hrun : run plan x t with ⟨result, t'⟩
  rw [hrun] at hfirst
  cases result with
  | ok a => exact hfirst
  | error e => exact hfirst.trans (hhandler e plan t')

/-! ## What services are made of -/

theorem evolves_tell (level : Log.Level) (message : String)
    (fields : List (String × Log.Value)) :
    Evolves (Service.tell level message fields : Service H Unit) :=
  fun _ t => .refl t

theorem evolves_world : Evolves (Service.world : Service H World) :=
  fun _ t => .refl t

theorem evolves_now : Evolves (Service.now : Service H Instant) :=
  fun _ _ => .of_eq rfl rfl

theorem evolves_freshUuid : Evolves (Service.freshUuid : Service H Uuid) :=
  fun _ _ => .step rfl .drew

/-- A change of anything but the subscriptions and the supply. -/
theorem evolves_change {f : World → World} (hsupply : ∀ w, (f w).supply = w.supply)
    (hstore : ∀ w, (f w).subscriptions = w.subscriptions) :
    Evolves (Service.change f : Service H Unit) := by
  intro plan t
  refine .of_eq (congrArg Supply.uuids (hsupply t.state)) ?_
  show (⟨(f t.state).subscriptions, t.journal.handed, (f t.state).supply.drawn⟩ : Ledger) = _
  rw [hstore, hsupply]
  rfl

/-- A call in the journal that is no publication is nothing to the ledger. -/
theorem evolution_noted (t : Trial World) {c : Call} (hquiet : ∀ e, c ≠ .publish e)
    (answer : Option Failure) : Evolution t (t.noted c answer) :=
  .of_eq rfl (ledger_noted t hquiet answer)

/-- A call that may fail is one entry in the journal; the ledger does not see it unless
it is a publication. -/
theorem evolves_attempt {c : Call} (hquiet : ∀ e, c ≠ .publish e) :
    Evolves (Service.attempt c : Service H Unit) := by
  intro plan t
  rw [run_attempt]
  exact evolution_noted t hquiet _

/-- What is published of another topic than the changes of status is a step of the
ledger that no story tells of. -/
theorem evolves_publish {e : Envelope} (htopic : e.topic ≠ StatusChanged.topic) :
    Evolves (Service.publish e : Service H Unit) := by
  intro plan t
  rw [run_publish]
  refine .step rfl ?_
  have hledger : (t.noted (.publish e) (plan t.journal (.publish e))).ledger =
      { t.ledger with handed := t.ledger.handed ++ [e] } := by
    rw [ledger, journal_noted, Journal.handed_append]
    rfl
  rw [hledger]
  exact .other e htopic

/-! ## Customers and accounts -/

theorem evolves_saveCustomer (customer : Customer) :
    Evolves (Customers.save customer : Service H Unit) :=
  (evolves_attempt fun _ h => Call.noConfusion h).bind fun _ =>
    evolves_change (fun _ => rfl) fun _ => rfl

theorem evolves_insertCustomer (customer : Customer) :
    Evolves (Customers.insert customer : Service H Unit) := by
  refine (evolves_attempt fun _ h => Call.noConfusion h).bind fun _ =>
    evolves_world.bind fun w => ?_
  cases CustomerStore.insert w.customers customer with
  | error failure => exact evolves_throw failure
  | ok store => exact evolves_change (fun _ => rfl) fun _ => rfl

theorem evolves_customerExists (id : CustomerId) :
    Evolves (Customers.exists? id : Service H Bool) :=
  ((evolves_attempt fun _ h => Call.noConfusion h).bind fun _ =>
    evolves_world.bind fun _ => evolves_pure _).bind fun _ => evolves_pure _

theorem evolves_findLinked (providerId : String) :
    Evolves (Customers.findLinked? providerId : Service H (Option Customer)) :=
  (evolves_attempt fun _ h => Call.noConfusion h).bind fun _ =>
    evolves_world.bind fun _ => evolves_pure _

theorem evolves_ofCustomer (customer : CustomerId) :
    Evolves (Subscriptions.ofCustomer customer : Service H (List Subscription)) :=
  (evolves_attempt fun _ h => Call.noConfusion h).bind fun _ =>
    evolves_world.bind fun _ => evolves_pure _

/-- What the gateway does is entered in its own books, and the ledger does not see it.
-/
theorem evolves_createAccount (r : AccountRequest) :
    Evolves (Accounts.create r : Service H Account) := by
  refine (evolves_attempt fun _ h => Call.noConfusion h).bind fun _ =>
    Evolves.bind ?_ fun answer => ?_
  · intro plan t
    rw [run_lift_service, trial_request]
    exact .step rfl .drew
  · cases answer with
    | error error => exact evolves_throw error.toFailure
    | ok account => exact evolves_pure account

/-! ## Sign-ups -/

/-- To store a customer, or to find that somebody else was faster, draws nothing and
writes to no subscription. -/
theorem evolves_store (customer : Customer) (user : UserId) :
    Evolves (Provisioning.store customer user : Service H Bool) := by
  refine Evolves.tryCatch ((evolves_insertCustomer customer).bind fun _ => evolves_pure true)
    fun failure => ?_
  split
  · exact (evolves_tell _ _ _).bind fun _ => evolves_pure false
  · exact evolves_throw failure

/-- The announcement of a customer is none of a subscription. -/
theorem topic_announcement {cause e : Envelope} {created : CustomerCreated}
    (h : Provisioning.announcement cause created = .ok e) :
    e.topic ≠ StatusChanged.topic := by
  have htopic : e.topic = DomainEvent.topic CustomerCreated := by
    unfold Provisioning.announcement at h
    cases hcorrelation : cause.lineage.correlation with
    | none =>
        rw [hcorrelation] at h
        cases h
        rfl
    | some correlation =>
        rw [hcorrelation] at h
        cases h
        rfl
  rw [htopic]
  decide

/-- To provision a customer for a sign-up evolves: what it announces is of another topic
than the changes of status. -/
theorem evolves_provision (e : Envelope) : Evolves (Provisioning.handle e : Service H Unit) := by
  refine (evolves_ofExcept _).bind fun user => (evolves_customerExists _).bind fun known => ?_
  cases known with
  | true => exact (evolves_tell _ _ _).bind fun _ => evolves_pure ()
  | false =>
    refine (evolves_createAccount _).bind fun account => (evolves_store _ _).bind fun stored => ?_
    cases stored with
    | false => exact evolves_pure ()
    | true =>
      refine (evolves_tell _ _ _).bind fun _ => evolves_freshUuid.bind fun id =>
        evolves_now.bind fun now => evolves_bind_ofExcept fun announced h => ?_
      exact evolves_publish (topic_announcement h)

/-! ## Subscriptions -/

/-- A modification that was asked for and failed leaves the ledger as it is. -/
theorem evolution_asked (id : SubscriptionId) (t : Trial World) : Evolution t (t.asked id) :=
  (evolution_noted t (c := .modifySubscription id) (fun _ h => Call.noConfusion h) none).trans
    (.of_eq rfl rfl)

/-- **A turn** is one step of the ledger or none: a write with the same status, or a
change together with its announcement, whether that is accepted or not. -/
theorem evolution_turn (plan : Plan) {update : Update} (hsound : update.Sound)
    (id : SubscriptionId) (t : Trial World) : Evolution t (turn plan update id t).2 := by
  have hturn := turn_cases plan update id t
  generalize turn plan update id t = x at hturn ⊢
  obtain ⟨result, t'⟩ := x
  dsimp only at hturn ⊢
  cases hturn with
  | blocked failure => exact evolution_noted t (fun _ h => Call.noConfusion h) _
  | missing => exact evolution_asked id t
  | refused => exact evolution_asked id t
  | silent s s' tr hcall hfind hupdate hsame =>
      have hmoves := hsound _ _ _ _ hupdate
      exact (evolution_asked id t).trans
        (.step rfl (.kept id s s' tr hfind hmoves (hmoves.unchanged_iff.mp hsame)))
  | answered s s' tr answer hcall hfind hupdate hchanged hanswer =>
      have hmoves := hsound _ _ _ _ hupdate
      let e := announcement (t.rewritten id s').state (tr, s')
      have hledger : ((t.rewritten id s').handing (tr, s') answer).ledger =
          ⟨OrderedMap.set t.ledger.store id s', t.ledger.handed ++ [e], t.ledger.drawn + 1⟩ := by
        rw [ledger, handed_handing]
        rfl
      refine .step rfl ?_
      rw [hledger]
      exact .changed id s s' tr e hfind hmoves (hmoves.changed_iff.mp hchanged)
        (announces_announcement _ hmoves)

/-- To renew one subscription is a turn, and so the ledger gets a change with its
announcement, or keeps the status. -/
theorem evolves_renewOne (customer : Customer) (periodEnd : Instant) (id : SubscriptionId) :
    Evolves (Routes.renewOne customer periodEnd id : Service H Unit) := by
  intro plan t
  rw [run_renewOne]
  exact evolution_turn plan (Update.renewal_sound periodEnd) id t

/-- To cancel one subscription is a turn like a renewal, only with another update. -/
theorem evolves_cancelOne (customer : Customer) (id : SubscriptionId) :
    Evolves (Routes.cancelOne customer id : Service H Unit) := by
  intro plan t
  rw [run_cancelOne]
  exact evolution_turn plan Update.cancellation_sound id t

/-- A status command is a turn as well, and it may be refused besides; then nothing is
written. -/
theorem evolves_perform (id : SubscriptionId) (action : Action) :
    Evolves (StatusChange.perform id action : Service H StatusChange.Report) := by
  intro plan t
  rw [run_perform]
  exact evolution_turn plan (Update.command_sound action) id t

/-- The first subscription takes its identifier and is saved under it, or the
UUID is wasted. -/
theorem evolves_subscribe (terms : Terms) (customer : Customer) (data : Json)
    (periodEnd : Instant) :
    Evolves (Routes.subscribe terms customer data periodEnd : Service H Unit) := by
  intro plan t
  rw [run_subscribe, save]
  let s := firstOf terms customer data periodEnd t.state
  have hquiet : ∀ e, Call.saveSubscription s ≠ .publish e := fun _ h => Call.noConfusion h
  cases plan t.drawn.ticked.journal (.saveSubscription s) with
  | some failure =>
      have hwasted : Evolution t t.drawn.ticked := .step rfl .drew
      exact hwasted.trans (evolution_noted t.drawn.ticked hquiet _)
  | none =>
      refine (evolution_noted t hquiet none).trans (.step rfl ?_)
      exact .created s rfl rfl

/-! ## Webhooks -/

/-- A pass over a listing evolves, since every turn in it does, up to the first that
fails. -/
theorem evolves_each {act : SubscriptionId → Service H Unit} (hact : ∀ id, Evolves (act id))
    (listed : List Subscription) : Evolves (Routes.each act listed) := by
  induction listed with
  | nil => exact evolves_pure ()
  | cons s rest ih => exact (hact s.id).bind fun _ => ih

/-- To find out who is meant by a webhook is a lookup, which the ledger does not see. -/
theorem evolves_customerOf (data : Json) (type : String) :
    Evolves (Routes.customerOf data type : Service H (Option Customer)) := by
  unfold Routes.customerOf
  split
  · exact (evolves_tell _ _ _).bind fun _ => evolves_pure none
  · refine (evolves_findLinked _).bind fun customer => ?_
    cases customer with
    | none => exact (evolves_tell _ _ _).bind fun _ => evolves_pure none
    | some customer => exact evolves_pure (some customer)

/-- A webhook that is about a customer evolves if the work for the customer does; if
nobody is meant there is no work. -/
theorem evolves_forCustomer {work : Customer → Service H Unit}
    (hwork : ∀ customer, Evolves (work customer)) (data : Json) (type : String) :
    Evolves (Routes.forCustomer data type work) := by
  refine (evolves_customerOf data type).bind fun customer => ?_
  cases customer with
  | none => exact evolves_pure ()
  | some customer => exact hwork customer

/-- A paid invoice evolves, in both of its ways: a pass over the subscriptions there
are, or a first one under a UUID that was just drawn. -/
theorem evolves_renew (terms : Terms) (data : Json) :
    Evolves (Routes.renew terms data : Service H Unit) := by
  refine evolves_forCustomer (fun customer => ?_) data _
  refine evolves_now.bind fun now => (evolves_ofExcept _).bind fun periodEnd =>
    (evolves_ofCustomer customer.id).bind fun existing => ?_
  split
  · exact evolves_subscribe terms customer data periodEnd
  · exact evolves_each (evolves_renewOne customer periodEnd) existing

theorem evolves_cancel (data : Json) : Evolves (Routes.cancel data : Service H Unit) :=
  evolves_forCustomer (fun customer => (evolves_ofCustomer customer.id).bind
    fun existing => evolves_each (evolves_cancelOne customer) existing) data _

/-- Whichever service a type of webhook leads to, it evolves; the default does nothing.
-/
theorem evolves_service (terms : Terms) (type : String) (data : Json) :
    Evolves (Routes.service terms type data : Service H Unit) := by
  unfold Routes.service
  split
  · exact evolves_renew terms data
  · split
    · exact evolves_cancel data
    · exact evolves_tell _ _ _

/-- The intake of a payload evolves: one that is not read does nothing, and one that is
read does what its service does. -/
theorem evolves_receive (terms : Terms) (payload : String) :
    Evolves (Intake.receive ⟨Routes.standard terms⟩ payload :
      ExceptT WebhookError (Activity H World) Intake.Receipt) := by
  intro plan t
  cases hparse : Webhook.parse payload with
  | error error =>
      rw [run_receive_unread plan t _ hparse]
      exact .refl t
  | ok webhook =>
      rw [run_receive plan t hparse terms]
      exact evolves_service terms webhook.type webhook.data plan t

end Trial

/-! ## Requests -/

/-- What the services are asked for. -/
inductive Request where
  | webhook (terms : Terms) (payload : String)
  | command (id : SubscriptionId) (action : Action)
  | delivery (e : Envelope)
  | record (customer : Customer)

/-- The state and the journal after a request, whatever came of it. -/
def Request.serve (plan : Plan) (t : Trial World) : Request → Trial World
  | webhook terms payload =>
    (Trial.run plan (Intake.receive ⟨Routes.standard terms⟩ payload :
      ExceptT WebhookError (Activity Empty World) Intake.Receipt) t).2
  | command id action =>
    (Trial.run plan (StatusChange.perform id action : Service Empty StatusChange.Report) t).2
  | delivery e => (Trial.run plan (Provisioning.handle e : Service Empty Unit) t).2
  | record customer => (Trial.run plan (Customers.save customer : Service Empty Unit) t).2

/-- **One request** takes the ledger some steps further, or none. -/
theorem Request.evolution_serve (plan : Plan) (t : Trial World) (request : Request) :
    Trial.Evolution t (request.serve plan t) := by
  cases request with
  | webhook terms payload => exact Trial.evolves_receive terms payload plan t
  | command id action => exact Trial.evolves_perform id action plan t
  | delivery e => exact Trial.evolves_provision e plan t
  | record customer => exact Trial.evolves_saveCustomer customer plan t

/-- The state and the journal after some requests, one after the other. -/
def Trial.history (plan : Plan) (requests : List Request) (t : Trial World) : Trial World :=
  requests.foldl (Request.serve plan) t

/-- **A history.** From the first request to the last the trial evolves, whatever is
asked for and whichever calls fail. -/
theorem Trial.evolution_history (plan : Plan) (requests : List Request) (t : Trial World) :
    Evolution t (history plan requests t) := by
  induction requests generalizing t with
  | nil => exact .refl t
  | cons request rest ih => exact (request.evolution_serve plan t).trans (ih _)

/-- **The story of a subscription.**  Begin without subscriptions and serve any
requests while any calls fail.  If no UUID was taken twice, then the
announcements of each stored subscription that were handed to the publisher,
accepted or not, lead from active to its status, one to the next. -/
theorem statusChain_of_history (plan : Plan) (requests : List Request) {w : World}
    (hempty : w.subscriptions = .empty) {t : Trial World}
    (hhistory : Trial.history plan requests (.new w) = t)
    (hdistinct : Set.InjOn w.supply.uuids (Set.Ico w.supply.drawn t.state.supply.drawn))
    {id : SubscriptionId} {s : Subscription} (hfind : t.state.subscriptions.find? id = some s) :
    StatusChain .active (t.journal.handed.filter (Envelope.isStatusChangeOf · id)) s.status := by
  have hevolution := Trial.evolution_history plan requests (.new w)
  have hstart : (Trial.new w).ledger = ⟨.empty, [], w.supply.drawn⟩ := by
    rw [← hempty]
    rfl
  have hreach := hevolution.reach
  rw [hstart, hhistory] at hreach
  have hsound := (Ledger.sound_empty w.supply.uuids w.supply.drawn).reach hreach hdistinct
  exact hsound.told id s hfind

namespace Sample

/-- A customer is saved and pays, falls behind, and pays again. -/
def requests : List Request :=
  [.record customer, .webhook default paid, .command ⟨.ofNat 0⟩ .markPastDue,
    .webhook default paid]

/-- Nobody is known yet. -/
def start : World := .new (.new (fun _ => default) Uuid.ofNat)

theorem serve_paid (plan : Plan) (t : Trial World) :
    (Request.webhook default paid).serve plan t =
      (Trial.run plan (Routes.renew default data : Service Empty Unit) t).2 :=
  congrArg Prod.snd (Trial.run_receive plan t parse_paid default)

set_option maxRecDepth 20000 in
/-- One UUID is taken for the subscription and one for each announcement, and
the customer has paid in the end. -/
theorem served_requests :
    ((Trial.history (.ofPublisher failing) requests (.new start)).state.supply.drawn,
      ((Trial.history (.ofPublisher failing) requests (.new start)).state.subscriptions.find?
        ⟨.ofNat 0⟩).map Subscription.status) = (3, some .active) := by
  simp only [Trial.history, requests, List.foldl_cons, List.foldl_nil, serve_paid]
  cbv

end Sample

/-- The publisher is down when it comes to the second announcement. -/
theorem statusChain_of_history_failing :
    ∃ t, Trial.history (.ofPublisher Sample.failing) Sample.requests (.new Sample.start) = t ∧
      Sample.start.subscriptions = .empty ∧
      Set.InjOn Sample.start.supply.uuids
        (Set.Ico Sample.start.supply.drawn t.state.supply.drawn) ∧
      ∃ s, t.state.subscriptions.find? ⟨.ofNat 0⟩ = some s ∧ s.status = .active ∧
        StatusChain .active (t.journal.handed.filter (Envelope.isStatusChangeOf · ⟨.ofNat 0⟩))
          s.status := by
  have hserved := Sample.served_requests
  generalize hhistory : Trial.history (.ofPublisher Sample.failing) Sample.requests
    (.new Sample.start) = t at hserved
  obtain ⟨hdrawn, hstored⟩ := Prod.mk.inj hserved
  obtain ⟨s, hfind, hstatus⟩ := Option.map_eq_some_iff.mp hstored
  have hempty : Sample.start.subscriptions = .empty := rfl
  have hofNat : ∀ i < 3, ∀ j < 3, Uuid.ofNat i = Uuid.ofNat j → i = j := by decide
  have hdistinct : Set.InjOn Sample.start.supply.uuids
      (Set.Ico Sample.start.supply.drawn t.state.supply.drawn) := by
    rw [hdrawn]
    exact fun i hi j hj heq => hofNat i hi.2 j hj.2 heq
  have hchain := statusChain_of_history _ _ hempty hhistory hdistinct hfind
  exact ⟨t, rfl, hempty, hdistinct, s, hfind, hstatus, hchain⟩

end SubscriptionBilling
