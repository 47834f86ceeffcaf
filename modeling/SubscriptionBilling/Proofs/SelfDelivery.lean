import Mathlib
import SubscriptionBilling.Proofs.BusTrials
import SubscriptionBilling.Proofs.Enrollment
import SubscriptionBilling.Proofs.Wrapping
import SubscriptionBilling.Scenario.Handler
/-!
# Provisioning on the bus that it announces on

The handler that provisions customers publishes on the bus that calls it, and
what it publishes can be read as a sign-up again.  Subscribed to everything, it
is called with its own announcements; it stops there because the customer is
stored before the announcement goes out, and is looked for before anything else
is done.

While a user has a customer, all calls about the user end without a publication
(`decided_known`); so the announcement of a sign-up is the only publication that
is nested in it (`decided_signUp`), whatever is stored and whatever fails.  Where
nothing fails, one customer and one announcement come of a sign-up, however often
the handler is subscribed (`publish_signUp`).
-/

namespace SubscriptionBilling

/-! ## The announcement as a sign-up -/

/-- What an announcement of a customer is read as by those who expect a
sign-up. -/
def CustomerCreated.asSignUp (c : CustomerCreated) : UserCreated :=
  ⟨c.id, c.user, c.email, none, c.occurredAt⟩

/-- An announcement has all members of a sign-up but the name, and that may be
left out. -/
theorem CustomerCreated.decode_value (c : CustomerCreated) :
    UserCreated.schema.decode (schema.value c) = .ok c.asSignUp := by
  have hvalues : ∀ name, Json.valuesOf name (Json.canonicalMembers
      [("event_id", EventId.schema.write c.id), ("customer_id", CustomerId.schema.write c.customer),
        ("user_id", UserId.schema.write c.user), ("email", .string c.email),
        ("occurred_at", Instant.schema.write c.occurredAt)]) = _ :=
    Json.valuesOf_canonicalMembers
      (show ["event_id", "customer_id", "user_id", "email", "occurred_at"].Nodup by decide)
  unfold UserCreated.schema
  refine Json.Schema.decodes_record (c := (c.id, c.user, c.email, none, c.occurredAt, ()))
    (by decide) ?_ _ _ _
  exact ⟨.given (hvalues _) (EventId.keeps c.id).decodes,
    .given (hvalues _) (UserId.keeps c.user).decodes,
    .given (hvalues _) (Json.Schema.keeps_string c.email).decodes,
    .absent (hvalues _) rfl, .given (hvalues _) (Instant.keeps c.occurredAt).decodes, trivial⟩

/-- Whoever expects a sign-up can read an announcement on its way. -/
theorem CustomerCreated.content_envelope (c : CustomerCreated) (cause : Envelope) :
    (c.envelope cause).content UserCreated.schema = .ok c.asSignUp :=
  c.decode_value

/-- An envelope that has a sign-up for its content is read as this sign-up. -/
theorem Provisioning.signUp_of_content {e : Envelope} {s : UserCreated}
    (h : e.content UserCreated.schema = .ok s) : signUp e = .ok s := by
  rw [signUp, h]
  rfl

/-- The announcement is that of a sign-up's customer. -/
structure CustomerCreated.Follows (c : CustomerCreated) (s : UserCreated) : Prop where
  customer : c.customer = .ofUser s.user
  user : c.user = s.user
  email : c.email = s.email

/-! ## What is done about a sign-up -/

namespace Bus

variable {H : Type} {handling : Handling H World} {e : Envelope} {s : UserCreated}

/-- The handler provisions customers. -/
def Handling.Provisions (handling : Handling H World) (handler : H) : Prop :=
  ∀ e, handling.handle handler e = (Provisioning.handle e).run

/-- The handler is a recorder. -/
def Handling.Records (handling : Handling H World) (handler : H) : Prop :=
  ∃ r : Recorder, ∀ e, handling.handle handler e = r.handle e

/-- Every handler on the bus provisions customers or is a recorder. -/
def Handling.Staffs (handling : Handling H World) (registry : Registry H) : Prop :=
  ∀ group ∈ registry.groups, ∀ handler ∈ group.2,
    handling.Provisions handler ∨ handling.Records handler

/-- Whoever hears of an event was subscribed, and so provisions or records. -/
theorem Handling.Staffs.matching {registry : Registry H} (h : handling.Staffs registry)
    {topic : Topic} {handler : H} (hmem : handler ∈ registry.matching topic) :
    handling.Provisions handler ∨ handling.Records handler := by
  obtain ⟨group, hgroup, hhandler⟩ := List.mem_flatMap.1 hmem
  exact h group (List.mem_of_mem_filter hgroup) handler hhandler

/-- Nothing is to fail, neither at the stores and the publisher nor at the
provider. -/
structure Faultless (host : Host H World) : Prop where
  faults : ∀ o, host.faults o = none
  provider : host.state.gateway.nextError = none

/-- The user has a customer. -/
def Known (user : UserId) (store : CustomerStore) : Prop :=
  ∃ customer, store.find? (.ofUser user) = some customer

/-- A user is known once a customer was stored for it. -/
theorem known_save (store : CustomerStore) (s : UserCreated) (account : Account) :
    Known s.user (CustomerStore.save store (Provisioning.customerOf s account)) := by
  refine ⟨Provisioning.customerOf s account, ?_⟩
  rw [CustomerStore.save, OrderedMap.find?_set]
  exact if_pos rfl

/-- What can be done about a sign-up until there is an answer: nothing, or its
customer is stored and announced; or it is stored only, and that is a failure. -/
inductive Enrolls (e : Envelope) (s : UserCreated) (store : CustomerStore) :
    Except Failure Unit → CustomerStore → List Envelope → Prop
  | nothing (answer : Except Failure Unit) : Enrolls e s store answer store []
  | announced (answer : Except Failure Unit) (account : Account) (created : CustomerCreated)
      (hfind : store.find? (.ofUser s.user) = none) (hfollows : created.Follows s) :
      Enrolls e s store answer (CustomerStore.save store (Provisioning.customerOf s account))
        [created.envelope e]
  | unannounced (failure : Failure) (account : Account)
      (hfind : store.find? (.ofUser s.user) = none) :
      Enrolls e s store (.error failure)
        (CustomerStore.save store (Provisioning.customerOf s account)) []

namespace Enrolls

variable {store store' store'' : CustomerStore} {answer : Except Failure Unit}
  {published later : List Envelope}

/-- A user who has a customer gets none, and nothing is published about it: the handler
ignores the sign-up. -/
theorem of_known (h : Enrolls e s store answer store' published) (hknown : Known s.user store) :
    store' = store ∧ published = [] := by
  obtain ⟨customer, hcustomer⟩ := hknown
  cases h with
  | nothing => exact ⟨rfl, rfl⟩
  | announced answer account created hfind => cases hfind.symm.trans hcustomer
  | unannounced failure account hfind => cases hfind.symm.trans hcustomer

/-- A user who was known stays known while handlers are called. -/
theorem known (h : Enrolls e s store answer store' published) (hknown : Known s.user store) :
    Known s.user store' :=
  (h.of_known hknown).1 ▸ hknown

/-- Calls that all succeed settle what they settle together with those behind them, and
it is enough that one of all provisions. -/
theorem trans (h : Enrolls e s store (.ok ()) store' published)
    (hlater : Enrolls e s store' answer store'' later) :
    Enrolls e s store answer store'' (published ++ later) := by
  cases h with
  | nothing => exact hlater
  | announced _ account created hfind hfollows =>
      obtain ⟨rfl, rfl⟩ := hlater.of_known (known_save store s account)
      exact .announced answer account created hfind hfollows

end Enrolls

/-- How a call, a delivery or a publication can end, as far as a sign-up is
concerned; `provides` says whether a handler was called that provisions. -/
structure Settles (e : Envelope) (s : UserCreated) (provides : Prop) (host : Host H World)
    (answer : Except Failure Unit) (host' : Host H World) (published : List Envelope) : Prop where
  registry : host'.registry = host.registry
  enrolls : Enrolls e s host.state.customers answer host'.state.customers published
  succeeds : Faultless host → answer = .ok () ∧ Faultless host'
  knows : provides → Faultless host → Known s.user host'.state.customers

namespace Settles

variable {provides provides' : Prop} {host host' host'' : Host H World}
  {answer : Except Failure Unit} {published later : List Envelope}

/-- Nothing is settled by no calls. -/
theorem refl (host : Host H World) : Settles e s False host (.ok ()) host [] where
  registry := rfl
  enrolls := .nothing _
  succeeds h := ⟨rfl, h⟩
  knows h := h.elim

theorem trans (h : Settles e s provides host (.ok ()) host' published)
    (hlater : Settles e s provides' host' answer host'' later) :
    Settles e s (provides ∨ provides') host answer host'' (published ++ later) where
  registry := hlater.registry.trans h.registry
  enrolls := h.enrolls.trans hlater.enrolls
  succeeds hfaultless := hlater.succeeds (h.succeeds hfaultless).2
  knows hprovides hfaultless := by
    obtain hfirst | hsecond := hprovides
    · exact hlater.enrolls.known (h.knows hfirst hfaultless)
    · exact hlater.knows hsecond (h.succeeds hfaultless).2

/-- A failure is the end, and then it does not matter who else would be called
and what is logged. -/
theorem failed {failure : Failure} (h : Settles e s provides host (.error failure) host' published)
    (hregistry : host''.registry = host'.registry) (hstate : host''.state = host'.state) :
    Settles e s provides' host (.error failure) host'' published where
  registry := hregistry.trans h.registry
  enrolls := hstate ▸ h.enrolls
  succeeds hfaultless := nomatch (h.succeeds hfaultless).1
  knows _ hfaultless := nomatch (h.succeeds hfaultless).1

/-- Where something is to fail, it only matters what is stored and announced. -/
theorem of_fault (hregistry : host'.registry = host.registry)
    (henrolls : Enrolls e s host.state.customers answer host'.state.customers published)
    (hfault : ¬ Faultless host) : Settles e s provides host answer host' published where
  registry := hregistry
  enrolls := henrolls
  succeeds hfaultless := (hfault hfaultless).elim
  knows _ hfaultless := (hfault hfaultless).elim

/-- That the publication was logged before does not matter for what is settled. -/
theorem opened {cause : Envelope}
    (h : Settles e s provides (host.opening cause) answer host' published) :
    Settles e s provides host answer host' published where
  registry := h.registry
  enrolls := h.enrolls
  succeeds hfaultless := h.succeeds ⟨hfaultless.faults, hfaultless.provider⟩
  knows hprovides hfaultless := h.knows hprovides ⟨hfaultless.faults, hfaultless.provider⟩

end Settles

/-! ## Ends that do not depend on the depth -/

/-- However the parameter `i` is chosen, this ends, and in one way. -/
def Decided {ι : Type} (e : Envelope) (s : UserCreated) (provides : Prop) (host : Host H World)
    (go : ι → Host H World → Option (Except Failure Unit × Host H World))
    (meanwhile : ι → Host H World → List Envelope) : Prop :=
  ∃ answer host' published, Settles e s provides host answer host' published ∧
    (∀ i, go i host = some (answer, host')) ∧ ∀ i, meanwhile i host = published

/-- The host after a delivery stopped at a failure. -/
def Host.stopped {σ : Type} (name : H → String) (e : Envelope) (handler : H) (failure : Failure)
    (host : Host H σ) : Host H σ :=
  host.note .warn "Event handler failed, stopping delivery"
    [("event_type", .text e.topic.name), ("event_id", .text e.id.text),
      ("handler", .text (name handler)), ("error", .text failure.display)]

/-- A handler that fails stops the delivery to those behind it. -/
theorem Host.deliver_of_error {σ : Type} {name : H → String}
    {call : H → Host H σ → Option (Except Failure Unit × Host H σ)} {handler : H} {rest : List H}
    {host host' : Host H σ} {failure : Failure}
    (h : call handler host = some (.error failure, host')) :
    Host.deliver name call e (handler :: rest) host =
      some (.error failure, host'.stopped name e handler failure) := by
  rw [Host.deliver, h]
  rfl

/-- A delivery is decided if every call of it is, on the hosts that it can come
to. -/
theorem decided_deliver {ι : Type} {P : Host H World → Prop} {provides : H → Prop}
    {call : ι → H → Host H World → Option (Except Failure Unit × Host H World)}
    {meanwhile : ι → H → Host H World → List Envelope} (name : H → String)
    (hkept : ∀ {provides host answer host' published}, P host →
      Settles e s provides host answer host' published → P host')
    {handlers : List H} (hcall : ∀ handler ∈ handlers, ∀ host, P host →
      Decided e s (provides handler) host (fun i => call i handler) fun i => meanwhile i handler)
    {host : Host H World} (hhost : P host) :
    Decided e s (∃ handler ∈ handlers, provides handler) host
      (fun i => Host.deliver name (call i) e handlers)
      fun i => Host.publicationsOfCalls (call i) (meanwhile i) handlers := by
  induction handlers generalizing host with
  | nil =>
      have hnobody : (∃ handler ∈ ([] : List H), provides handler) = False := by simp
      rw [hnobody]
      exact ⟨.ok (), host, [], .refl host, fun _ => rfl, fun _ => rfl⟩
  | cons handler rest ih =>
      obtain ⟨answer, host', published, hsettles, hrun, hpublished⟩ :=
        hcall handler List.mem_cons_self host hhost
      cases answer with
      | ok u =>
          obtain ⟨answer, host'', later, hlater, hrest, hpublishedLater⟩ :=
            ih (fun handler hmem => hcall handler (List.mem_cons_of_mem _ hmem))
              (hkept hhost hsettles)
          refine ⟨answer, host'', published ++ later, ?_, fun i => ?_, fun i => ?_⟩
          · simpa only [List.exists_mem_cons_iff] using hsettles.trans hlater
          · simp only [Host.deliver, hrun]
            exact hrest i
          · simp only [Host.publicationsOfCalls, hrun, hpublished]
            exact congrArg (published ++ ·) (hpublishedLater i)
      | error failure =>
          refine ⟨.error failure, host'.stopped name e handler failure, published,
            hsettles.failed rfl rfl, fun i => ?_, fun i => ?_⟩
          · exact Host.deliver_of_error (hrun i)
          · simp only [Host.publicationsOfCalls, hrun, hpublished, List.append_nil]

/-! ## One call -/

/-- What a handler does on the bus about a sign-up. -/
inductive Called (e : Envelope) (s : UserCreated) (provides : Prop) (host : Host H World)
    (x : Activity H World (Except Failure Unit)) : Prop where
  /-- It ends without a publication. -/
  | quiet (answer : Except Failure Unit) (host' : Host H World)
      (hsettles : Settles e s provides host answer host' [])
      (hrun : ∀ name publish, run name publish x host = some (answer, host'))
      (hpublished : ∀ name publish meanwhile, publications name publish meanwhile x host = [])
  /-- It stores a customer and ends with its announcement. -/
  | announcing (account : Account) (created : CustomerCreated) (host' : Host H World)
      (hfind : host.state.customers.find? (.ofUser s.user) = none)
      (hfollows : created.Follows s) (hregistry : host'.registry = host.registry)
      (hcustomers : host'.state.customers =
        CustomerStore.save host.state.customers (Provisioning.customerOf s account))
      (hfaultless : Faultless host → Faultless host')
      (hrun : ∀ name publish, run name publish x host = publish (created.envelope e) host')
      (hpublished : ∀ name publish meanwhile, publications name publish meanwhile x host =
        created.envelope e :: meanwhile (created.envelope e) host')

/-- A recorder that is called keeps the customers, publishes nothing and never fails. -/
theorem called_recorder (e : Envelope) (s : UserCreated) {provides : Prop} (hprovides : ¬ provides)
    (r : Recorder) (host : Host H World) : Called e s provides host (r.handle e) := by
  refine .quiet (.ok ()) _ ⟨?_, ?_, ?_, (absurd · hprovides)⟩ (fun _ _ => rfl) fun _ _ _ => rfl
  · rfl
  · exact .nothing _
  · exact fun h => ⟨rfl, h.faults, h.provider⟩

/-- How an outcome of provisioning settles the sign-up on the bus, if the
publisher was not asked or failed. -/
theorem settles_outcome (provides : Prop) (hread : Provisioning.signUp e = .ok s)
    {host : Host H World} {result : Except Failure Unit} {t : Trial World} (log : List Log.Entry)
    (h : Provisioning.Outcome host.plan e (.new host.state) result t)
    (haccepted : t.journal.accepted = []) :
    Settles e s provides host result (host.reaching t log) [] := by
  cases h with
  | unreadable failure hunread => cases hunread.symm.trans hread
  | unchecked s' failure hread' hcall =>
      refine .of_fault rfl (.nothing _) fun h => ?_
      cases (h.faults _).symm.trans hcall
  | known s' customer hread' hfind =>
      cases hread.symm.trans hread'
      exact ⟨rfl, .nothing _, fun h => ⟨rfl, h.faults, h.provider⟩, fun _ _ => ⟨customer, hfind⟩⟩
  | unasked s' failure hread' hfind hcall =>
      refine .of_fault rfl (.nothing _) fun h => ?_
      cases (h.faults _).symm.trans hcall
  | declined s' error hread' hfind hoffer =>
      refine .of_fault rfl (.nothing _) fun h => ?_
      obtain ⟨⟨account, haccount⟩, -⟩ := Gateway.create_of_nextError h.provider
        (Gateway.accountId host.state.nextUuid) (Provisioning.requestOf s')
      cases haccount.symm.trans hoffer
  | unstored s' account failure hread' hfind hoffer hcall =>
      refine .of_fault rfl (.nothing _) fun h => ?_
      cases (h.faults _).symm.trans hcall
  | stored s' account answer hread' hfind hoffer hanswer =>
      cases hread.symm.trans hread'
      cases answer with
      | none => cases haccepted
      | some failure =>
          refine .of_fault rfl (.unannounced failure account hfind) fun h => ?_
          cases (h.faults _).symm.trans hanswer

/-- A provisioning handler, given a sign-up: the trial of it says what happens
before the announcement. -/
theorem called_provisioning (provides : Prop) (hread : Provisioning.signUp e = .ok s)
    (host : Host H World) : Called e s provides host (Provisioning.handle (H := H) e).run := by
  have houtcome := Provisioning.handle_cases (H := H) host.plan e (.new host.state)
  have hcloses : Closes (Provisioning.handle (H := H) e).run host (Trial.new host.state).journal
      ((Provisioning.handle (H := H) e).run.trial host.plan (.new host.state)) :=
    run_closing (Provisioning.closing_handle e) rfl
  rw [Trial.run] at houtcome
  generalize (Provisioning.handle (H := H) e).run.trial host.plan (.new host.state) = r at *
  cases hcloses with
  | still log haccepted hrun hpublished =>
      exact .quiet _ _ (settles_outcome provides hread log houtcome haccepted) hrun hpublished
  | @handing result t sent log haccepted hrun hpublished =>
      have haccepted' : t.journal.accepted = [sent] := haccepted
      cases houtcome with
      | stored s' account answer hread' hfind hoffer hanswer =>
          cases hread.symm.trans hread'
          cases answer with
          | some failure => cases haccepted'
          | none =>
              cases haccepted'
              let stored : Trial World := (Trial.new host.state).enrolled s account
              refine .announcing account
                ⟨.ofUuid stored.state.nextUuid, .ofUser s.user, s.user, s.email, stored.state.clock⟩
                (host.reaching stored.drawn.ticked log) hfind ⟨rfl, rfl, rfl⟩ rfl rfl
                (fun h => ⟨h.faults, ?_⟩) hrun hpublished
              exact (Gateway.create_of_nextError h.provider _ _).2
      | _ => cases haccepted'

/-- **One call** on a bus where others provision and record. -/
theorem called {handler : H} (hhandler : handling.Provisions handler ∨ handling.Records handler)
    (hread : Provisioning.signUp e = .ok s) (host : Host H World) :
    Called e s (handling.Provisions handler) host (handling.handle handler e) := by
  by_cases hprovisions : handling.Provisions handler
  · rw [hprovisions]
    exact called_provisioning _ hread host
  · obtain ⟨r, hrecords⟩ := hhandler.resolve_left hprovisions
    rw [hrecords]
    exact called_recorder e s hprovisions r host

/-! ## Publications -/

/-- A publication is decided if every call in it is, on the hosts that it can
come to; `shift` is how many levels of nesting the calls have to themselves. -/
theorem decided_publish (shift : Nat) {P : Host H World → Prop}
    (hkept : ∀ {provides host answer host' published}, P host →
      Settles e s provides host answer host' published → P host') {host : Host H World}
    (hcall : ∀ handler ∈ host.registry.matching e.topic, ∀ host, P host →
      Decided e s (handling.Provisions handler) host
        (fun depth => run handling.name (Host.publish handling (depth + shift))
          (handling.handle handler e))
        fun depth => publications handling.name (Host.publish handling (depth + shift))
          (Host.meanwhile handling (depth + shift)) (handling.handle handler e))
    (hhost : P (host.opening e)) :
    Decided e s (∃ handler ∈ host.registry.matching e.topic, handling.Provisions handler) host
      (fun depth => Host.publish handling (depth + (shift + 1)) e)
      fun depth => Host.meanwhile handling (depth + (shift + 1)) e := by
  obtain ⟨answer, host', published, hsettles, hrun, hpublished⟩ :=
    decided_deliver handling.name hkept hcall hhost
  exact ⟨answer, host', published, hsettles.opened, hrun, hpublished⟩

/-- While the user has a customer, a publication that can be read as the
sign-up of the user is not nested any deeper. -/
theorem decided_known {host : Host H World} (hstaffs : handling.Staffs host.registry)
    (hread : Provisioning.signUp e = .ok s) (hknown : Known s.user host.state.customers) :
    Decided e s (∃ handler ∈ host.registry.matching e.topic, handling.Provisions handler) host
      (fun depth => Host.publish handling (depth + 1) e)
      fun depth => Host.meanwhile handling (depth + 1) e := by
  refine decided_publish 0 (P := fun host => Known s.user host.state.customers)
    (fun hknown h => h.enrolls.known hknown) (fun handler hmem host hknown => ?_) hknown
  obtain ⟨customer, hcustomer⟩ := hknown
  cases called (hstaffs.matching hmem) hread host with
  | quiet answer host' hsettles hrun hpublished =>
      exact ⟨answer, host', [], hsettles, fun _ => hrun _ _, fun _ => hpublished _ _ _⟩
  | announcing account created host' hfind => cases hfind.symm.trans hcustomer

/-- **One publication of a sign-up** nests one more, that of the announcement,
or none. -/
theorem decided_signUp {host : Host H World} (hstaffs : handling.Staffs host.registry)
    (hread : Provisioning.signUp e = .ok s) :
    Decided e s (∃ handler ∈ host.registry.matching e.topic, handling.Provisions handler) host
      (fun depth => Host.publish handling (depth + 2) e)
      fun depth => Host.meanwhile handling (depth + 2) e := by
  refine decided_publish 1 (P := fun host => handling.Staffs host.registry)
    (fun hstaffs h => h.registry ▸ hstaffs) (fun handler hmem host hhost => ?_) hstaffs
  cases called (hstaffs.matching hmem) hread host with
  | quiet answer host' hsettles hrun hpublished =>
      exact ⟨answer, host', [], hsettles, fun _ => hrun _ _, fun _ => hpublished _ _ _⟩
  | announcing account created host' hfind hfollows hregistry hcustomers hfaultless hrun
      hpublished =>
      have hknown : Known s.user host'.state.customers := hcustomers ▸ known_save _ s account
      have hagain : Known created.asSignUp.user host'.state.customers := by
        rwa [show created.asSignUp.user = s.user from hfollows.user]
      -- The announcement is published where the customer is known by now.
      obtain ⟨answer, host'', published, hsettles, hnested, hquiet⟩ :=
        decided_known (e := created.envelope e) (hregistry ▸ hhost)
          (Provisioning.signUp_of_content (created.content_envelope e)) hagain
      obtain ⟨hkept, rfl⟩ := hsettles.enrolls.of_known hagain
      refine ⟨answer, host'', [created.envelope e], ⟨?_, ?_, ?_, ?_⟩, fun depth => ?_,
        fun depth => ?_⟩
      · exact hsettles.registry.trans hregistry
      · rw [hkept, hcustomers]
        exact .announced answer account created hfind hfollows
      · exact fun h => hsettles.succeeds (hfaultless h)
      · exact fun _ _ => hkept ▸ hknown
      · exact (hrun _ _).trans (hnested depth)
      · exact (hpublished _ _ _).trans (congrArg (created.envelope e :: ·) (hquiet depth))

/-- **Provisioning on the bus that it announces on.**  The publication of a
sign-up has an answer, and nests publications at most two deep, whatever is
stored and whatever fails.  If a handler that provisions is called, the user had
no customer and nothing fails, then it succeeds, one customer is stored and one
announcement is published, though that can be read as a sign-up again. -/
theorem publish_signUp {host : Host H World} (hstaffs : handling.Staffs host.registry)
    (hread : e.content UserCreated.schema = .ok s) :
    ∃ answer host',
      (∀ depth, Host.publish handling (depth + 2) e host = some (answer, host')) ∧
      ((∃ handler ∈ host.registry.matching e.topic, handling.Provisions handler) →
        host.state.customers.find? (.ofUser s.user) = none → Faultless host →
        answer = .ok () ∧ ∃ (account : Account) (created : CustomerCreated), created.Follows s ∧
          host'.state.customers.entries =
            host.state.customers.entries ++ [(.ofUser s.user, Provisioning.customerOf s account)] ∧
          (∀ depth, Host.meanwhile handling (depth + 2) e host = [created.envelope e]) ∧
          (created.envelope e).content UserCreated.schema = .ok created.asSignUp) := by
  obtain ⟨answer, host', published, hsettles, hrun, hpublished⟩ :=
    decided_signUp hstaffs (Provisioning.signUp_of_content hread)
  refine ⟨answer, host', hrun, fun hprovides hfind hfaultless => ?_⟩
  obtain ⟨rfl, -⟩ := hsettles.succeeds hfaultless
  obtain ⟨customer, hcustomer⟩ := hsettles.knows hprovides hfaultless
  refine ⟨rfl, ?_⟩
  have henrolls := hsettles.enrolls
  generalize hstore : host'.state.customers = store at *
  cases henrolls with
  | nothing => cases hfind.symm.trans hcustomer
  | announced _ account created _ hfollows =>
      refine ⟨account, created, hfollows, ?_, hpublished, created.content_envelope e⟩
      refine OrderedMap.entries_set_of_not_mem fun hmem => ?_
      obtain ⟨stored, hstored⟩ := OrderedMap.mem_keys_iff.1 hmem
      cases hfind.symm.trans hstored

end Bus

namespace Sample

open Scenario.Handler

/-- The handler that provisions customers hears of everything, of billing and
twice of users, next to a recorder. -/
def crowded : Bus.Host Scenario.Handler World where
  registry := (Bus.Registry.empty.subscribe .any (recorder ⟨0⟩)).subscribeAll
    [.any, ⟨"billing"⟩, ⟨"user"⟩, ⟨"user"⟩] provisioning
  state := { lobby with recordings := [[]] }
  log := []
  faults _ := none

theorem groups_crowded : crowded.registry.groups =
    [(.any, [recorder ⟨0⟩, provisioning]), (⟨"billing"⟩, [provisioning]),
      (⟨"user"⟩, [provisioning, provisioning])] := by
  cbv

theorem staffs_crowded : handling.Staffs crowded.registry := by
  have hstaff : ∀ handler ∈ [recorder ⟨0⟩, provisioning],
      handling.Provisions handler ∨ handling.Records handler := by
    intro handler hhandler
    obtain rfl | rfl : handler = recorder ⟨0⟩ ∨ handler = provisioning := by simpa using hhandler
    · exact .inr ⟨⟨0⟩, fun _ => rfl⟩
    · exact .inl fun _ => rfl
  intro group hgroup handler hhandler
  rw [groups_crowded] at hgroup
  refine hstaff handler ?_
  simp only [List.mem_cons, List.not_mem_nil, or_false] at hgroup
  obtain rfl | rfl | rfl := hgroup <;> simp_all

theorem matching_crowded : crowded.registry.matching signUp.topic =
    [recorder ⟨0⟩, provisioning, provisioning, provisioning] := by
  cbv

theorem faultless_crowded : Bus.Faultless crowded := ⟨fun _ => rfl, rfl⟩

end Sample

open Sample Scenario.Handler in
/-- A user signs up where the handler is subscribed four times. -/
theorem publish_signUp_crowded :
    handling.Staffs crowded.registry ∧ signUp.content UserCreated.schema = .ok ada ∧
      (∃ handler ∈ crowded.registry.matching signUp.topic, handling.Provisions handler) ∧
      crowded.state.customers.find? (.ofUser ada.user) = none ∧ Bus.Faultless crowded ∧
      ∃ host', (∀ depth,
          Bus.Host.publish handling (depth + 2) signUp crowded = some (.ok (), host')) ∧
        ∃ account, host'.state.customers.entries =
          [(.ofUser ada.user, Provisioning.customerOf ada account)] := by
  have hread : signUp.content UserCreated.schema = .ok ada := (UserCreated.keeps ada).decodes
  have hprovides : ∃ handler ∈ crowded.registry.matching signUp.topic,
      handling.Provisions handler := by
    refine ⟨.provisioning, ?_, fun _ => rfl⟩
    simp [matching_crowded]
  obtain ⟨answer, host', hrun, hone⟩ := Bus.publish_signUp staffs_crowded hread
  obtain ⟨rfl, account, created, -, hentries, -⟩ := hone hprovides rfl faultless_crowded
  exact ⟨staffs_crowded, hread, hprovides, rfl, faultless_crowded, host', hrun, account, hentries⟩

end SubscriptionBilling
