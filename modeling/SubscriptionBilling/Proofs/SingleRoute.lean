import SubscriptionBilling.Proofs.Routing
/-!
# A webhook goes to a single route

A router calls one route for a webhook, the first that accepts its type, once and
with the body of the webhook; the answer of that route is the answer of the
router.  Without such a route, and for a payload that is not read, no route is
called at all (`calls_of_routes`).

To say so, the calls of routes are counted.  A list of them stands beside the
state of the routes, each route enters its place and what it was given before it
starts (`Route.watched`), and nothing that the routes do reaches that list
(`Activity.beside`).  The rest follows from `run_dispatch_watched`: whatever the
routes do, a router under this watch comes to what it comes to without it, and the
list has grown by the calls that are due (`Router.due`).
-/

namespace SubscriptionBilling

/-! ## Beside the state -/

/-- The same activity over a state that has something beside it, which it leaves
alone. -/
def Activity.beside {H σ τ α : Type} : Activity H σ α → Activity H (σ × τ) α
  | .done a => .done a
  | .read next => .read fun s => (next s.1).beside
  | .write s next => .read fun both => .write (s, both.2) next.beside
  | .call c next => .call c fun answer => (next answer).beside
  | .log entry next => .log entry next.beside
  | .subscribe topic handler next => .subscribe topic handler next.beside
  | .publish e next => .publish e fun answer => (next answer).beside

namespace Trial

variable {H σ τ α : Type} (plan : Plan)

/-- The trial with something beside its state. -/
def beside (t : Trial σ) (x : τ) : Trial (σ × τ) := ⟨(t.state, x), t.journal⟩

/-- An activity comes to the same, whatever is beside its state. -/
theorem trial_beside (x : Activity H σ α) (t : Trial σ) (y : τ) :
    x.beside.trial plan (t.beside y) = ((x.trial plan t).1, (x.trial plan t).2.beside y) := by
  induction x generalizing t with
  | done a => rfl
  | read next ih => exact ih t.state t
  | write s next ih => exact ih (t.inState s)
  | call c next ih => exact ih (plan t.journal c) (t.noted c (plan t.journal c))
  | log entry next ih => exact ih t
  | subscribe topic handler next ih => exact ih t
  | publish e next ih => exact ih (.ok ()) t

end Trial

/-! ## Routes that enter their calls -/

/-- The calls of routes, each with the place of the route and what it was given,
the first call first. -/
abbrev RouteCalls := List (Nat × Json)

/-- The same route, which first enters that it was called. -/
def Route.watched {H σ : Type} (place : Nat) (route : Route H σ) : Route H (σ × RouteCalls) where
  name := route.name
  accepts := route.accepts
  handle data := do
    ExceptT.lift (Activity.update fun both => (both.1, both.2 ++ [(place, data)]))
    ExceptT.mk (route.handle data).run.beside

namespace Router

variable {H σ : Type} {router : Router H σ} {type : String} {route : Route H σ}
  {front back : List (Route H σ)}

/-- The same routes, which enter their calls. -/
def watched (router : Router H σ) : Router H (σ × RouteCalls) :=
  ⟨router.routes.mapIdx Route.watched⟩

/-- The calls that are due for a webhook. -/
def due (router : Router H σ) (webhook : Webhook) : RouteCalls :=
  match router.routes.findIdx? fun route => route.accepts webhook.type with
  | none => []
  | some place => [(place, webhook.data)]

/-- A route is the first of a router that accepts a type. -/
structure First (router : Router H σ) (type : String) (front : List (Route H σ))
    (route : Route H σ) (back : List (Route H σ)) : Prop where
  routes : router.routes = front ++ route :: back
  passed : ∀ other ∈ front, other.accepts type = false
  accepts : route.accepts type = true

/-- The first route that accepts a type is the one that is found. -/
theorem First.route? (h : router.First type front route back) : router.route? type = some route :=
  route?_eq_some_iff.mpr ⟨h.accepts, front, back, h.routes, h.passed⟩

/-- The first route that accepts the type gets the body, by its place in the list. -/
theorem First.due {webhook : Webhook} (h : router.First webhook.type front route back) :
    router.due webhook = [(front.length, webhook.data)] := by
  have hpassed : (front.findIdx? fun route => route.accepts webhook.type) = none :=
    List.findIdx?_eq_none_iff.mpr h.passed
  have hplace : (router.routes.findIdx? fun route => route.accepts webhook.type) =
      some front.length := by
    rw [h.routes, List.findIdx?_append, hpassed, Option.none_or, List.findIdx?_cons, h.accepts]
    exact congrArg some (Nat.zero_add _)
  rw [Router.due, hplace]

/-- A first route stays the first under the watch, at its place. -/
theorem First.watched (h : router.First type front route back) :
    router.watched.First type (front.mapIdx Route.watched) (route.watched front.length)
      (back.mapIdx fun i => Route.watched (i + 1 + front.length)) where
  routes := by
    rw [Router.watched, h.routes, List.mapIdx_append, List.mapIdx_cons, Nat.zero_add]
  passed := by
    intro other hother
    obtain ⟨i, hi, rfl⟩ := List.mem_mapIdx.mp hother
    exact h.passed front[i] (List.getElem_mem hi)
  accepts := h.accepts

/-- If no route accepts the type, no route gets the body. -/
theorem due_of_route?_none {webhook : Webhook} (h : router.route? webhook.type = none) :
    router.due webhook = [] := by
  have hnone : (router.routes.findIdx? fun route => route.accepts webhook.type) = none :=
    List.findIdx?_eq_none_iff.mpr (route?_eq_none_iff.mp h)
  rw [due, hnone]

/-- The watch lets nothing more in: what no route accepts, no route under the watch
accepts. -/
theorem route?_watched_none (h : router.route? type = none) :
    router.watched.route? type = none := by
  rw [route?_eq_none_iff] at h ⊢
  intro other hother
  obtain ⟨i, hi, rfl⟩ := List.mem_mapIdx.mp hother
  exact h router.routes[i] (List.getElem_mem hi)

/-- A type has a first route that accepts it, with all that stand before it, unless none
accepts it. -/
theorem first_or_none (router : Router H σ) (type : String) :
    (∃ front route back, router.First type front route back) ∨ router.route? type = none := by
  cases hroute : router.route? type with
  | none => exact .inr rfl
  | some route =>
      obtain ⟨haccepts, front, back, hroutes, hfront⟩ := route?_eq_some_iff.mp hroute
      exact .inl ⟨front, route, back, hroutes, hfront, haccepts⟩

end Router

namespace Trial

variable {H σ : Type} (plan : Plan) (t : Trial σ) (router : Router H σ) (calls : RouteCalls)

/-- A watched route comes to what it comes to unwatched, and its call is entered. -/
theorem run_handle_watched (route : Route H σ) (place : Nat) (data : Json) :
    run plan ((route.watched place).handle data) (t.beside calls) =
      ((run plan (route.handle data) t).1,
        (run plan (route.handle data) t).2.beside (calls ++ [(place, data)])) := by
  rw [Route.watched, run_bind, run_lift]
  exact trial_beside plan (route.handle data).run t (calls ++ [(place, data)])

/-- What a dispatch to a first route comes to: the body goes to that route, and a
success is told by its name. -/
theorem dispatched_of_first {webhook : Webhook} {router : Router H σ} {route : Route H σ}
    {front back : List (Route H σ)} (h : router.First webhook.type front route back) :
    dispatched plan t router webhook =
      ((run plan (route.handle webhook.data) t).1.map fun _ => route.name,
        (run plan (route.handle webhook.data) t).2) := by
  rw [dispatched, h.route?]

/-- If no route accepts the type, this is what comes back, and nothing is done. -/
theorem dispatched_of_route?_none {webhook : Webhook} {router : Router H σ}
    (h : router.route? webhook.type = none) :
    dispatched plan t router webhook = (.error (.noRoute webhook.type), t) := by
  rw [dispatched, h]

/-- A router under the watch comes to what it comes to without, and the calls
that are due are entered. -/
theorem run_dispatch_watched (webhook : Webhook) :
    run plan (router.watched.dispatch webhook) (t.beside calls) =
      ((dispatched plan t router webhook).1,
        (dispatched plan t router webhook).2.beside (calls ++ router.due webhook)) := by
  rw [run_dispatch]
  rcases router.first_or_none webhook.type with ⟨front, route, back, hfirst⟩ | hnone
  · rw [dispatched_of_first plan _ hfirst.watched, dispatched_of_first plan t hfirst, hfirst.due,
      run_handle_watched]
    rfl
  · rw [dispatched_of_route?_none plan _ (Router.route?_watched_none hnone),
      dispatched_of_route?_none plan t hnone, Router.due_of_route?_none hnone, List.append_nil]

/-! ## What is seen of a router -/

/-- What dispatching a webhook comes to, with the calls of routes. -/
def seenDispatch (webhook : Webhook) : Except WebhookError String × Trial (σ × RouteCalls) :=
  run plan (router.watched.dispatch webhook) (t.beside [])

/-- What taking in a payload comes to, with the calls of routes. -/
def seenReceive (payload : String) :
    Except WebhookError Intake.Receipt × Trial (σ × RouteCalls) :=
  run plan (Intake.receive ⟨router.watched⟩ payload) (t.beside [])

/-- A webhook goes to a single route, or to none. -/
structure GoesOnce (webhook : Webhook) (result : Except WebhookError String)
    (after : Trial (σ × RouteCalls)) : Prop where
  /-- The list of calls makes no difference. -/
  unwatched : run plan (router.dispatch webhook) t =
    (result, ⟨after.state.1, after.journal⟩)
  /-- The first route that accepts the type is called, once and with the body, and
  no other; its success is reported with its name, its error as it is. -/
  routed : ∀ front route back, router.First webhook.type front route back →
    result = ((run plan (route.handle webhook.data) t).1.map fun _ => route.name) ∧
      after = (run plan (route.handle webhook.data) t).2.beside [(front.length, webhook.data)]
  /-- Only a type that no route accepts is turned away without a call. -/
  unrouted : result = .error (.noRoute webhook.type) ∧ after.state.2 = [] ↔
    ∀ route ∈ router.routes, route.accepts webhook.type = false
  /-- And then nothing happens. -/
  untouched : (∀ route ∈ router.routes, route.accepts webhook.type = false) →
    after = t.beside []

/-- A payload is read, and then it is a webhook that is dispatched, or it is not. -/
structure ReadOnce (payload : String) (result : Except WebhookError Intake.Receipt)
    (after : Trial (σ × RouteCalls)) : Prop where
  /-- The list of calls makes no difference. -/
  unwatched : run plan (Intake.receive ⟨router⟩ payload) t =
    (result, ⟨after.state.1, after.journal⟩)
  /-- Only a payload that is not read is refused as such without a call. -/
  unread : (∃ why, result = .error (.unreadable why)) ∧ after.state.2 = [] ↔
    ∃ error, Webhook.parse payload = .error error
  /-- The error is that of the reader, and nothing happens. -/
  untouched : ∀ error, Webhook.parse payload = .error error →
    result = .error error ∧ after = t.beside []
  /-- What is read is dispatched, and reported with its identifier and its type. -/
  read : ∀ webhook, Webhook.parse payload = .ok webhook →
    result = ((seenDispatch plan t router webhook).1.map fun name =>
        ⟨webhook.id, webhook.type, name⟩) ∧
      after = (seenDispatch plan t router webhook).2

theorem seenDispatch_eq (webhook : Webhook) :
    seenDispatch plan t router webhook =
      ((dispatched plan t router webhook).1,
        (dispatched plan t router webhook).2.beside (router.due webhook)) :=
  run_dispatch_watched plan t router [] webhook

/-- **A dispatch.** It goes to the first route that accepts the type, once, with the
body; and if there is none, to no route. -/
theorem goesOnce (webhook : Webhook) :
    GoesOnce plan t router webhook (seenDispatch plan t router webhook).1
      (seenDispatch plan t router webhook).2 := by
  rw [seenDispatch_eq]
  refine ⟨run_dispatch plan t router webhook, ?_, ?_, ?_⟩
  · intro front route back hfirst
    rw [dispatched_of_first plan t hfirst, hfirst.due]
    exact ⟨rfl, rfl⟩
  · rw [← Router.route?_eq_none_iff]
    constructor
    · rintro ⟨-, hnocalls⟩
      rcases router.first_or_none webhook.type with ⟨front, route, back, hfirst⟩ | hnone
      · have hcalls : router.due webhook = [] := hnocalls
        rw [hfirst.due] at hcalls
        cases hcalls
      · exact hnone
    · intro hnone
      rw [dispatched_of_route?_none plan t hnone, Router.due_of_route?_none hnone]
      exact ⟨rfl, rfl⟩
  · intro hnone
    have hroute := Router.route?_eq_none_iff.mpr hnone
    rw [dispatched_of_route?_none plan t hroute, Router.due_of_route?_none hroute]

/-- A payload that is not read is refused as such, and never as one without a route. -/
theorem unreadable_of_parse {payload : String} {error : WebhookError}
    (h : Webhook.parse payload = .error error) : ∃ why, error = .unreadable why := by
  unfold Webhook.parse at h
  cases hfault : Webhook.schema.parse payload with
  | error fault =>
      rw [hfault] at h
      exact ⟨_, (Except.error.inj h).symm⟩
  | ok webhook =>
      rw [hfault] at h
      cases h

/-- A payload that is not read goes to no route. -/
theorem seenReceive_of_unread {payload : String} {error : WebhookError}
    (hparse : Webhook.parse payload = .error error) :
    seenReceive plan t router payload = (.error error, t.beside []) :=
  run_receive_unread plan (t.beside []) router.watched hparse

/-- A payload that reads is dispatched, and the receipt names the webhook and the route.
-/
theorem seenReceive_of_read {payload : String} {webhook : Webhook}
    (hparse : Webhook.parse payload = .ok webhook) :
    seenReceive plan t router payload =
      ((seenDispatch plan t router webhook).1.map fun name => ⟨webhook.id, webhook.type, name⟩,
        (seenDispatch plan t router webhook).2) := by
  rw [seenReceive, seenDispatch, run_receive_read plan _ _ hparse, run_dispatch]

/-- A webhook that no route was called for has no route, and that is what is said
about it. -/
theorem noRoute_of_no_calls {webhook : Webhook}
    (h : (seenDispatch plan t router webhook).2.state.2 = []) :
    (seenDispatch plan t router webhook).1 = .error (.noRoute webhook.type) := by
  rw [seenDispatch_eq] at h ⊢
  rcases router.first_or_none webhook.type with ⟨front, route, back, hfirst⟩ | hnone
  · have hcalls : router.due webhook = [] := h
    rw [hfirst.due] at hcalls
    cases hcalls
  · rw [dispatched_of_route?_none plan t hnone]

/-- **A delivery.** A payload is read once, and then dispatched or sent back. -/
theorem readOnce (payload : String) :
    ReadOnce plan t router payload (seenReceive plan t router payload).1
      (seenReceive plan t router payload).2 := by
  cases hparse : Webhook.parse payload with
  | error error =>
      rw [seenReceive_of_unread plan t router hparse]
      refine ⟨run_receive_unread plan t router hparse, ?_, ?_, ?_⟩
      · obtain ⟨why, rfl⟩ := unreadable_of_parse hparse
        exact ⟨fun _ => ⟨_, hparse⟩, fun _ => ⟨⟨why, rfl⟩, rfl⟩⟩
      · intro other hother
        rw [hparse] at hother
        cases hother
        exact ⟨rfl, rfl⟩
      · intro webhook hread
        rw [hparse] at hread
        cases hread
  | ok webhook =>
      rw [seenReceive_of_read plan t router hparse]
      refine ⟨?_, ?_, ?_, ?_⟩
      · rw [run_receive_read plan t router hparse, seenDispatch_eq]
        rfl
      · constructor
        · rintro ⟨⟨why, hresult⟩, hnocalls⟩
          rw [noRoute_of_no_calls plan t router hnocalls] at hresult
          cases hresult
        · rintro ⟨error, hunread⟩
          rw [hparse] at hunread
          cases hunread
      · intro error hunread
        rw [hparse] at hunread
        cases hunread
      · intro other hother
        rw [hparse] at hother
        cases hother
        exact ⟨rfl, rfl⟩

end Trial

namespace Router

variable {H σ : Type} {type : String} {route : Route H σ} {front middle back : List (Route H σ)}

/-- A route that is put in after the first one that accepts a type leaves it the
first. -/
theorem First.widened {router : Router H σ}
    (h : router.First type front route (middle ++ back)) (extra : Route H σ) :
    First ⟨front ++ route :: (middle ++ extra :: back)⟩ type front route
      (middle ++ extra :: back) :=
  ⟨rfl, h.passed, h.accepts⟩

end Router

/-- **A single route.**  Whatever the routes of a router are and do, a webhook goes
to the first that accepts its type and to no other, a payload that is not read
goes to none, and a route that is put in anywhere after the first that accepts a
type makes no difference to webhooks of that type. -/
theorem calls_of_routes {H σ : Type} (plan : Plan) (t : Trial σ) (router : Router H σ) :
    (∀ webhook, Trial.GoesOnce plan t router webhook
        (Trial.seenDispatch plan t router webhook).1
        (Trial.seenDispatch plan t router webhook).2) ∧
      (∀ payload, Trial.ReadOnce plan t router payload
        (Trial.seenReceive plan t router payload).1
        (Trial.seenReceive plan t router payload).2) ∧
      ∀ webhook front route middle back extra,
        router.First webhook.type front route (middle ++ back) →
        Trial.seenDispatch plan t ⟨front ++ route :: (middle ++ extra :: back)⟩ webhook =
            Trial.seenDispatch plan t router webhook ∧
          ∀ payload, Webhook.parse payload = .ok webhook →
            Trial.seenReceive plan t ⟨front ++ route :: (middle ++ extra :: back)⟩ payload =
              Trial.seenReceive plan t router payload := by
  refine ⟨Trial.goesOnce plan t router, Trial.readOnce plan t router, ?_⟩
  intro webhook front route middle back extra hfirst
  have hsame : Trial.seenDispatch plan t ⟨front ++ route :: (middle ++ extra :: back)⟩ webhook =
      Trial.seenDispatch plan t router webhook := by
    have hwide := hfirst.widened extra
    rw [Trial.seenDispatch_eq, Trial.seenDispatch_eq, Trial.dispatched_of_first plan t hfirst,
      Trial.dispatched_of_first plan t hwide, hfirst.due, hwide.due]
  refine ⟨hsame, ?_⟩
  intro payload hparse
  rw [Trial.seenReceive_of_read plan t _ hparse, Trial.seenReceive_of_read plan t _ hparse, hsame]

/-- Both routes take a paid invoice, and only the first is called. -/
example :
    let r := Trial.seenDispatch .smooth (.new Sample.idle) Sample.complete
      ⟨"evt_1", "invoice.paid", .null⟩
    (r.1, r.2.state.2) = (.ok "Paid", [(0, .null)]) := by
  rfl

end SubscriptionBilling
