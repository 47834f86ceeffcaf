import Mathlib
import SubscriptionBilling.Scenario.Route
import SubscriptionBilling.Trial
import SubscriptionBilling.Webhook.Intake
/-!
# Which webhooks find no route

What an intake comes to in a trial, over any router at all: a payload that is
read goes to the first route that accepts its type (`Trial.dispatched`,
`run_receive_read`), and a payload that is not read goes nowhere.

Strict routing lets in a router whose last route accepts a type that no provider
sends.  `noRoute_iff_of_accepted` says what that is worth.  It is one type out
of many: a webhook of another type may still be turned away, and what a route
fails with comes back unaltered, which may be the same error.  Both happen
(`noRoute_behind_probe`).  Nothing else does, so a last route that accepts
everything keeps every webhook from being turned away, as long as no route says
so of its own accord.
-/

namespace SubscriptionBilling

/-- To tell less of a success makes no failure of it, and leaves a failure what it is.
-/
theorem map_eq_error_iff {ε α β : Type} {x : Except ε α} {f : α → β} {e : ε} :
    x.map f = .error e ↔ x = .error e := by
  cases x <;> simp [Except.map]

namespace Router

variable {H σ : Type} {router : Router H σ} {type : String} {route : Route H σ}

/-- A catch-all is a last route that accepts the type that no provider sends. -/
theorem hasCatchAll_iff :
    router.hasCatchAll = true ↔ ∃ front last, router.routes = front ++ [last] ∧
      last.accepts unroutableType = true := by
  unfold hasCatchAll
  constructor
  · intro h
    cases hlast : router.routes.getLast? with
    | none => simp [hlast] at h
    | some last =>
        obtain ⟨front, hroutes⟩ := List.getLast?_eq_some_iff.mp hlast
        rw [hlast] at h
        exact ⟨front, last, hroutes, h⟩
  · rintro ⟨front, last, hroutes, haccepts⟩
    simp [hroutes, haccepts]

/-- A type has no route just if no route of the router accepts it. -/
theorem route?_eq_none_iff :
    router.route? type = none ↔ ∀ route ∈ router.routes, route.accepts type = false := by
  simp [route?]

/-- The route of a type is one that accepts it behind others that do not. -/
theorem route?_eq_some_iff :
    router.route? type = some route ↔ route.accepts type = true ∧
      ∃ front back, router.routes = front ++ route :: back ∧
        ∀ other ∈ front, other.accepts type = false := by
  simp [route?, List.find?_eq_some_iff_append]

end Router

namespace Trial

variable {H σ : Type} (plan : Plan) (t : Trial σ) (router : Router H σ)

/-- To resolve a type finds the first route that accepts it, and makes no call. -/
theorem run_resolve (type : String) :
    run plan (router.resolve type) t =
      match router.route? type with
      | some route => (.ok route, t)
      | none => (.error (.noRoute type), t) := by
  unfold Router.resolve
  cases router.route? type <;> rfl

/-- What dispatching a webhook comes to. -/
def dispatched (webhook : Webhook) : Except WebhookError String × Trial σ :=
  match router.route? webhook.type with
  | none => (.error (.noRoute webhook.type), t)
  | some route =>
    ((run plan (route.handle webhook.data) t).1.map fun _ => route.name,
      (run plan (route.handle webhook.data) t).2)

/-- To dispatch a webhook finds its route and leaves the body to it. -/
theorem run_dispatch (webhook : Webhook) :
    run plan (router.dispatch webhook) t = dispatched plan t router webhook := by
  rw [Router.dispatch, run_bind, run_resolve, dispatched]
  cases router.route? webhook.type with
  | none => rfl
  | some route =>
      simp only [run_bind]
      obtain ⟨result, t'⟩ := run plan (route.handle webhook.data) t
      cases result <;> rfl

/-- A payload that is not read comes back as what it is, and no route is asked. -/
theorem run_receive_unread {payload : String} {error : WebhookError}
    (hparse : Webhook.parse payload = .error error) :
    run plan (Intake.receive ⟨router⟩ payload) t = (.error error, t) := by
  rw [Intake.receive, hparse]
  rfl

/-- A payload that is read is dispatched, and the receipt names the webhook and the
route. -/
theorem run_receive_read {payload : String} {webhook : Webhook}
    (hparse : Webhook.parse payload = .ok webhook) :
    run plan (Intake.receive ⟨router⟩ payload) t =
      ((dispatched plan t router webhook).1.map fun name => ⟨webhook.id, webhook.type, name⟩,
        (dispatched plan t router webhook).2) := by
  have hdispatch := run_dispatch plan t router webhook
  rw [Intake.receive, hparse, run_bind, run_ofExcept]
  simp only [run_bind, run_lift]
  unfold run at hdispatch ⊢
  rw [hdispatch]
  obtain ⟨result, t'⟩ := dispatched plan t router webhook
  cases result <;> rfl

/-- A payload that is not read is never the fault of the routes. -/
theorem parse_ne_noRoute (payload type : String) :
    Webhook.parse payload ≠ .error (.noRoute type) := by
  unfold Webhook.parse
  cases Webhook.schema.parse payload <;> simp [Except.mapError]

/-- Why a webhook is turned away. -/
inductive TurnedAway (webhook : Webhook) : String → Prop
  /-- No route accepts its type. -/
  | unaccepted (hnone : ∀ route ∈ router.routes, route.accepts webhook.type = false) :
      TurnedAway webhook webhook.type
  /-- The first route that accepts its type says that there is no route. -/
  | disowned (type : String) (route : Route H σ) (front back : List (Route H σ))
      (hroutes : router.routes = front ++ route :: back)
      (hfront : ∀ other ∈ front, other.accepts webhook.type = false)
      (haccepts : route.accepts webhook.type = true)
      (hdenies : (run plan (route.handle webhook.data) t).1 = .error (.noRoute type)) :
      TurnedAway webhook type

/-- **A dispatch.** That there is no route for a type is said of the type of the webhook
if no route accepts it, or else by the route that handles it. -/
theorem dispatched_eq_noRoute_iff (webhook : Webhook) (type : String) :
    (dispatched plan t router webhook).1 = .error (.noRoute type) ↔
      TurnedAway plan t router webhook type := by
  unfold dispatched
  cases hroute : router.route? webhook.type with
  | none =>
      constructor
      · intro h
        cases h
        exact .unaccepted (Router.route?_eq_none_iff.mp hroute)
      · intro h
        cases h with
        | unaccepted => rfl
        | disowned _ route front back hroutes hfront haccepts =>
            have hsome := Router.route?_eq_some_iff.mpr ⟨haccepts, front, back, hroutes, hfront⟩
            cases hroute.symm.trans hsome
  | some route =>
      obtain ⟨haccepts, front, back, hroutes, hfront⟩ := Router.route?_eq_some_iff.mp hroute
      dsimp only
      rw [map_eq_error_iff]
      constructor
      · exact .disowned type route front back hroutes hfront haccepts
      · intro h
        cases h with
        | unaccepted hnone =>
            cases hroute.symm.trans (Router.route?_eq_none_iff.mpr hnone)
        | disowned _ other front' back' hroutes' hfront' haccepts' hdenies =>
            have hother := Router.route?_eq_some_iff.mpr
              ⟨haccepts', front', back', hroutes', hfront'⟩
            cases hroute.symm.trans hother
            exact hdenies

/-- **A delivery.** That there is no route is said of a payload just if it reads and its
webhook is turned away. -/
theorem receive_eq_noRoute_iff (payload type : String) :
    (run plan (Intake.receive ⟨router⟩ payload) t).1 = .error (.noRoute type) ↔
      ∃ webhook, Webhook.parse payload = .ok webhook ∧
        TurnedAway plan t router webhook type := by
  cases hparse : Webhook.parse payload with
  | error error =>
      rw [run_receive_unread plan t router hparse]
      have hother : error ≠ .noRoute type :=
        fun h => parse_ne_noRoute payload type (hparse.trans (congrArg Except.error h))
      simp [hother]
  | ok webhook =>
      rw [run_receive_read plan t router hparse, map_eq_error_iff, dispatched_eq_noRoute_iff]
      simp

/-- A scripted route fails with what it was told to, and with nothing else. -/
theorem result_scripted (plan : Plan) (t : Trial World) (name : String)
    (pattern : Scenario.Pattern) (error : Option WebhookError) (data : Json) :
    (run plan ((Scenario.route name pattern error).handle data) t).1 =
      error.elim (.ok ()) .error := by
  cases error <;> rfl

/-- Strict routing lets in a router with a catch-all, as it is, and no other. -/
theorem run_accept_strict :
    run plan (Intake.accept router true) t =
      (if router.hasCatchAll then .ok ⟨router⟩ else .error Intake.noCatchAll, t) := by
  unfold Intake.accept
  cases router.hasCatchAll <;> rfl

end Trial

/-- **Strict routing.**  A router that was let in ends with a route that accepts
the type that no provider sends.  It turns away just the webhooks that none of
its routes accepts, and those that the first route that accepts them turns away
itself.  So if the last route accepts everything and no route turns a webhook
away, nothing is turned away. -/
theorem noRoute_iff_of_accepted {H σ : Type} {router : Router H σ} {intake : Intake H σ}
    {plan : Plan} {t t' : Trial σ}
    (haccepted : Trial.run plan (Intake.accept router true) t = (.ok intake, t')) :
    ∃ front last, router.routes = front ++ [last] ∧ last.accepts Router.unroutableType = true ∧
      (∀ plan t payload type,
        (Trial.run plan (intake.receive payload) t).1 = .error (.noRoute type) ↔
          ∃ webhook, Webhook.parse payload = .ok webhook ∧
            Trial.TurnedAway plan t router webhook type) ∧
      ((∀ type, last.accepts type = true) →
        (∀ route ∈ router.routes, ∀ plan t data type,
          (Trial.run plan (route.handle data) t).1 ≠ .error (.noRoute type)) →
        ∀ plan t payload type,
          (Trial.run plan (intake.receive payload) t).1 ≠ .error (.noRoute type)) := by
  rw [Trial.run_accept_strict] at haccepted
  have hcatch : router.hasCatchAll = true := by
    by_contra hnone
    simp [hnone] at haccepted
  have hintake : intake = ⟨router⟩ := by
    simpa [hcatch, eq_comm] using congrArg Prod.fst haccepted
  subst hintake
  obtain ⟨front, last, hroutes, hprobe⟩ := Router.hasCatchAll_iff.mp hcatch
  have hturned := fun plan t => Trial.receive_eq_noRoute_iff plan t router
  refine ⟨front, last, hroutes, hprobe, hturned, ?_⟩
  intro hall hnever plan t payload type hresult
  obtain ⟨webhook, -, haway⟩ := (hturned plan t payload type).mp hresult
  cases haway with
  | unaccepted hnone =>
      have hlast : last ∈ router.routes := by simp [hroutes]
      have hrefuses := hnone last hlast
      rw [hall webhook.type] at hrefuses
      cases hrefuses
  | disowned _ route front back hsplit _ _ hdenies =>
      have hroute : route ∈ router.routes := by simp [hsplit]
      exact hnever route hroute plan t webhook.data type hdenies

namespace Sample

/-- Nobody is known and nothing is stored. -/
def idle : World := .new (.new (fun _ => default) Uuid.ofNat)

/-- A route for one type, and one for every other. -/
def complete : Router Scenario.Handler World :=
  ⟨[Scenario.route "Paid" (.exactly "invoice.paid") none,
    Scenario.route "Default" .anything none]⟩

/-- A route for types that no provider sends. -/
def probed : Router Scenario.Handler World :=
  ⟨[Scenario.route "Internal" (.startingWith "__billing_core__") none]⟩

/-- A route for everything, which says that there is none. -/
def disowning : Router Scenario.Handler World :=
  ⟨[Scenario.route "Default" .anything (some (.noRoute "invoice.paid"))]⟩

/-- A paid invoice without a body. -/
def bare : String := "\x7b\"id\":\"evt_1\",\"type\":\"invoice.paid\"\x7d"

theorem parse_bare : Webhook.parse bare = .ok ⟨"evt_1", "invoice.paid", .null⟩ := by
  cbv

end Sample

/-- A router that takes everything turns nothing away. -/
theorem noRoute_iff_of_accepted_complete :
    Trial.run .smooth (Intake.accept Sample.complete true) (.new Sample.idle) =
        (.ok ⟨Sample.complete⟩, .new Sample.idle) ∧
      ∀ plan t payload type,
        (Trial.run plan (Intake.receive ⟨Sample.complete⟩ payload) t).1 ≠
          .error (.noRoute type) := by
  have haccepted : Trial.run .smooth (Intake.accept Sample.complete true) (.new Sample.idle) =
      (.ok ⟨Sample.complete⟩, .new Sample.idle) := by
    rw [Trial.run_accept_strict]
    rfl
  obtain ⟨front, last, hroutes, -, -, hnothing⟩ := noRoute_iff_of_accepted haccepted
  have hlast : last = Scenario.route "Default" .anything none := by
    have hgetLast := congrArg List.getLast? hroutes
    simpa [Sample.complete, eq_comm] using hgetLast
  refine ⟨haccepted, hnothing (fun type => hlast ▸ rfl) ?_⟩
  intro route hroute plan t data type
  have hscripted : route = Scenario.route "Paid" (.exactly "invoice.paid") none ∨
      route = Scenario.route "Default" .anything none := by
    simpa [Sample.complete] using hroute
  rcases hscripted with rfl | rfl
  · simp [Trial.result_scripted]
  · simp [Trial.result_scripted]

/-- Strict routing lets both routers in, and yet each turns a paid invoice away. -/
theorem noRoute_behind_probe :
    (Trial.run .smooth (Intake.accept Sample.probed true) (.new Sample.idle)).1 =
        .ok ⟨Sample.probed⟩ ∧
      (Trial.run .smooth (Intake.receive ⟨Sample.probed⟩ Sample.bare) (.new Sample.idle)).1 =
        .error (.noRoute "invoice.paid") ∧
      (Trial.run .smooth (Intake.accept Sample.disowning true) (.new Sample.idle)).1 =
        .ok ⟨Sample.disowning⟩ ∧
      (Trial.run .smooth (Intake.receive ⟨Sample.disowning⟩ Sample.bare) (.new Sample.idle)).1 =
        .error (.noRoute "invoice.paid") := by
  simp only [Trial.run_accept_strict, Trial.run_receive_read _ _ _ Sample.parse_bare]
  exact ⟨rfl, rfl, rfl, rfl⟩

end SubscriptionBilling
