import SubscriptionBilling.Activity
import SubscriptionBilling.Text.Quoted
import SubscriptionBilling.Webhook.Basic
/-!
# Routing webhooks

A router is a list of routes, and the first route that accepts the type of a
webhook handles it, alone.  A router whose last route accepts everything never
turns a webhook away (`Router.hasCatchAll`); it is tried with a type that no
provider sends.
-/

namespace SubscriptionBilling

/-- A way to handle webhooks of some types. -/
structure Route (H σ : Type) where
  name : String
  accepts : String → Bool
  handle : Json → ExceptT WebhookError (Activity H σ) Unit

/-- Routes in the order in which they are tried. -/
structure Router (H σ : Type) where
  routes : List (Route H σ)

namespace Router

variable {H σ : Type}

/-- A type that no provider sends. -/
def unroutableType : String := "__billing_core__.unroutable"

/-- The names of the routes, in order. -/
def names (router : Router H σ) : List String := router.routes.map Route.name

/-- The last route accepts any type. -/
def hasCatchAll (router : Router H σ) : Bool :=
  match router.routes.getLast? with
  | some route => route.accepts unroutableType
  | none => false

/-- The route of a type, as far as there is one. -/
def route? (router : Router H σ) (type : String) : Option (Route H σ) :=
  router.routes.find? fun route => route.accepts type

/-- The route of a type. -/
def resolve (router : Router H σ) (type : String) :
    ExceptT WebhookError (Activity H σ) (Route H σ) := do
  match router.route? type with
  | some route =>
    ExceptT.lift (Activity.tell .debug "Resolved webhook strategy"
      [("event_type", .text type), ("strategy", .text route.name)])
    return route
  | none =>
    ExceptT.lift (Activity.tell .warn "No webhook strategy supports event type"
      [("event_type", .text type)])
    throw (.noRoute type)

/-- Handles a webhook and tells the name of its route. -/
def dispatch (router : Router H σ) (webhook : Webhook) :
    ExceptT WebhookError (Activity H σ) String := do
  let route ← router.resolve webhook.type
  route.handle webhook.data
  return route.name

/-- A router in one line. -/
def display (router : Router H σ) : String :=
  "WebhookDispatcher \x7b strategies: " ++ Text.quotedList router.names ++ " \x7d"

end Router

end SubscriptionBilling
