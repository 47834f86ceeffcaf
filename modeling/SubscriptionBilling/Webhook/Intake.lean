import SubscriptionBilling.Webhook.Router
/-!
# Taking in webhooks

An intake is a router that was accepted for use.  With strict routing only a
router with a catch-all is accepted; without it the lack of one is only logged.
A payload is parsed and dispatched, and what came of it is logged.
-/

namespace SubscriptionBilling

/-- A router in use. -/
structure Intake (H σ : Type) where
  router : Router H σ

namespace Intake

variable {H σ : Type}

/-- What came of a webhook. -/
structure Receipt where
  id : String
  type : String
  handledBy : String
deriving DecidableEq

/-- The router has no catch-all. -/
def noCatchAll : Failure := .new .noHandlerFound "Webhook strategies have no catch-all"

/-- Accepts a router for use. -/
def accept (router : Router H σ) (strict : Bool) :
    ExceptT Failure (Activity H σ) (Intake H σ) := do
  if !router.hasCatchAll then
    if strict then throw noCatchAll
    ExceptT.lift (Activity.tell .warn
      "Webhook strategies have no catch-all; unknown event types will fail"
      [("strategies", .text (Text.quotedList router.names))])
  return ⟨router⟩

/-- Takes in a payload. -/
def receive (intake : Intake H σ) (payload : String) :
    ExceptT WebhookError (Activity H σ) Receipt := do
  let webhook ← Webhook.parse payload
  match ← ExceptT.lift (intake.router.dispatch webhook).run with
  | .error error =>
    ExceptT.lift (Activity.tell .warn "Webhook processing failed"
      [("event_id", .text webhook.id), ("event_type", .text webhook.type),
        ("retryable", .truth error.isRetryable), ("error", .text error.message)])
    throw error
  | .ok name =>
    ExceptT.lift (Activity.tell .info "Webhook processed"
      [("event_id", .text webhook.id), ("event_type", .text webhook.type),
        ("handled_by", .text name)])
    return ⟨webhook.id, webhook.type, name⟩

/-- An intake in one line. -/
def display (intake : Intake H σ) : String :=
  "HandleStripeWebhookHandler \x7b dispatcher: " ++ intake.router.display ++ " \x7d"

end Intake

end SubscriptionBilling
