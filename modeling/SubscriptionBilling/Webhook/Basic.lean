import SubscriptionBilling.Failure
import SubscriptionBilling.Json.Record
/-!
# Webhooks of the payment provider

A webhook has an identifier, a type and a body.  Only the first two are known
beforehand; the body is a document that the route for the type makes sense of.

* `Webhook.parse` reads a payload;
* `customerReference` finds the provider's identifier of the customer, given
  directly or inside an object;
* `WebhookError` says why a webhook was not handled, and
  `WebhookError.isRetryable` whether the provider should deliver it again.
-/

namespace SubscriptionBilling

/-- Why a webhook was not handled. -/
inductive WebhookError where
  | noRoute (type : String)
  | unreadable (why : String)
  | failed (failure : Failure)
deriving DecidableEq

namespace WebhookError

/-- No route takes webhooks of this type. -/
def noRouteMessage (type : String) : String := s!"No webhook handler found for event type '{type}'"

/-- The wording of a webhook error. -/
def message : WebhookError → String
  | noRoute type => noRouteMessage type
  | unreadable why => s!"Parse error: {why}"
  | failed failure => s!"Webhook handler failed: {failure.display}"

/-- Delivering the webhook again may help. -/
def isRetryable : WebhookError → Bool
  | failed failure => failure.code = .databaseError || failure.code = .internalError
  | noRoute _ => false
  | unreadable _ => false

/-- A webhook error as a failure. -/
def toFailure : WebhookError → Failure
  | noRoute type =>
    (Failure.new .noHandlerFound (noRouteMessage type)).withDetail "event_type" type
  | unreadable why => .new .invalidFormat why
  | failed failure => failure

end WebhookError

/-- A webhook. -/
structure Webhook where
  id : String
  type : String
  data : Json

namespace Webhook

/-- A webhook in a document; the body may be left out and then is null. -/
def schema : Json.Schema Webhook :=
  .record "WebhookEvent"
    (.cons (.required "id" .string)
      (.cons (.required "type" .string) (.cons (.withDefault "data" .anything .null) .nil)))
    (fun w => (w.id, w.type, w.data, ()))
    (fun (id, type, data, ()) => ⟨id, type, data⟩)

/-- Reads a payload. -/
def parse (payload : String) : Except WebhookError Webhook :=
  (schema.parse payload).mapError fun fault => .unreadable (fault.message payload)

/-- A text that is not empty. -/
def nonempty? (s : String) : Option String := if s = "" then none else some s

/-- The provider's identifier in a customer: the text itself, or the `id` of an
object. -/
def customerId? (customer : Json) : Option String :=
  match customer with
  | .string s => nonempty? s
  | .object members => ((Dictionary.find? "id" members).bind Json.text?).bind nonempty?
  | _ => none

/-- The provider's identifier of the customer whom a body refers to. -/
def customerReference (data : Json) : Option String :=
  ((data.member? "object").bind (Json.member? "customer")).bind customerId?

/-- The plan that a body names. -/
def planReference (data : Json) : Option String :=
  (((data.member? "object").bind (Json.member? "plan_id")).bind Json.text?).bind nonempty?

end Webhook

end SubscriptionBilling
