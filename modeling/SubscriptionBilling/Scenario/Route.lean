import SubscriptionBilling.Scenario.Handler
import SubscriptionBilling.Webhook.Router
/-!
# Scripted routes

A route that takes the types a pattern describes, notes the body it is given,
and then succeeds or fails as it was told to.
-/

namespace SubscriptionBilling.Scenario

/-- Which types a scripted route takes. -/
inductive Pattern where
  | anything
  | nothing
  | exactly (type : String)
  | startingWith (beginning : String)
deriving DecidableEq

/-- The pattern describes a type. -/
def Pattern.describes : Pattern → String → Bool
  | anything, _ => true
  | nothing, _ => false
  | exactly expected, type => type == expected
  | startingWith beginning, type => beginning.toList.isPrefixOf type.toList

/-- A scripted route. -/
def route (name : String) (pattern : Pattern) (error : Option WebhookError) :
    Route Handler World where
  name := name
  accepts := pattern.describes
  handle data := do
    ExceptT.lift (World.take (.body name data))
    if let some error := error then
      throw error

end SubscriptionBilling.Scenario
