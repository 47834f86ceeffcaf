import SubscriptionBilling.Gateway
import SubscriptionBilling.Subscription.StatusChanged
/-!
# Operations outside of the services

All that a service does outside of itself is one of ten operations, of the two
stores, of the payment provider and of the publisher of events.  A `Call` is an
operation together with what it is given; any call can be made to fail before
it has an effect.
-/

namespace SubscriptionBilling

/-- What a service can ask for. -/
inductive Operation where
  | saveCustomer
  | insertCustomer
  | findCustomer
  | findLinkedCustomer
  | saveSubscription
  | findSubscription
  | listSubscriptions
  | modifySubscription
  | createAccount
  | publish
deriving DecidableEq, Repr

/-- An operation with what it is given. -/
inductive Call where
  | saveCustomer (customer : Customer)
  | insertCustomer (customer : Customer)
  | findCustomer (id : CustomerId)
  | findLinkedCustomer (providerId : String)
  | saveSubscription (s : Subscription)
  | findSubscription (id : SubscriptionId)
  | listSubscriptions (customer : CustomerId)
  | modifySubscription (id : SubscriptionId)
  | createAccount (request : AccountRequest)
  | publish (e : Envelope)

/-- The operation of a call. -/
def Call.operation : Call → Operation
  | saveCustomer _ => .saveCustomer
  | insertCustomer _ => .insertCustomer
  | findCustomer _ => .findCustomer
  | findLinkedCustomer _ => .findLinkedCustomer
  | saveSubscription _ => .saveSubscription
  | findSubscription _ => .findSubscription
  | listSubscriptions _ => .listSubscriptions
  | modifySubscription _ => .modifySubscription
  | createAccount _ => .createAccount
  | publish _ => .publish

end SubscriptionBilling
