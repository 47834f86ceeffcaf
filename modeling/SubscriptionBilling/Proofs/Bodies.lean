import SubscriptionBilling.Bus.Host
import SubscriptionBilling.Proofs.Delivery
/-!
# What a body can change

The body of a webhook comes from outside and may be any document at all.  Two
things are read from it: the customer that it refers to, written as a text or as
an object with an `id` (`RefersTo`), and for a paid invoice the plan that it names
(`NamesPlan`).

`handled_alike` says that nothing else counts.  Two bodies that agree in what is
read are one and the same activity, so that no run can tell them apart: not by the
result, not by the stores, the clock and the UUIDs left, and not by what was
published.  And a body that refers to nobody does nothing but leave a line in the
log.
-/

namespace SubscriptionBilling

namespace Webhook

/-- A body refers to a customer by the provider's identifier, either directly or
as the `id` of an object that may have other members. -/
inductive RefersTo (data : Json) (providerId : String) : Prop
  | collapsed (object : Json) (hobject : data.member? "object" = some object)
      (hcustomer : object.member? "customer" = some (.string providerId))
      (hnonempty : providerId ≠ "")
  | expanded (object customer : Json) (hobject : data.member? "object" = some object)
      (hcustomer : object.member? "customer" = some customer)
      (hid : customer.member? "id" = some (.string providerId)) (hnonempty : providerId ≠ "")

/-- A body names a plan. -/
def NamesPlan (data : Json) (plan : String) : Prop :=
  ∃ object, data.member? "object" = some object ∧
    object.member? "plan_id" = some (.string plan) ∧ plan ≠ ""

variable {data : Json} {s r : String}

/-- Of a text there is something just if it is not empty, and then it is the text. -/
theorem nonempty?_eq_some_iff : nonempty? s = some r ↔ s = r ∧ r ≠ "" := by
  unfold nonempty?
  split
  · rename_i hempty
    subst hempty
    exact ⟨fun h => (nomatch h), fun ⟨heq, hne⟩ => absurd heq.symm hne⟩
  · rename_i hne
    rw [Option.some.injEq]
    exact ⟨fun heq => ⟨heq, heq ▸ hne⟩, And.left⟩

/-- What is read of a member, if it is a text and not an empty one: anything else counts
as if it were not there. -/
theorem text?_bind_nonempty?_eq_some_iff {value : Option Json} :
    (value.bind Json.text?).bind nonempty? = some r ↔ value = some (.string r) ∧ r ≠ "" := by
  simp only [Option.bind_eq_some_iff, Json.text?_eq_some_iff, nonempty?_eq_some_iff]
  constructor
  · rintro ⟨s, ⟨document, rfl, rfl⟩, rfl, hnonempty⟩
    exact ⟨rfl, hnonempty⟩
  · rintro ⟨rfl, hnonempty⟩
    exact ⟨r, ⟨_, rfl, rfl⟩, rfl, hnonempty⟩

/-- A member `customer` names a customer by a text, or by a member `id` that is a text,
and neither may be empty. -/
theorem customerId?_eq_some_iff {customer : Json} :
    customerId? customer = some r ↔
      (customer = .string r ∨ customer.member? "id" = some (.string r)) ∧ r ≠ "" := by
  cases customer with
  | string s =>
      rw [customerId?, nonempty?_eq_some_iff, Json.string.injEq]
      simp [Json.member?]
  | object members =>
      rw [customerId?, text?_bind_nonempty?_eq_some_iff]
      simp [Json.member?]
  | null => simp [customerId?, Json.member?]
  | bool b => simp [customerId?, Json.member?]
  | number n => simp [customerId?, Json.member?]
  | array items => simp [customerId?, Json.member?]

/-- A reference is read if and only if the body has it, in one of the two
forms. -/
theorem customerReference_eq_some_iff : customerReference data = some r ↔ RefersTo data r := by
  unfold customerReference
  constructor
  · intro h
    obtain ⟨customer, hmember, hid⟩ := Option.bind_eq_some_iff.mp h
    obtain ⟨object, hobject, hcustomer⟩ := Option.bind_eq_some_iff.mp hmember
    obtain ⟨rfl | hid, hnonempty⟩ := customerId?_eq_some_iff.mp hid
    · exact .collapsed object hobject hcustomer hnonempty
    · exact .expanded object customer hobject hcustomer hid hnonempty
  · rintro (⟨object, hobject, hcustomer, hnonempty⟩ | ⟨object, customer, hobject, hcustomer, hid,
      hnonempty⟩)
    · rw [hobject, Option.bind_some, hcustomer, Option.bind_some]
      exact customerId?_eq_some_iff.mpr ⟨.inl rfl, hnonempty⟩
    · rw [hobject, Option.bind_some, hcustomer, Option.bind_some]
      exact customerId?_eq_some_iff.mpr ⟨.inr hid, hnonempty⟩

/-- A body names no customer just if it names nobody in any of the two forms. -/
theorem customerReference_eq_none_iff :
    customerReference data = none ↔ ∀ r, ¬ RefersTo data r := by
  simp only [Option.eq_none_iff_forall_ne_some, ne_eq, customerReference_eq_some_iff]

/-- A plan is read of a body if and only if the body names it, by a text that is not
empty. -/
theorem planReference_eq_some_iff : planReference data = some r ↔ NamesPlan data r := by
  rw [planReference, text?_bind_nonempty?_eq_some_iff, Option.bind_eq_some_iff]
  exact ⟨fun ⟨⟨object, hobject, hplan⟩, hnonempty⟩ => ⟨object, hobject, hplan, hnonempty⟩,
    fun ⟨object, hobject, hplan, hnonempty⟩ => ⟨⟨object, hobject, hplan⟩, hnonempty⟩⟩

end Webhook

/-- The plan of a first subscription: the one that the body names, or that of the
terms. -/
def Terms.planOf (terms : Terms) (data : Json) : String :=
  (Webhook.planReference data).getD terms.defaultPlan

/-- The plan is the one that the body names, and the default one just if the body names
none. -/
theorem Terms.planOf_eq_iff {terms : Terms} {data : Json} {plan : String} :
    terms.planOf data = plan ↔ Webhook.NamesPlan data plan ∨
      plan = terms.defaultPlan ∧ ∀ other, ¬ Webhook.NamesPlan data other := by
  simp only [Terms.planOf, ← Webhook.planReference_eq_some_iff]
  cases Webhook.planReference data with
  | none => simp [eq_comm]
  | some named => simp

/-! ## Activities that no run can tell apart -/

namespace Routes

variable {H : Type}

/-- Two ways to handle a webhook that no run can tell apart: against every plan of
failures they end with the same result, in the same state and after the same
calls, and on every bus they come to the same, down to the log. -/
structure Alike (x y : ExceptT WebhookError (Activity H World) Unit) : Prop where
  trial (plan : Plan) (t : Trial World) : Trial.run plan x t = Trial.run plan y t
  bus (handling : Bus.Handling H World) (depth : Nat) (host : Bus.Host H World) :
    host.perform handling depth x.run = host.perform handling depth y.run

/-- A webhook is acknowledged: whatever the plan of failures, it is accepted
without any call, and on every bus nothing happens but for a line in the log. -/
structure Acknowledges (x : ExceptT WebhookError (Activity H World) Unit) : Prop where
  trial (plan : Plan) (t : Trial World) : Trial.run plan x t = (.ok (), t)
  bus (handling : Bus.Handling H World) (depth : Nat) (host : Bus.Host H World) :
    ∃ entry, host.perform handling depth x.run =
      some (.ok (), { host with log := host.log ++ [entry] })

/-- Two handlings that are one and the same activity are alike wherever they run. -/
theorem Alike.of_eq {x y : ExceptT WebhookError (Activity H World) Unit} (h : x = y) :
    Alike x y := by
  subst h
  exact ⟨fun _ _ => rfl, fun _ _ _ => rfl⟩

variable {terms : Terms} {data d₁ d₂ : Json}

/-- Whom a body refers to is all that looking for the customer depends on. -/
theorem forCustomer_congr (h : Webhook.customerReference d₁ = Webhook.customerReference d₂)
    (type : String) (work : Customer → Service H Unit) :
    forCustomer d₁ type work = forCustomer d₂ type work := by
  unfold forCustomer customerOf
  rw [h]

/-- The plan is all that the work for a paying customer depends on. -/
theorem renewAll_congr (h : terms.planOf d₁ = terms.planOf d₂) :
    (renewAll terms d₁ : Customer → Service H Unit) = renewAll terms d₂ := by
  have hsubscribe : ∀ customer periodEnd,
      (subscribe terms customer d₁ periodEnd : Service H Unit) =
        subscribe terms customer d₂ periodEnd := by
    intro customer periodEnd
    unfold Terms.planOf at h
    unfold subscribe
    rw [h]
  funext customer
  unfold renewAll
  simp only [hsubscribe]

/-- A paid invoice depends on its body by the customer that it names and by the plan,
and by nothing else. -/
theorem renew_congr (hreference : Webhook.customerReference d₁ = Webhook.customerReference d₂)
    (hplan : terms.planOf d₁ = terms.planOf d₂) :
    (renew terms d₁ : Service H Unit) = renew terms d₂ := by
  rw [renew, renewAll_congr hplan]
  exact forCustomer_congr hreference invoicePaidType _

/-- The end of a subscription at the provider depends on its body by the customer that
it names, and by nothing else. -/
theorem cancel_congr (h : Webhook.customerReference d₁ = Webhook.customerReference d₂) :
    (cancel d₁ : Service H Unit) = cancel d₂ :=
  forCustomer_congr h subscriptionDeletedType cancelAll

/-- A route sees of a body no more than its service makes of it: where the services are
the same activity, so are the routes. -/
theorem handling_congr {service : Json → Service H Unit} (h : service d₁ = service d₂) :
    handling service d₁ = handling service d₂ := by
  unfold handling
  rw [h]

/-- Where nobody is referred to, there is nobody to work for. -/
theorem acknowledges_handling {service : Json → Service H Unit} {type : String}
    {work : Customer → Service H Unit} (hservice : service data = forCustomer data type work)
    (h : Webhook.customerReference data = none) : Acknowledges (handling service data) := by
  obtain ⟨entry, htold⟩ : ∃ entry, (handling service data).run = .log entry (.done (.ok ())) := by
    unfold handling
    rw [hservice]
    unfold forCustomer customerOf
    rw [h]
    exact ⟨_, rfl⟩
  refine ⟨fun plan t => ?_, fun handling depth host => ⟨entry, ?_⟩⟩
  · rw [Trial.run, htold]
    rfl
  · rw [htold]
    rfl

end Routes

/-- **Nothing else in a body counts.**  A reference is the text or the `id` that is
found where a customer belongs, and the plan is the one that is named or that of
the terms.  Two bodies with one reference and one plan are handled alike as paid
invoices, and two bodies with one reference as subscriptions that ended.  A body
with no reference is acknowledged. -/
theorem handled_alike {H : Type} (terms : Terms) :
    (∀ data providerId, Webhook.customerReference data = some providerId ↔
      Webhook.RefersTo data providerId) ∧
    (∀ data plan, terms.planOf data = plan ↔ Webhook.NamesPlan data plan ∨
      plan = terms.defaultPlan ∧ ∀ other, ¬ Webhook.NamesPlan data other) ∧
    (∀ d₁ d₂, Webhook.customerReference d₁ = Webhook.customerReference d₂ →
      terms.planOf d₁ = terms.planOf d₂ →
      Routes.Alike ((Routes.invoicePaid terms : Route H World).handle d₁)
        ((Routes.invoicePaid terms).handle d₂)) ∧
    (∀ d₁ d₂, Webhook.customerReference d₁ = Webhook.customerReference d₂ →
      Routes.Alike ((Routes.subscriptionDeleted : Route H World).handle d₁)
        (Routes.subscriptionDeleted.handle d₂)) ∧
    ∀ data, (∀ providerId, ¬ Webhook.RefersTo data providerId) →
      Routes.Acknowledges ((Routes.invoicePaid terms : Route H World).handle data) ∧
      Routes.Acknowledges ((Routes.subscriptionDeleted : Route H World).handle data) := by
  refine ⟨fun _ _ => Webhook.customerReference_eq_some_iff, fun _ _ => Terms.planOf_eq_iff,
    ?paid, ?deleted, ?others⟩
  case paid =>
    intro d₁ d₂ hreference hplan
    exact .of_eq (Routes.handling_congr (Routes.renew_congr hreference hplan))
  case deleted =>
    intro d₁ d₂ hreference
    exact .of_eq (Routes.handling_congr (Routes.cancel_congr hreference))
  case others =>
    intro data hnobody
    have hnone := Webhook.customerReference_eq_none_iff.mpr hnobody
    exact ⟨Routes.acknowledges_handling rfl hnone, Routes.acknowledges_handling rfl hnone⟩

namespace Sample

/-- A body in which the customer is a text. -/
def collapsedBody : Json :=
  .object [("object", .object [("customer", .string "cus_7"), ("plan_id", .string "gold")])]

/-- A body in which the same customer is an object, with other members around. -/
def expandedBody : Json :=
  .object [("livemode", .bool true),
    ("object", .object [("amount", .null), ("plan_id", .string "gold"),
      ("customer", .object [("email", .string "a@b.c"), ("id", .string "cus_7")])])]

/-- The same customer on another plan. -/
def otherPlanBody : Json :=
  .object [("object", .object [("customer", .string "cus_7"), ("plan_id", .string "")])]

/-- A body whose customer has no identifier. -/
def namelessBody : Json :=
  .object [("object", .object [("customer", .object [("id", .string "")])])]

end Sample

/-- The two forms of a customer are handled alike. -/
theorem handled_alike_forms :
    Webhook.customerReference Sample.collapsedBody = some "cus_7" ∧
    Routes.Alike ((Routes.invoicePaid (H := Scenario.Handler) default).handle Sample.collapsedBody)
      ((Routes.invoicePaid default).handle Sample.expandedBody) ∧
    Routes.Alike ((Routes.subscriptionDeleted (H := Scenario.Handler)).handle Sample.otherPlanBody)
      (Routes.subscriptionDeleted.handle Sample.expandedBody) ∧
    Routes.Acknowledges
      ((Routes.invoicePaid (H := Scenario.Handler) default).handle Sample.namelessBody) := by
  obtain ⟨-, -, hpaid, hdeleted, hothers⟩ := handled_alike (H := Scenario.Handler) default
  have hnobody : ∀ providerId, ¬ Webhook.RefersTo Sample.namelessBody providerId :=
    Webhook.customerReference_eq_none_iff.mp (by decide)
  exact ⟨by decide, hpaid _ _ (by decide) (by decide), hdeleted _ _ (by decide),
    (hothers _ hnobody).1⟩

end SubscriptionBilling
