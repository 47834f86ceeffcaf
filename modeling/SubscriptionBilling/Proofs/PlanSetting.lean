import Mathlib
import SubscriptionBilling.Proofs.PeriodSetting
import SubscriptionBilling.Proofs.Tending
/-!
# The setting of the default plan

Any text can be set as the default plan, and it is loaded, if nothing else is set;
but it need not be loaded as it stands.  As with all settings, the type of the text
is guessed first, and what was guessed is then written as a text again
(`Respelled`): `007` becomes `7`, and `TRUE` becomes `true`.

* `Verbatim` singles out the texts that come through; among them is every name that
  does not begin like a number and is no truth value (`verbatim_of_not_opens`);
* `NewOn` says on which plan a paid invoice puts a customer's first subscription,
  whatever fails, and `Assigns` that it does so;
* `load_plan` puts both together: the subscription gets the text that was loaded.
-/

namespace SubscriptionBilling

namespace Settings

open Text

/-! ## The text that is loaded -/

/-- The words for truth values, whose case does not matter. -/
def truthWords : List String := ["true", "false"]

/-- What a text is loaded as where a text is due. -/
inductive Respelled (v : String) : String → Prop
  /-- A truth value gets into lower case. -/
  | truth (hword : lowercase v ∈ truthWords) : Respelled v (lowercase v)
  /-- An integer of 64 bits loses its plus sign and the zeros in front. -/
  | integer (i : Int) (hinteger : word64? v = some i) : Respelled v (String.ofList (decimalInt i))
  /-- Any other number gets the fewest digits that tell its double from all others,
  and no exponent. -/
  | double (x : Double) (hinteger : word64? v = none) (hdouble : Double.ofText? v = some x) :
      Respelled v x.text
  /-- Everything else stays as it is. -/
  | kept (hword : lowercase v ∉ truthWords) (hinteger : word64? v = none)
      (hdouble : Double.ofText? v = none) : Respelled v v

/-- The texts that are loaded as they stand. -/
structure Verbatim (v : String) : Prop where
  truth : lowercase v ∈ truthWords → lowercase v = v
  integer : (word64? v).isSome → IsUsual v.toList
  double : ∀ x, word64? v = none → Double.ofText? v = some x → x.text = v

variable {v plan : String}

/-- Every text can be read as a text again, whatever it was guessed to be; what comes
out is the guess, written anew. -/
theorem respelled_of_guess (key v : String) :
    ∃ plan, asText key (.guess v) = .ok plan ∧ Respelled v plan := by
  have hguessed := guessed v
  generalize hguess : Setting.guess v = setting at hguessed ⊢
  cases hguessed with
  | on hword => exact ⟨lowercase v, by rw [hword]; rfl, .truth (by rw [hword]; decide)⟩
  | off hword => exact ⟨lowercase v, by rw [hword]; rfl, .truth (by rw [hword]; decide)⟩
  | integer i hinteger => exact ⟨_, rfl, .integer i hinteger⟩
  | double x hinteger hdouble => exact ⟨_, rfl, .double x hinteger hdouble⟩
  | text hinteger hdouble htrue =>
      have hfalse : lowercase v ≠ "false" := by
        intro hword
        have hoff : Setting.guess v = .truth false := (if_neg htrue).trans (if_pos hword)
        rw [hoff] at hguess
        cases hguess
      have hword : lowercase v ∉ truthWords := by simp [truthWords, htrue, hfalse]
      exact ⟨v, rfl, .kept hword hinteger hdouble⟩

/-- No number is a truth value, so that the order of the guesses does not matter for
one. -/
theorem not_number_of_truth (h : lowercase v ∈ truthWords) :
    word64? v = none ∧ Double.ofText? v = none := by
  rcases List.mem_pair.mp h with hword | hword
  · exact not_number_of_word hword (by simp)
  · exact not_number_of_word hword (by simp)

/-- A text is loaded as it stands exactly if it is verbatim. -/
theorem Respelled.eq_iff (h : Respelled v plan) : plan = v ↔ Verbatim v := by
  cases h with
  | truth hword =>
      obtain ⟨hinteger, hdouble⟩ := not_number_of_truth hword
      constructor
      · intro hsame
        exact ⟨fun _ => hsame, by simp [hinteger], by simp [hdouble]⟩
      · intro hverbatim
        exact hverbatim.truth hword
  | integer i hinteger =>
      have hread : integer? v.toList = some i := (Option.filter_eq_some_iff.mp hinteger).1
      have husual : String.ofList (decimalInt i) = v ↔ IsUsual v.toList := by
        rw [← decimalInt_eq_iff hread, ← String.toList_inj, String.toList_ofList]
      rw [husual]
      constructor
      · intro hlayout
        refine ⟨fun hword => ?_, fun _ => hlayout, by simp [hinteger]⟩
        rw [(not_number_of_truth hword).1] at hinteger
        cases hinteger
      · intro hverbatim
        exact hverbatim.integer (by simp [hinteger])
  | double x hinteger hdouble =>
      constructor
      · intro hsame
        refine ⟨fun hword => ?_, by simp [hinteger], fun y _ hy => ?_⟩
        · rw [(not_number_of_truth hword).2] at hdouble
          cases hdouble
        · obtain rfl : x = y := Option.some.inj (hdouble.symm.trans hy)
          exact hsame
      · intro hverbatim
        exact hverbatim.double x hinteger hdouble
  | kept hword hinteger hdouble =>
      have hverbatim : Verbatim v :=
        ⟨fun htruth => absurd htruth hword, by simp [hinteger], by simp [hdouble]⟩
      exact iff_of_true rfl hverbatim

/-- Names that do not begin like a number are verbatim, unless they are truth
values. -/
theorem verbatim_of_not_opens {c : Char} {rest : List Char} (hv : v.toList = c :: rest)
    (hopens : opensNumber c = false) (hword : lowercase v ∉ truthWords) : Verbatim v := by
  obtain ⟨hinteger, hdouble⟩ := not_number_of_not_opens hv hopens
  exact (Respelled.kept hword hinteger hdouble).eq_iff.mp rfl

/-- The variable that sets the default plan. -/
def planVariable : String := "BILLING_CORE__BILLING__DEFAULT_PLAN_ID"

/-- The variable for the default plan leads to its own place in the settings. -/
theorem variablePath?_plan :
    variablePath? planVariable = some ⟨"billing", [.entry "default_plan_id"]⟩ := by
  cbv

/-- The default settings but for the default plan. -/
def withPlan (plan : String) : Settings :=
  { default with billing := { Billing.default with defaultPlan := plan } }

/-- Settings with nothing but a default plan are the default ones with this plan, if it
can be read as a text. -/
theorem ofSetting_plan (plan : Setting) :
    ofSetting (.table [("billing", .table [("default_plan_id", plan)])])
      = (asText "billing.default_plan_id" plan).map withPlan := by
  have hdays : readMember (.table [("default_plan_id", plan)]) "billing" "billing_period_days" 0
      Billing.default.periodDays asDays = .ok Billing.default.periodDays := rfl
  have hplan : readMember (.table [("default_plan_id", plan)]) "billing" "default_plan_id" 1
      Billing.default.defaultPlan asText = asText "billing.default_plan_id" plan := rfl
  rw [ofSetting_billing, Billing.ofSetting, hdays, hplan]
  cases asText "billing.default_plan_id" plan with
  | ok s => rfl
  | error e => rfl

end Settings

/-! ## The plan of a first subscription -/

namespace Trial

/-- A subscription that was not there before is on a plan. -/
def NewOn (plan : String) (t t' : Trial World) : Prop :=
  ∀ id s, t.state.subscriptions.find? id = none → t'.state.subscriptions.find? id = some s →
    s.plan = plan

variable {plan : String} {t t' t'' : Trial World}

/-- Before that, the subscriptions stayed as they were, and so what is new behind it is
new on the whole way. -/
theorem NewOn.after (h : NewOn plan t' t'')
    (hstore : t'.state.subscriptions = t.state.subscriptions) : NewOn plan t t'' := by
  intro id s hnone hsome
  rw [← hstore] at hnone
  exact h id s hnone hsome

/-- Where no subscription is written, none is new. -/
theorem newOn_of_eq (h : t'.state.subscriptions = t.state.subscriptions) : NewOn plan t t' := by
  intro id s hnone hsome
  rw [h, hnone] at hsome
  cases hsome

/-- No subscription comes from tending to those that are there. -/
theorem Tended.newOn {ids : List SubscriptionId} (h : Tended t t' ids) : NewOn plan t t' := by
  intro id s' hnone hsome
  obtain ⟨s, hbefore, -⟩ := h.store.find_before hsome
  rw [hnone] at hbefore
  cases hbefore

/-- A subscription that is saved is new on its own plan, or not saved at all. -/
theorem newOn_save (failures : Plan) (t : Trial World) (s : Subscription) :
    NewOn s.plan t (save failures t s).2 := by
  rw [save]
  cases failures t.journal (.saveSubscription s) with
  | some failure => exact newOn_of_eq rfl
  | none =>
      intro id s' hnone hsome
      have hset : (SubscriptionStore.save t.state.subscriptions s).find? id = some s' := hsome
      rw [SubscriptionStore.save, OrderedMap.find?_set] at hset
      split at hset
      · rw [Option.some.inj hset]
      · rw [hnone] at hset
        cases hset

/-- A paid invoice of a stored customer: what it creates is on the plan that the body
names, or else on the default one, whatever fails. -/
theorem newOn_renewal (failures : Plan) (terms : Terms) (data : Json) (customer : Customer)
    (period : Except Failure Instant) (t : Trial World) :
    NewOn ((Webhook.planReference data).getD terms.defaultPlan) t
      (renewal failures terms data customer period t).2 := by
  unfold renewal
  cases period with
  | error failure => exact newOn_of_eq rfl
  | ok periodEnd =>
      dsimp only
      cases failures t.journal (.listSubscriptions customer.id) with
      | some failure => exact newOn_of_eq rfl
      | none =>
          dsimp only
          cases SubscriptionStore.ofCustomer t.state.subscriptions customer.id with
          | nil =>
              have hnew := newOn_save failures (t.listing customer).drawn.ticked
                (firstOf terms customer data periodEnd (t.listing customer).state)
              exact hnew.after rfl
          | cons s rest =>
              have htended := tended_pass failures (Update.renewal_sound periodEnd)
                ((s :: rest).map Subscription.id) (t.listing customer)
              exact htended.newOn.after rfl

variable {H : Type} {payload : String} {webhook : Webhook}

/-- **A paid invoice.**  Whatever fails, a subscription that it creates is on the plan
that it names, or else on the default plan. -/
theorem newOn_paid (failures : Plan) (terms : Terms) (t : Trial World)
    (hparse : Webhook.parse payload = .ok webhook)
    (htype : webhook.type = Routes.invoicePaidType) :
    NewOn ((Webhook.planReference webhook.data).getD terms.defaultPlan) t
      (run failures (Intake.receive ⟨Routes.standard terms⟩ payload :
        ExceptT WebhookError (Activity H World) Intake.Receipt) t).2 := by
  rw [receive_paid failures t hparse htype, Routes.renew]
  rcases customerOf_cases (H := H) failures t webhook.data Routes.invoicePaidType with
    ⟨providerId, failure, -, hfound⟩ | ⟨new, -, -, hfound⟩
  · rw [run_forCustomer_error hfound]
    exact newOn_of_eq rfl
  · cases hknown : CustomerStore.ofBody? t.state.customers webhook.data with
    | none =>
        rw [hknown] at hfound
        rw [run_forCustomer_none hfound]
        exact newOn_of_eq rfl
    | some customer =>
        rw [hknown] at hfound
        rw [run_forCustomer_some hfound, run_renewAll]
        have hnew := newOn_renewal failures terms webhook.data customer
          (terms.periodEnd t.state.clock) (Trial.ticked ⟨t.state, t.journal ++ new⟩)
        exact hnew.after rfl

/-- If nothing fails, then the first paid invoice of a stored customer creates a
subscription. -/
theorem first_paid (terms : Terms) (t : Trial World)
    (hparse : Webhook.parse payload = .ok webhook)
    (htype : webhook.type = Routes.invoicePaidType) {customer : Customer}
    (hknown : CustomerStore.ofBody? t.state.customers webhook.data = some customer)
    (hlisted : SubscriptionStore.ofCustomer t.state.subscriptions customer.id = [])
    {periodEnd : Instant}
    (hend : t.state.clock.addDays? terms.periodDays.toNat = some periodEnd) :
    (run .smooth (Intake.receive ⟨Routes.standard terms⟩ payload :
        ExceptT WebhookError (Activity H World) Intake.Receipt) t).2.state.subscriptions.find?
      ⟨t.state.nextUuid⟩ = some (firstOf terms customer webhook.data periodEnd t.ticked.state) := by
  rw [receive_paid .smooth t hparse htype, Routes.renew]
  rcases customerOf_cases (H := H) .smooth t webhook.data Routes.invoicePaidType with
    ⟨providerId, failure, hcall, -⟩ | ⟨new, -, -, hfound⟩
  · cases hcall
  · rw [hknown] at hfound
    have hperiod : terms.periodEnd t.state.clock = .ok periodEnd := Terms.periodEnd_of_some hend
    rw [run_forCustomer_some hfound, run_renewAll, hperiod]
    have hcreated : renewal .smooth terms webhook.data customer (.ok periodEnd)
        (Trial.ticked ⟨t.state, t.journal ++ new⟩) =
        save .smooth (Trial.ticked ⟨t.state, t.journal ++ new⟩ |>.listing customer).drawn.ticked
          (firstOf terms customer webhook.data periodEnd t.ticked.state) := by
      have hnone : SubscriptionStore.ofCustomer
          (Trial.ticked ⟨t.state, t.journal ++ new⟩).state.subscriptions customer.id = [] := hlisted
      simp only [renewal, hnone]
      rfl
    rw [hcreated]
    exact (OrderedMap.find?_set ..).trans (if_pos rfl)

end Trial

namespace Settings

open Text

/-- Under these terms, a paid invoice that names no plan puts a customer on a plan. -/
structure Assigns (terms : Terms) (plan : String) : Prop where
  /-- Whatever fails, every subscription that it creates is on the plan. -/
  only {H : Type} (failures : Plan) (t : Trial World) {payload : String} {webhook : Webhook}
    (hparse : Webhook.parse payload = .ok webhook) (htype : webhook.type = Routes.invoicePaidType)
    (hunnamed : Webhook.planReference webhook.data = none) :
    Trial.NewOn plan t (Trial.run failures (Intake.receive ⟨Routes.standard terms⟩ payload :
      ExceptT WebhookError (Activity H World) Intake.Receipt) t).2
  /-- If nothing fails, it creates one for a stored customer who has none. -/
  first {H : Type} (t : Trial World) {payload : String} {webhook : Webhook}
    (hparse : Webhook.parse payload = .ok webhook) (htype : webhook.type = Routes.invoicePaidType)
    (hunnamed : Webhook.planReference webhook.data = none) {customer : Customer}
    (hknown : CustomerStore.ofBody? t.state.customers webhook.data = some customer)
    (hlisted : SubscriptionStore.ofCustomer t.state.subscriptions customer.id = [])
    {periodEnd : Instant}
    (hend : t.state.clock.addDays? terms.periodDays.toNat = some periodEnd) :
    ∃ s, (Trial.run .smooth (Intake.receive ⟨Routes.standard terms⟩ payload :
        ExceptT WebhookError (Activity H World) Intake.Receipt) t).2.state.subscriptions.find?
      ⟨t.state.nextUuid⟩ = some s ∧ s.customer = customer.id ∧ s.plan = plan

/-- Terms assign their default plan. -/
theorem assigns_terms (terms : Terms) : Assigns terms terms.defaultPlan where
  only failures t _ webhook hparse htype hunnamed := by
    simpa only [hunnamed, Option.getD_none] using Trial.newOn_paid failures terms t hparse htype
  first t _ webhook hparse htype hunnamed _ hknown hlisted _ hend := by
    refine ⟨_, Trial.first_paid terms t hparse htype hknown hlisted hend, rfl, ?_⟩
    show (Webhook.planReference webhook.data).getD terms.defaultPlan = _
    rw [hunnamed]
    rfl

/-- **What becomes of a default plan.**  If nothing else is set, then every text is
loaded as the default plan, respelled if it stands for a number or a truth value, so
that just the verbatim texts come through; and what was loaded is the plan of those
who pay without naming one. -/
theorem load_plan {env : OrderedMap String String} {v : String}
    (h : OnlySet env planVariable v) :
    ∃ plan, load env = some (.ok (withPlan plan)) ∧ Respelled v plan ∧
      (plan = v ↔ Verbatim v) ∧ Assigns (withPlan plan).billing.terms plan := by
  have htree : Setting.ofVariables? env =
      some (.table [("billing", .table [("default_plan_id", .guess v)])]) :=
    h.ofVariables? variablePath?_plan
  obtain ⟨plan, hread, hrespelled⟩ := respelled_of_guess "billing.default_plan_id" v
  refine ⟨plan, ?_, hrespelled, hrespelled.eq_iff, assigns_terms _⟩
  rw [load, htree, Option.map_some, ofSetting_plan, hread]
  rfl

/-- The name of a plan that opens no number and is no truth value comes through as it
is. -/
theorem name_loaded :
    OnlySet (OrderedMap.empty.set planVariable "pro") planVariable "pro"
      ∧ load (OrderedMap.empty.set planVariable "pro") = some (.ok (withPlan "pro"))
      ∧ Assigns (withPlan "pro").billing.terms "pro" := by
  have hset := onlySet_set planVariable "pro"
  have hword : lowercase "pro" ∉ truthWords := by decide
  obtain ⟨plan, hload, -, hkept, hassigns⟩ := load_plan hset
  obtain rfl : plan = "pro" := hkept.mpr (verbatim_of_not_opens rfl rfl hword)
  exact ⟨hset, hload, hassigns⟩

/-- Zeros in front of a number are lost: the text is read as a number, and the number is
written without them. -/
theorem padded_loaded :
    OnlySet (OrderedMap.empty.set planVariable "007") planVariable "007"
      ∧ load (OrderedMap.empty.set planVariable "007") = some (.ok (withPlan "7"))
      ∧ ¬ ∃ s, load (OrderedMap.empty.set planVariable "007") = some (.ok s)
        ∧ s.billing.defaultPlan = "007" := by
  have hload : load (OrderedMap.empty.set planVariable "007") = some (.ok (withPlan "7")) := rfl
  refine ⟨onlySet_set planVariable "007", hload, ?_⟩
  rintro ⟨s, hs, hplan⟩
  rw [hload] at hs
  obtain rfl : withPlan "7" = s := Except.ok.inj (Option.some.inj hs)
  exact absurd hplan (by decide)

/-- So is a zero at the end of a fraction. -/
example : load (OrderedMap.empty.set planVariable "1.50") = some (.ok (withPlan "1.5")) := by
  rfl

end Settings

end SubscriptionBilling
