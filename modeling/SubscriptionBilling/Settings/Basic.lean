import SubscriptionBilling.Subscription.Terms
import SubscriptionBilling.Text.Blank
/-!
# Settings

What can be set from outside: how much is logged and in which form, the terms of
billing, and whether webhooks need a catch-all.  Everything has a default, so
that no setting at all is a usable setting.

`Settings.validate` reports the first setting that makes no sense, logging
before billing; webhook settings always make sense.
-/

namespace SubscriptionBilling

namespace Settings

/-- The form in which the log is written. -/
inductive Format where
  | json
  | pretty
deriving DecidableEq, Repr

namespace Format

/-- Every form. -/
def all : List Format := [json, pretty]

/-- The name of a form in a setting. -/
def name : Format → String
  | json => "json"
  | pretty => "pretty"

/-- The name of a form as a heading. -/
def label : Format → String
  | json => "Json"
  | pretty => "Pretty"

/-- A form in a document is its name. -/
def schema : Json.Schema Format := .choice all name

end Format

/-- Settings of the log: a filter, or just a level, and a form. -/
structure Logging where
  level : String
  format : Format
deriving DecidableEq

/-- Settings of billing. -/
structure Billing where
  periodDays : UInt32
  defaultPlan : String
deriving DecidableEq

/-- Settings of webhooks. -/
structure Webhooks where
  strictRouting : Bool
deriving DecidableEq

/-- Informative messages in the readable form. -/
def Logging.default : Logging := ⟨"info", .pretty⟩

/-- The default terms. -/
def Billing.default : Billing := ⟨30, "basic"⟩

/-- Without a catch-all, unknown webhooks fail one by one. -/
def Webhooks.default : Webhooks := ⟨false⟩

/-- A setting that makes no sense. -/
inductive Invalid where
  | emptyLogLevel
  | billingPeriod (days : UInt32)
  | emptyDefaultPlan
deriving DecidableEq

/-- The longest period that can be set. -/
def Billing.longestPeriod : UInt32 := 366

/-- The wording of an invalid setting. -/
def Invalid.message : Invalid → String
  | emptyLogLevel => "Log level must not be empty"
  | billingPeriod days =>
    s!"Billing period must be between 1 and {Billing.longestPeriod.toNat} days, got {days.toNat}"
  | emptyDefaultPlan => "Default plan id must not be empty"

/-- Some level is set. -/
def Logging.validate (l : Logging) : Except Invalid Unit :=
  if Text.allBlank l.level then .error .emptyLogLevel else .ok ()

/-- The period has a sensible length, and some plan is set. -/
def Billing.validate (b : Billing) : Except Invalid Unit :=
  if b.periodDays = 0 ∨ Billing.longestPeriod < b.periodDays then
    .error (.billingPeriod b.periodDays)
  else if Text.allBlank b.defaultPlan then .error .emptyDefaultPlan
  else .ok ()

/-- The terms that are set. -/
def Billing.terms (b : Billing) : Terms := ⟨b.periodDays, b.defaultPlan⟩

/-- Where nothing is set, the terms are the default ones. -/
theorem Billing.terms_default : Billing.default.terms = (Inhabited.default : Terms) := rfl

end Settings

/-- All settings. -/
structure Settings where
  logging : Settings.Logging
  billing : Settings.Billing
  webhooks : Settings.Webhooks
deriving DecidableEq

namespace Settings

/-- The settings when nothing is set. -/
def default : Settings := ⟨.default, .default, .default⟩

/-- Nothing is set to something that makes no sense. -/
def validate (s : Settings) : Except Invalid Unit := do
  s.logging.validate
  s.billing.validate

/-! ## In a document -/

/-- Log settings in a document. -/
def Logging.schema : Json.Schema Logging :=
  .record "LoggingConfig"
    (.cons (.withDefault "level" .string Logging.default.level)
      (.cons (.withDefault "format" Format.schema Logging.default.format) .nil))
    (fun l => (l.level, l.format, ())) (fun (level, format, ()) => ⟨level, format⟩)

/-- Billing settings in a document. -/
def Billing.schema : Json.Schema Billing :=
  .record "BillingConfig"
    (.cons (.withDefault "billing_period_days" .word32 Billing.default.periodDays)
      (.cons (.withDefault "default_plan_id" .string Billing.default.defaultPlan) .nil))
    (fun b => (b.periodDays, b.defaultPlan, ())) (fun (days, plan, ()) => ⟨days, plan⟩)

/-- Webhook settings in a document. -/
def Webhooks.schema : Json.Schema Webhooks :=
  .record "WebhooksConfig"
    (.cons (.withDefault "strict_routing" .boolean Webhooks.default.strictRouting) .nil)
    (fun w => (w.strictRouting, ())) (fun (strict, ()) => ⟨strict⟩)

/-- All settings in a document. -/
def schema : Json.Schema Settings :=
  .record "AppConfig"
    (.cons (.withDefault "logging" Logging.schema .default)
      (.cons (.withDefault "billing" Billing.schema .default)
        (.cons (.withDefault "webhooks" Webhooks.schema .default) .nil)))
    (fun s => (s.logging, s.billing, s.webhooks, ()))
    (fun (logging, billing, webhooks, ()) => ⟨logging, billing, webhooks⟩)

end Settings

end SubscriptionBilling
