import SubscriptionBilling.Settings.Basic
import SubscriptionBilling.Settings.Tree
import SubscriptionBilling.Text.Quoted
/-!
# Loading settings

Every setting is looked up in the tree of settings; a section may be a table or
a list of its values in declared order.  A value of another type is converted if
it makes sense: any scalar as a text, a truth value or a rounded double as a
number of days, and the usual words for on and off as either.

* `load` gives the settings of the variables, or the first `LoadError`;
* `loadValid` also refuses what `Settings.validate` refuses;
* neither has an answer when an index lies outside of its list.
-/

namespace SubscriptionBilling.Settings

open Text

/-- Why settings cannot be loaded. -/
inductive LoadError where
  | wrongKind (key : String) (found : Setting) (expected : String)
  | negative (key : String) (value : Int)
  | tooLarge (key : String) (value : Nat)
  | noSection (found : Setting) (record : String)
  | unknownFormat (name : String)
  | shapelessFormat

/-- A setting inside a message. -/
def Setting.phrase : Setting → String
  | absent => "unit value"
  | truth b => s!"boolean `{b}`"
  | integer i => s!"integer `{i}`"
  | double x => s!"floating point `{x.pointedText}`"
  | text s => s!"string {quoted s}"
  | list _ _ => "sequence"
  | table _ => "map"

/-- Where a setting was found, as far as that is known: what stands for
several variables comes from none. -/
def Setting.origin : Setting → String
  | absent => ""
  | list _ _ => ""
  | table _ => ""
  | _ => " in the environment"

/-- The wording of a load error. -/
def LoadError.message : LoadError → String
  | wrongKind key found expected =>
    s!"invalid type: {found.phrase}, expected {expected} for key `{key}`{found.origin}"
  | negative key value =>
    s!"invalid type: 64-bit integer `{value}`, expected an unsigned 64 bit or less integer "
      ++ s!"for key `{key}` in the environment"
  | tooLarge key value =>
    s!"invalid type: 64-bit unsigned integer `{value}`, expected an unsigned 32 bit integer "
      ++ s!"for key `{key}`"
  | noSection found record => s!"invalid type: {found.phrase}, expected struct {record}"
  | unknownFormat name => s!"enum LogFormat does not have variant constructor {name}"
  | shapelessFormat =>
    "value of enum LogFormat should be represented by either string or table with exactly one key"

/-! ## Scalars -/

/-- The words for on and off. -/
def switch? (word : String) : Option Bool :=
  if word = "1" ∨ word = "true" ∨ word = "on" ∨ word = "yes" then some true
  else if word = "0" ∨ word = "false" ∨ word = "off" ∨ word = "no" then some false
  else none

/-- A setting as a text. -/
def asText (key : String) : Setting → Except LoadError String
  | .text s => .ok s
  | .truth b => .ok (toString b)
  | .integer i => .ok (String.ofList (decimalInt i))
  | .double x => .ok x.text
  | other => .error (.wrongKind key other "a string")

/-- A setting as a truth value. -/
def asTruth (key : String) : Setting → Except LoadError Bool
  | .truth b => .ok b
  | .integer i => .ok (i != 0)
  | .double x => .ok !x.isZero
  | .text s =>
    match switch? (lowercase s) with
    | some b => .ok b
    | none => .error (.wrongKind key (.text (lowercase s)) "a boolean")
  | other => .error (.wrongKind key other "a boolean")

/-- The largest number that a double is rounded to. -/
def largestWord : Nat := UInt64.size - 1

/-- A number of days, if it fits 32 bits. -/
def asWord32 (key : String) (n : Nat) : Except LoadError UInt32 :=
  if n < UInt32.size then .ok (UInt32.ofNat n) else .error (.tooLarge key n)

/-- A setting as a number of days. -/
def asDays (key : String) : Setting → Except LoadError UInt32
  | .truth b => .ok (if b then 1 else 0)
  | .integer (.ofNat n) => asWord32 key n
  | .integer (.negSucc n) => .error (.negative key (.negSucc n))
  | .double x => asWord32 key (x.clamped largestWord)
  | .text s =>
    match switch? (lowercase s) with
    | some b => .ok (if b then 1 else 0)
    | none => .error (.wrongKind key (.text s) "an integer")
  | other => .error (.wrongKind key other "an integer")

/-- The form of a name in any case. -/
def formatOf (name : String) : Except LoadError Format :=
  match Format.all.find? fun format => format.name == lowercase name with
  | some format => .ok format
  | none => .error (.unknownFormat name)

/-- A setting as a form: its name, or a table with the name as its only key. -/
def asFormat : Setting → Except LoadError Format
  | .text name => formatOf name
  | .table [(name, _)] => formatOf name
  | _ => .error .shapelessFormat

/-! ## Sections -/

/-- A section has to be a table or a list. -/
def checkSection (record : String) : Setting → Except LoadError Unit
  | .table _ => .ok ()
  | .list _ _ => .ok ()
  | other => .error (.noSection other record)

/-- A setting of a section by its name, or by its place if the section is a
list, with the key under which messages show it. -/
def member? (name : String) (index : Nat) (key : String) : Setting → Option (String × Setting)
  | .table entries => (entries.lookup name).map fun setting => (s!"{key}.{name}", setting)
  | .list length items =>
    if index < length then some (s!"{key}[{index}]", (items.lookup index).getD .absent) else none
  | _ => none

/-- A setting of a section, read by a reader, or its default. -/
def readMember {α : Type} (parent : Setting) (key name : String) (index : Nat) (fallback : α)
    (read : String → Setting → Except LoadError α) : Except LoadError α :=
  match member? name index key parent with
  | some (key, setting) => read key setting
  | none => .ok fallback

/-- Log settings from their section. -/
def Logging.ofSetting (s : Setting) : Except LoadError Logging := do
  checkSection "LoggingConfig" s
  let level ← readMember s "logging" "level" 0 Logging.default.level asText
  let format ← readMember s "logging" "format" 1 Logging.default.format fun _ => asFormat
  return ⟨level, format⟩

/-- Billing settings from their section. -/
def Billing.ofSetting (s : Setting) : Except LoadError Billing := do
  checkSection "BillingConfig" s
  let days ← readMember s "billing" "billing_period_days" 0 Billing.default.periodDays asDays
  let plan ← readMember s "billing" "default_plan_id" 1 Billing.default.defaultPlan asText
  return ⟨days, plan⟩

/-- Webhook settings from their section. -/
def Webhooks.ofSetting (s : Setting) : Except LoadError Webhooks := do
  checkSection "WebhooksConfig" s
  let strict ← readMember s "webhooks" "strict_routing" 0 Webhooks.default.strictRouting asTruth
  return ⟨strict⟩

/-- A section of the tree, or its default. -/
def readSection {α : Type} (top : Setting) (name : String) (fallback : α)
    (read : Setting → Except LoadError α) : Except LoadError α :=
  match top.entries.lookup name with
  | some setting => read setting
  | none => .ok fallback

/-- The settings of a tree. -/
def ofSetting (top : Setting) : Except LoadError Settings := do
  let logging ← readSection top "logging" Logging.default Logging.ofSetting
  let billing ← readSection top "billing" Billing.default Billing.ofSetting
  let webhooks ← readSection top "webhooks" Webhooks.default Webhooks.ofSetting
  return ⟨logging, billing, webhooks⟩

/-- Why there are no valid settings. -/
inductive Error where
  | load (e : LoadError)
  | invalid (i : Invalid)

/-- The wording of an error. -/
def Error.message : Error → String
  | load e => s!"Configuration loading failed: {e.message}"
  | invalid i => s!"Validation failed: {i.message}"

/-- The settings of the variables; there is no tree of settings to speak of if
an index lies outside of its list. -/
def load (environment : OrderedMap String String) : Option (Except Error Settings) :=
  (Setting.ofVariables? environment).map fun top => (ofSetting top).mapError .load

/-- The settings of the variables, if they make sense. -/
def loadValid (environment : OrderedMap String String) : Option (Except Error Settings) :=
  (load environment).map fun loaded => do
    let settings ← loaded
    settings.validate.mapError .invalid
    return settings

end SubscriptionBilling.Settings
