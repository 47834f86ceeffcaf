import SubscriptionBilling.Json.Basic
import SubscriptionBilling.Log.Filter
import SubscriptionBilling.Settings.Basic
/-!
# Where the log goes

A process has at most one log output, with a filter and a form.  The first one
that is installed stays; installing another is refused and changes nothing.
-/

namespace SubscriptionBilling.Log

/-- An output of the log. -/
structure Output where
  filter : Filter
  format : Settings.Format

namespace Output

/-- The output that settings ask for, given the filter of the environment. -/
def ofSettings (environment : Option String) (settings : Settings.Logging) :
    Except Flaw Output :=
  (Filter.choose environment settings.level).map fun filter => ⟨filter, settings.format⟩

/-- Installs an output unless there is one; tells whether it did. -/
def install (output : Output) : Option Output → Bool × Option Output
  | none => (true, some output)
  | some installed => (false, some installed)

/-- The entries from a place that the output lets through. -/
def shown (output : Output) (place : String) (entries : List Entry) : List Entry :=
  entries.filter (output.filter.passes place)

end Output

/-- A field's value in a document; a count fits a word of 64 bits. -/
def Value.document : Value → Json
  | text s => .string s
  | count n => .number (.integer ((Json.Integer.ofInt? n).getD (.ofUInt32 0)))
  | truth b => .bool b

/-- The fields of an entry in a document. -/
def Entry.members (entry : Entry) : List (String × Json) :=
  entry.fields.map fun (name, value) => (name, value.document)

/-- An entry as one line in the form for machines, without its time. -/
def Entry.line (entry : Entry) : Json :=
  .object
    [("fields", .object (("message", .string entry.message) :: entry.members)),
      ("level", .string entry.level.label)]

end SubscriptionBilling.Log
