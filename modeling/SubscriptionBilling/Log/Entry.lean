/-!
# Log entries

What the services say about their work while they do it: a level, a fixed
message and named fields.  Entries are data, so that a statement about a run
can speak about its log.
-/

namespace SubscriptionBilling.Log

/-- How important an entry is, the most important first. -/
inductive Level where
  | error
  | warn
  | info
  | debug
  | trace
deriving DecidableEq, Repr

namespace Level

/-- The levels counted from the most important, starting at one. -/
def rank : Level → Nat
  | error => 1
  | warn => 2
  | info => 3
  | debug => 4
  | trace => 5

/-- The name of a level in lower case. -/
def name : Level → String
  | error => "error"
  | warn => "warn"
  | info => "info"
  | debug => "debug"
  | trace => "trace"

/-- The name of a level in an entry. -/
def label : Level → String
  | error => "ERROR"
  | warn => "WARN"
  | info => "INFO"
  | debug => "DEBUG"
  | trace => "TRACE"

/-- Every level, the most important first. -/
def all : List Level := [error, warn, info, debug, trace]

end Level

/-- The value of a field. -/
inductive Value where
  | text (s : String)
  | count (n : Nat)
  | truth (b : Bool)
deriving DecidableEq, Repr

/-- One entry. -/
structure Entry where
  level : Level
  message : String
  fields : List (String × Value)
deriving DecidableEq, Repr

/-- The names of an entry's fields; its message is one of them. -/
def Entry.fieldNames (entry : Entry) : List String := "message" :: entry.fields.map Prod.fst

end SubscriptionBilling.Log
