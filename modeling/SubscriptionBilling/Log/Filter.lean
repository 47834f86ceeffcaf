import SubscriptionBilling.Decimal.Double
import SubscriptionBilling.Log.Entry
import SubscriptionBilling.Log.Pattern
import SubscriptionBilling.Text.Blank
import SubscriptionBilling.Text.Cut
/-!
# Log filters

A filter is a list of directives between commas.  A directive limits how much is
logged by the places whose names begin with its target, and may name in brackets
a span and a field of it: `target[span{field=pattern}]=level`.  Every part can be
left out.  Entries are not logged inside spans, so a directive with a span or a
pattern holds for none; one with a field alone holds for the entries that have
such a field.  Of all directives that hold for an entry the one with the longest
target decides, then one with a field, and what no directive holds for is not
logged.

* `Filter.parse` reads a filter; one directive that makes no sense spoils it;
* `Filter.passes` decides about one entry;
* `Filter.loudest` is the highest limit that any directive might ask for.
-/

namespace SubscriptionBilling.Log

open Text

/-- How much is logged: nothing, or everything up to a level. -/
abbrev Limit := Option Level

namespace Limit

/-- A limit as a number: entries up to this rank are logged. -/
def rank : Limit → Nat
  | none => 0
  | some level => level.rank

/-- The name of a limit. -/
def name : Limit → String
  | none => "off"
  | some level => level.name

/-- Every limit. -/
def all : List Limit := none :: Level.all.map some

/-- The limit of a name in any case, or of its number. -/
def parse? (cs : List Char) : Option Limit :=
  match natural? cs with
  | some n => all.find? fun limit => limit.rank == n
  | none => all.find? fun limit => limit.name == String.ofList (cs.map Char.toLower)

end Limit

/-- A field that an entry must have, and whether its value is asked for too. -/
structure FieldTest where
  name : String
  valued : Bool
deriving DecidableEq, Repr

/-- A limit for the entries of a target, a span and a field, as far as they are
given; an empty target is none. -/
structure Directive where
  target : List Char
  span : Option (List Char)
  field : Option FieldTest
  limit : Limit
deriving DecidableEq

/-- Why a text is no filter: it is not made like one, or one of its parts would
begin or end inside a character. -/
inductive Flaw where
  | malformed
  | splitCharacter
deriving DecidableEq, Repr

/-- A test of a field, from what stands between the braces: a name, or a name
and a value, which is a number or a pattern. -/
def FieldTest.parse (cs : List Char) : Except Flaw FieldTest :=
  let name := String.ofList (cs.takeWhile (· != '='))
  match cs, cs.dropWhile (· != '=') with
  | [], _ => .error .malformed
  | _, [] => .ok ⟨name, false⟩
  | _, _ :: rest =>
    let value := rest.takeWhile (· != '=')
    if (Double.ofText? (String.ofList value)).isSome || Pattern.isWellFormed value then
      .ok ⟨name, true⟩
    else .error .malformed

namespace Directive

/-- No target, no span, no field and no limit. -/
def everything : Directive := ⟨[], none, none, some .trace⟩

/-! ## Reading

A directive is read from left to right.  Its parts are found in the text without
the blanks around it, but taken from the text as it stands, so that blanks in
front shift every part towards them. -/

/-- What is being read, with the place where it began. -/
inductive Stage where
  | start
  | name (start : Nat)
  | span (start : Nat)
  | field (start : Nat)
  | afterField
  | afterSpan
  | limit (start : Nat)
deriving DecidableEq, Repr

/-- Directives begin with a letter, a digit, one of `-:_`, or the bracket of a
span. -/
def isFirst (c : Char) : Bool := c == '-' || c == ':' || c == '_' || isAlphanumeric c

/-- The text from a place to its end. -/
def rest (whole : List Char) (start : Nat) : Except Flaw (List Char) :=
  match dropBytes? start whole with
  | some cs => .ok cs
  | none => .error .splitCharacter

/-- The text between two places. -/
def between (whole : List Char) (start stop : Nat) : Except Flaw (List Char) :=
  match (dropBytes? start whole).bind (takeBytes? (stop - start)) with
  | some cs => .ok cs
  | none => .error .splitCharacter

/-- Reads the character at a place. -/
def step (whole : List Char) (place : Nat) (c : Char) (d : Directive) :
    Stage → Except Flaw (Directive × Stage)
  | .start =>
    if c = '[' then .ok (d, .span (place + 1))
    else if isFirst c then .ok (d, .name place)
    else .error .malformed
  | .name start => do
    if c = '=' then return ({ d with target := ← between whole start place }, .limit (place + 1))
    else if c = '[' then
      return ({ d with target := ← between whole start place }, .span (place + 1))
    else return (d, .name start)
  | .span start => do
    if c = ']' then return ({ d with span := some (← between whole start place) }, .afterSpan)
    else if c = '\x7b' then
      let name ← between whole start place
      return ({ d with span := if name.isEmpty then none else some name }, .field (place + 1))
    else return (d, .span start)
  | .field start => do
    if c = '\x7d' then
      let field ← FieldTest.parse (← between whole start place)
      return ({ d with field := some field }, .afterField)
    else return (d, .field start)
  | .afterField => if c = ']' then .ok (d, .afterSpan) else .error .malformed
  | .afterSpan => if c = '=' then .ok (d, .limit (place + 1)) else .error .malformed
  | .limit start => .ok (d, .limit start)

/-- Reads the characters from a place on. -/
def run (whole : List Char) : Nat → List Char → Directive × Stage → Except Flaw (Directive × Stage)
  | _, [], reached => .ok reached
  | place, c :: cs, (d, stage) => do
    run whole (place + c.utf8Size) cs (← step whole place c d stage)

/-- The directive that has been read when the text ends.  A name alone is a
limit or a target; an empty limit is none. -/
def finish (whole : List Char) (d : Directive) : Stage → Except Flaw Directive
  | .name start => do
    let name ← rest whole start
    match Limit.parse? name with
    | some limit => return { d with limit := limit }
    | none => return { d with target := name }
  | .limit start => do
    let name ← rest whole start
    match name, Limit.parse? name with
    | [], _ => return d
    | _, some limit => return { d with limit := limit }
    | _, none => throw .malformed
  | .afterSpan => .ok d
  | _ => .error .malformed

/-- Reads a directive. -/
def parse (whole : List Char) : Except Flaw Directive := do
  let (d, stage) ← run whole 0 (trim whole) (everything, .start)
  finish whole d stage

/-! ## Deciding -/

/-- The directive asks for the value of a field. -/
def isValued (d : Directive) : Bool := d.field.any FieldTest.valued

/-- The entry has the field of a test, if there is one. -/
def hasField (entry : Entry) : Option FieldTest → Bool
  | none => true
  | some field => entry.fieldNames.contains field.name

/-- The directive holds for an entry from a place. -/
def holdsFor (d : Directive) (place : String) (entry : Entry) : Bool :=
  d.span.isNone && !d.isValued && (behind? d.target place.toList).isSome && hasField entry d.field

/-- One directive decides rather than an earlier one: its target is longer, or
as long and its field, if any, comes later in the order of names. -/
def outranks (d earlier : Directive) : Bool :=
  if d.target.length = earlier.target.length then
    match d.field, earlier.field with
    | none, some _ => false
    | some field, some other => other.name ≤ field.name
    | _, none => true
  else earlier.target.length < d.target.length

end Directive

/-- Directives in the order in which they are written. -/
structure Filter where
  directives : List Directive
deriving DecidableEq

namespace Filter

/-- The parts of a text between commas. -/
def parts : List Char → List (List Char)
  | [] => [[]]
  | ',' :: cs => [] :: parts cs
  | c :: cs =>
    match parts cs with
    | [] => [[c]]
    | p :: ps => (c :: p) :: ps

/-- Reads a filter; empty parts mean nothing. -/
def parse (s : String) : Except Flaw Filter :=
  (((parts s.toList).filter fun p => !p.isEmpty).mapM Directive.parse).map mk

/-- Informative messages from everywhere. -/
def informative : Filter := ⟨[{ Directive.everything with limit := some .info }]⟩

/-- The directive that decides for an entry from a place: of those that hold for
it the one that outranks the others. -/
def deciding? (filter : Filter) (place : String) (entry : Entry) : Option Directive :=
  (filter.directives.filter fun d => d.holdsFor place entry).foldl
    (fun best d =>
      match best with
      | some b => if d.outranks b then some d else some b
      | none => some d)
    none

/-- The limit for an entry from a place. -/
def limitFor (filter : Filter) (place : String) (entry : Entry) : Limit :=
  (filter.deciding? place entry).bind Directive.limit

/-- An entry from a place is logged. -/
def passes (filter : Filter) (place : String) (entry : Entry) : Bool :=
  entry.level.rank ≤ (filter.limitFor place entry).rank

/-- The higher of two limits. -/
def louder (a b : Limit) : Limit := if a.rank < b.rank then b else a

/-- The highest limit of all directives; a value asked for may turn up at any
level. -/
def loudest (filter : Filter) : Limit :=
  if filter.directives.any Directive.isValued then some .trace
  else (filter.directives.map Directive.limit).foldl louder none

/-- The filter of a text, or another one if the text is not made like a filter. -/
def parseOr (otherwise : Except Flaw Filter) (s : String) : Except Flaw Filter :=
  match parse s with
  | .error .malformed => otherwise
  | result => result

/-- The filter in force: that of the environment if it is set and makes sense,
else the one of the settings if that makes sense, else the informative one. -/
def choose (environment : Option String) (level : String) : Except Flaw Filter :=
  let configured := parseOr (.ok informative) level
  match environment with
  | some s => parseOr configured s
  | none => configured

end Filter

end SubscriptionBilling.Log
