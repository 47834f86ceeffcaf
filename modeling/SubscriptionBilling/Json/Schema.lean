import SubscriptionBilling.Json.Reader
/-!
# Schemas: how a type is written and read

A schema of a type says how its values are written as documents, how they are
read back from a document held as a value, and how they are read from a text,
where every refusal has a place.

* `Schema.token` is a type written as a string with a form of its own;
* `Schema.choice` is a type of finitely many named values;
* `Schema.optional` lets a value be absent;
* `Schema.anything` keeps whatever document stands there.

Records, the schemas with fields, are in the module `Json.Record`.
-/

namespace SubscriptionBilling.Json

open Text

/-- How values of a type are written and read.  `read` gets the number of
containers that may still be entered; `missing` is the value of a field that is
not there, if its absence has a meaning. -/
structure Schema (α : Type) where
  write : α → Json
  decode : Json → Except Mismatch α
  read : Nat → Reader α
  missing : Option α

namespace Schema

variable {α : Type}

/-- A value as a document in canonical form. -/
def value (schema : Schema α) (a : α) : Json := (schema.write a).canonical

/-- The text of a value, its fields in their declared order. -/
def print (schema : Schema α) (a : α) : String := (schema.write a).text

/-- Reads a text that holds one value. -/
def parse (schema : Schema α) (input : String) : Except Fault α :=
  whole (schema.read roomAtStart) input

/-! ## Refusing what does not fit -/

/-- A document of the wrong kind at the front of a text.  A scalar is read
before it is refused, a container is refused where it begins. -/
def wrongKind (expected : String) (cs : List Char) : Fault :=
  let refuse (found : Found) (rest : List Char) : Fault := .unfit (.wrongType found expected) rest
  let word (rest : Except Fault (List Char)) (found : Found) : Fault :=
    match rest with
    | .ok rest => refuse found rest
    | .error e => e
  let numeral (result : Except Fault (Number × List Char)) : Fault :=
    match result with
    | .ok (n, rest) => refuse (.number n) rest
    | .error e => e
  match cs with
  | [] => .next .endOfValue []
  | 'n' :: rest => word (readWord "ull".toList rest) .null
  | 't' :: rest => word (readWord "rue".toList rest) (.boolean true)
  | 'f' :: rest => word (readWord "alse".toList rest) (.boolean false)
  | '-' :: rest => numeral (readNumber true rest)
  | '"' :: rest =>
    match readString rest with
    | .ok (s, rest) => refuse (.text s) rest
    | .error e => e
  | '[' :: _ => refuse .sequence cs
  | '\x7b' :: _ => refuse .map cs
  | c :: _ =>
    if c.isDigit then numeral (readNumber false cs) else .next .expectedValue cs

/-- A result with the place behind it, or its refusal at that place. -/
def settle (result : Except Mismatch α) (rest : List Char) : Except Fault (α × List Char) :=
  match result with
  | .ok a => .ok (a, rest)
  | .error m => .error (.unfit m rest)

/-! ## Scalars -/

/-- A type whose values are strings of a form of their own. -/
def token (print : α → String) (parse : String → Except Mismatch α) (expected : String) :
    Schema α where
  write a := .string (print a)
  decode
    | .string s => parse s
    | other => .error (.wrongType other.found expected)
  read _ cs :=
    match skipSpace cs with
    | '"' :: rest =>
      match readString rest with
      | .error e => .error e
      | .ok (s, rest) => settle (parse s) rest
    | cs => .error (wrongKind expected cs)
  missing := none

/-- Any string. -/
def string : Schema String := token id .ok "a string"

/-- A truth value. -/
def boolean : Schema Bool where
  write b := .bool b
  decode
    | .bool b => .ok b
    | other => .error (.wrongType other.found "a boolean")
  read _ cs :=
    match skipSpace cs with
    | 't' :: rest => (readWord "rue".toList rest).map fun rest => (true, rest)
    | 'f' :: rest => (readWord "alse".toList rest).map fun rest => (false, rest)
    | cs => .error (wrongKind "a boolean" cs)
  missing := none

/-- A number of 32 bits.  A double is never one, not even a whole one. -/
def ofNumber : Number → Except Mismatch UInt32
  | .integer i =>
    if 0 ≤ i.val ∧ i.val.toNat < UInt32.size then .ok (UInt32.ofNat i.val.toNat)
    else .error (.wrongValue (.number (.integer i)) "u32")
  | .double x => .error (.wrongType (.number (.double x)) "u32")

/-- A number of 32 bits. -/
def word32 : Schema UInt32 where
  write n := .ofUInt32 n
  decode
    | .number n => ofNumber n
    | other => .error (.wrongType other.found "u32")
  read _ cs :=
    let settled : Except Fault (Number × List Char) → Except Fault (UInt32 × List Char)
      | .error e => .error e
      | .ok (n, rest) => settle (ofNumber n) rest
    match skipSpace cs with
    | '-' :: rest => settled (readNumber true rest)
    | c :: rest =>
      if c.isDigit then settled (readNumber false (c :: rest))
      else .error (wrongKind "u32" (c :: rest))
    | [] => .error (wrongKind "u32" [])
  missing := none

/-- Any document, kept in canonical form. -/
def anything : Schema Json where
  write j := j
  decode j := .ok j
  read room cs := (reader room cs).map fun (j, rest) => (j.canonical, rest)
  missing := none

/-- A value that may be absent: null, or no field at all. -/
def optional (schema : Schema α) : Schema (Option α) where
  write
    | none => .null
    | some a => schema.write a
  decode
    | .null => .ok none
    | other => (schema.decode other).map some
  read room cs :=
    match skipSpace cs with
    | 'n' :: rest => (readWord "ull".toList rest).map fun rest => (none, rest)
    | cs => (schema.read room cs).map fun (a, rest) => (some a, rest)
  missing := some none

/-- A type that differs from another in name only. -/
def wrapped {β : Type} (schema : Schema α) (wrap : α → β) (unwrap : β → α) : Schema β where
  write b := schema.write (unwrap b)
  decode j := (schema.decode j).map wrap
  read room cs := (schema.read room cs).map fun (a, rest) => (wrap a, rest)
  missing := schema.missing.map wrap

/-! ## Finitely many named values -/

/-- The value of a name, out of a list. -/
def named (all : List α) (name : α → String) (s : String) : Except Mismatch α :=
  match all.find? fun a => name a == s with
  | some a => .ok a
  | none => .error (.unknownVariant s (all.map name))

/-- The empty content of a named value in its long form. -/
def readNothing (cs : List Char) : Except Fault (List Char) :=
  match skipSpace cs with
  | 'n' :: rest => readWord "ull".toList rest
  | cs => .error (wrongKind "unit" cs)

/-- The name in a string or key, behind its opening quote. -/
def readName (all : List α) (name : α → String) (cs : List Char) :
    Except Fault (α × List Char) :=
  match readString cs with
  | .error e => .error e
  | .ok (s, rest) => settle (named all name s) rest

/-- The long form of a named value, behind its opening brace: the name as the
only key, with null as its content. -/
def readLongName (all : List α) (name : α → String) (cs : List Char) :
    Except Fault (α × List Char) := do
  let (a, rest) ← match skipSpace cs with
    | '"' :: rest => readName all name rest
    | [] => .error (.next .endOfObject [])
    | '\x7d' :: rest => .error (.next .expectedValue ('\x7d' :: rest))
    | cs => .error (.next .keyNotString cs)
  let rest ← readColon rest
  let rest ← readNothing rest
  match skipSpace rest with
  | [] => .error (.here .endOfObject [])
  | '\x7d' :: rest => .ok (a, rest)
  | rest => .error (.here .expectedValue rest)

/-- A type of finitely many named values, written by name. -/
def choice (all : List α) (name : α → String) : Schema α where
  write a := .string (name a)
  decode
    | .string s => named all name s
    | .object [(key, content)] =>
      match named all name key with
      | .error m => .error m
      | .ok a =>
        match content with
        | .null => .ok a
        | other => .error (.wrongType other.found "unit")
    | .object _ => .error (.wrongValue .map "map with a single key")
    | other => .error (.wrongType other.found "string or map")
  read room cs :=
    match skipSpace cs with
    | '"' :: rest => readName all name rest
    | '\x7b' :: rest =>
      match room with
      | 0 => .error (.next .tooDeep ('\x7b' :: rest))
      | _ + 1 => readLongName all name rest
    | [] => .error (.next .endOfValue [])
    | cs => .error (.next .expectedValue cs)
  missing := none

end Schema

end SubscriptionBilling.Json
