import SubscriptionBilling.Json.Schema
/-!
# Records: schemas with fields

A record is a list of named fields in declared order.  It is written as an
object and read from an object, whatever the order of its members, or from an
array that holds the fields in declared order.  Members nobody declared are
passed over.

* `Fields` is the list of fields, together with the slots that hold their values
  while a record is being read;
* `Fields.collect` closes the slots: the first field that is missing and has no
  default is the one reported;
* `Schema.record` ties fields to a type.
-/

namespace SubscriptionBilling.Json

open Text

/-- A field: its name and schema, the value it has when it is left out, and
when it is left out in writing. -/
structure Field (β : Type) where
  name : String
  schema : Schema β
  fallback : Option β
  leaveOut : β → Bool

namespace Field

variable {β : Type}

/-- A field that must be there. -/
def required (name : String) (schema : Schema β) : Field β := ⟨name, schema, none, fun _ => false⟩

/-- A field with a value for its absence. -/
def withDefault (name : String) (schema : Schema β) (value : β) : Field β :=
  ⟨name, schema, some value, fun _ => false⟩

/-- An optional field that is not written when it is absent. -/
def unwritten (name : String) (schema : Schema β) : Field (Option β) :=
  ⟨name, schema.optional, none, Option.isNone⟩

end Field

/-- The fields of a record in declared order, with the type of their values and
the type of the slots that hold them while the record is being read. -/
inductive Fields : Type → Type → Type 1 where
  | nil : Fields Unit Unit
  | cons {β γ σ : Type} (field : Field β) (rest : Fields γ σ) : Fields (β × γ) (Option β × σ)

namespace Fields

/-- No slot is filled yet. -/
def empty : {γ σ : Type} → Fields γ σ → σ
  | _, _, nil => ()
  | _, _, cons _ rest => (none, rest.empty)

/-- The number of fields. -/
def size : {γ σ : Type} → Fields γ σ → Nat
  | _, _, nil => 0
  | _, _, cons _ rest => rest.size + 1

/-- The members of the object that holds the values. -/
def write : {γ σ : Type} → Fields γ σ → γ → List (String × Json)
  | _, _, nil, _ => []
  | _, _, cons field rest, (b, c) =>
    if field.leaveOut b then rest.write c
    else (field.name, field.schema.write b) :: rest.write c

/-- The values of all fields, or the first one that is missing. -/
def collect : {γ σ : Type} → Fields γ σ → σ → Except Mismatch γ
  | _, _, nil, _ => .ok ()
  | _, _, cons field rest, (slot, slots) =>
    match slot <|> field.fallback <|> field.schema.missing with
    | none => .error (.missingField field.name)
    | some b => (rest.collect slots).map fun c => (b, c)

/-! ## From a value -/

/-- Puts a member into its slot; a member of no field changes nothing. -/
def decodeMember : {γ σ : Type} → Fields γ σ → String → Json → σ → Except Mismatch σ
  | _, _, nil, _, _, slots => .ok slots
  | _, _, cons field rest, key, value, (slot, slots) =>
    if field.name = key then
      match slot with
      | some _ => .error (.duplicateField key)
      | none => (field.schema.decode value).map fun b => (some b, slots)
    else (rest.decodeMember key value slots).map fun slots => (slot, slots)

/-- Puts all members into their slots. -/
def decodeMembers {γ σ : Type} (fields : Fields γ σ) :
    List (String × Json) → σ → Except Mismatch σ
  | [], slots => .ok slots
  | (key, value) :: members, slots =>
    match fields.decodeMember key value slots with
    | .error m => .error m
    | .ok slots => fields.decodeMembers members slots

/-- The values of an array in declared order, and how many items are left over.
Only fields with a default may be missing at the end. -/
def decodeItems (record : String) (total : Nat) : {γ σ : Type} → Fields γ σ → List Json →
    Except Mismatch (γ × Nat)
  | _, _, nil, items => .ok ((), items.length)
  | _, _, cons field rest, [] =>
    match field.fallback with
    | none => .error (.tooShort (total - (rest.size + 1)) record total)
    | some b => (decodeItems record total rest []).map fun (c, extra) => ((b, c), extra)
  | _, _, cons field rest, item :: items =>
    match field.schema.decode item with
    | .error m => .error m
    | .ok b => (decodeItems record total rest items).map fun (c, extra) => ((b, c), extra)

/-! ## From a text -/

/-- A refusal by the record itself: its place is behind the bracket that would
have ended it, if that comes next. -/
def refuse {α : Type} (bracket : Char) (m : Mismatch) (cs : List Char) : Except Fault α :=
  match skipSpace cs with
  | c :: rest => .error (.unfit m (if c = bracket then rest else c :: rest))
  | [] => .error (.unfit m [])

/-- Reads a member behind its key into its slot, or passes over it. -/
def readMember : {γ σ : Type} → Fields γ σ → Nat → String → σ → Reader σ
  | _, _, nil, _, _, slots, cs =>
    match readColon cs with
    | .error e => .error e
    | .ok cs => (skip cs).map fun cs => (slots, cs)
  | _, _, cons field rest, room, key, (slot, slots), cs =>
    if field.name = key then
      match slot with
      | some _ => refuse '\x7d' (.duplicateField key) cs
      | none =>
        match readColon cs with
        | .error e => .error e
        | .ok cs => (field.schema.read room cs).map fun (b, cs) => ((some b, slots), cs)
    else (rest.readMember room key slots cs).map fun (slots, cs) => ((slot, slots), cs)

/-- Reads members up to the closing brace. -/
def readMembers {γ σ : Type} (fields : Fields γ σ) (room : Nat) :
    Nat → Bool → σ → Reader σ
  | 0, _, _, cs => .error (.here .tooDeep cs)
  | fuel + 1, first, slots, cs =>
    match nextKey first cs with
    | .error e => .error e
    | .ok none => .ok (slots, cs)
    | .ok (some cs) =>
      match readString cs with
      | .error e => .error e
      | .ok (key, cs) =>
        match fields.readMember room key slots cs with
        | .error e => .error e
        | .ok (slots, cs) => fields.readMembers room fuel false slots cs

/-- Reads the items of an array in declared order, up to its closing bracket or
the first item too many. -/
def readItems (record : String) (total room : Nat) :
    {γ σ : Type} → Fields γ σ → Bool → Reader γ
  | _, _, nil, _, cs => .ok ((), cs)
  | _, _, cons field rest, first, cs =>
    match nextItem first cs with
    | .error e => .error e
    | .ok none =>
      match field.fallback with
      | none => refuse ']' (.tooShort (total - (rest.size + 1)) record total) cs
      | some b =>
        (readItems record total room rest first cs).map fun (c, cs) => ((b, c), cs)
    | .ok (some cs) =>
      match field.schema.read room cs with
      | .error e => .error e
      | .ok (b, cs) =>
        (readItems record total room rest false cs).map fun (c, cs) => ((b, c), cs)

end Fields

/-- The schema of a record type, given by its fields and the passage between
the type and the values of the fields. -/
def Schema.record {α γ σ : Type} (name : String) (fields : Fields γ σ) (split : α → γ)
    (make : γ → α) : Schema α where
  write a := .object (fields.write (split a))
  decode
    | .object members =>
      ((fields.decodeMembers members fields.empty).bind fields.collect).map make
    | .array items =>
      match fields.decodeItems name fields.size items with
      | .error m => .error m
      | .ok (c, 0) => .ok (make c)
      | .ok (_, _ + 1) => .error (.tooLong items.length)
    | other => .error (.wrongType other.found s!"struct {name}")
  read room cs :=
    match skipSpace cs with
    | '\x7b' :: rest =>
      match room with
      | 0 => .error (.next .tooDeep ('\x7b' :: rest))
      | room + 1 =>
        match fields.readMembers room (fuelFor rest) true fields.empty rest with
        | .error e => .error e
        | .ok (slots, rest) =>
          match fields.collect slots with
          | .error m => Fields.refuse '\x7d' m rest
          | .ok c => (closeObject rest).map fun rest => (make c, rest)
    | '[' :: rest =>
      match room with
      | 0 => .error (.next .tooDeep ('[' :: rest))
      | room + 1 =>
        match fields.readItems name fields.size room true rest with
        | .error e => .error e
        | .ok (c, rest) => (closeArray rest).map fun rest => (make c, rest)
    | cs => .error (Schema.wrongKind s!"struct {name}" cs)
  missing := none

end SubscriptionBilling.Json
