import Mathlib
import SubscriptionBilling.Proofs.Fields
/-!
# What a schema writes it reads back

Each way of making a schema keeps its values (`Schema.Keeps`), given that the
parts do: tokens if their text is read back, choices if the names are distinct,
records if the fields keep theirs and if every field that is left out in writing
has in its absence just the value that was left out.

A schema that keeps a value reads its text back, as far as the reader of
documents does (`Keeps.parse_print`).
-/

namespace SubscriptionBilling.Json

open Text

/-! ## The kinds of documents -/

section

variable {room : Nat} {cs rest : List Char} {j : Json}

/-- White space in front of a document is no part of it. -/
theorem Document.trimmed (h : Document room cs j rest) : Document room (skipSpace cs) j rest := by
  cases h with
  | scalar h => exact .scalar ((skipSpace_skipSpace cs).symm ▸ h)
  | array hopen hitems hclose => exact .array ((skipSpace_skipSpace cs).trans hopen) hitems hclose
  | object hopen hmembers hclose =>
      exact .object ((skipSpace_skipSpace cs).trans hopen) hmembers hclose

/-- A document that is a text begins with a quotation mark. -/
theorem Document.string_inv {s : String} (h : Document room cs (.string s) rest) :
    ∃ inside, skipSpace cs = '"' :: inside ∧ readString inside = .ok (s, rest) := by
  cases h with
  | scalar h =>
      generalize skipSpace cs = front at h ⊢
      cases h with
      | string h => exact ⟨_, rfl, h⟩

/-- A document that is null is the word for it. -/
theorem Document.null_inv (h : Document room cs .null rest) :
    ∃ inside, skipSpace cs = 'n' :: inside ∧ readWord "ull".toList inside = .ok rest := by
  cases h with
  | scalar h =>
      generalize skipSpace cs = front at h ⊢
      cases h with
      | null h => exact ⟨_, rfl, h⟩

/-- Nothing but null begins like null. -/
theorem Document.ne_null (h : Document room cs j rest) (hj : j ≠ .null) (inside : List Char) :
    skipSpace cs ≠ 'n' :: inside := by
  intro hfront
  cases h with
  | scalar h =>
      rw [hfront] at h
      cases h with
      | null => exact hj rfl
      | number hdigit => exact absurd hdigit (by decide)
  | array hopen =>
      rw [hopen] at hfront
      cases hfront
  | object hopen =>
      rw [hopen] at hfront
      cases hfront

/-- A document that is an object has members between its braces, with less room for
nesting. -/
theorem Document.object_inv {members : List (String × Json)}
    (h : Document room cs (.object members) rest) :
    ∃ room' inside tail, room = room' + 1 ∧ skipSpace cs = '\x7b' :: inside ∧
      Members room' true inside members tail ∧ closeObject tail = .ok rest := by
  cases h with
  | object hopen hmembers hclose => exact ⟨_, _, _, rfl, hopen, hmembers, hclose⟩
  | scalar h =>
      generalize skipSpace cs = front at h
      cases h

/-- A document that is a list has items between its brackets, with less room for
nesting. -/
theorem Document.array_inv {items : List Json} (h : Document room cs (.array items) rest) :
    ∃ room' inside tail, room = room' + 1 ∧ skipSpace cs = '[' :: inside ∧
      Items room' true inside items tail ∧ closeArray tail = .ok rest := by
  cases h with
  | array hopen hitems hclose => exact ⟨_, _, _, rfl, hopen, hitems, hclose⟩
  | scalar h =>
      generalize skipSpace cs = front at h
      cases h

end

/-- Only null is null in canonical form. -/
theorem canonical_eq_null_iff {j : Json} : j.canonical = null ↔ j = null := by
  cases j <;> simp [canonical]

namespace Schema

variable {α β : Type}

/-! ## Scalars -/

/-- What is written as one text is kept, if its own reader gives it back. -/
theorem keeps_token {print : α → String} {parse : String → Except Mismatch α} {a : α}
    (h : parse (print a) = .ok a) (expected : String) : (token print parse expected).Keeps a where
  decodes := h
  reads room cs rest hdocument := by
    obtain ⟨inside, hopen, hread⟩ := Document.string_inv hdocument
    simp only [token, hopen, hread, h, settle]

theorem keeps_string (s : String) : string.Keeps s := keeps_token rfl _

theorem ofNumber_ofUInt32 (n : UInt32) : ofNumber (.integer (.ofUInt32 n)) = .ok n := by
  have hsmall : n.toNat < UInt32.size := n.toNat_lt
  rw [ofNumber, if_pos ⟨Int.natCast_nonneg _, hsmall⟩]
  exact congrArg Except.ok (UInt32.ofNat_toNat)

/-- A number of 32 bits is kept, since it is written as the integer that it is. -/
theorem keeps_word32 (n : UInt32) : word32.Keeps n where
  decodes := ofNumber_ofUInt32 n
  reads room cs rest hdocument := by
    have hnumber := ofNumber_ofUInt32 n
    cases hdocument with
    | scalar h =>
        show (word32.read room cs) = _
        unfold word32
        simp only
        generalize skipSpace cs = front at h ⊢
        cases h with
        | negative h => simp only [h, hnumber, settle]
        | number hdigit h =>
            split
            · rename_i heq
              cases heq
              exact absurd hdigit (by decide)
            · rename_i heq
              cases heq
              simp only [hdigit, if_true, h, hnumber, settle]
            · contradiction

/-- A document in canonical form is kept by the schema for any document. -/
theorem keeps_anything {j : Json} (h : j.canonical = j) : anything.Keeps j where
  decodes := congrArg Except.ok h
  reads room cs rest hdocument := by
    show (reader room cs).map _ = _
    rw [reader_eq_ok_iff.mpr hdocument]
    exact congrArg (fun k => Except.ok (k, rest)) h

/-! ## Schemas made of others -/

/-- A value that is not written as null may be absent. -/
theorem Keeps.optional {schema : Schema α} {a : Option α} (h : ∀ b ∈ a, schema.Keeps b)
    (hnull : ∀ b ∈ a, schema.write b ≠ null) : schema.optional.Keeps a := by
  cases a with
  | none =>
      refine ⟨rfl, fun room cs rest hdocument => ?_⟩
      obtain ⟨inside, hopen, hread⟩ := Document.null_inv hdocument
      simp only [Schema.optional, hopen, hread, Except.map]
  | some a =>
      have hkeeps := h a rfl
      have hwritten := hnull a rfl
      refine ⟨?_, fun room cs rest hdocument => ?_⟩
      · have hvalue : schema.value a ≠ null := mt canonical_eq_null_iff.mp hwritten
        show schema.optional.decode (schema.value a) = .ok (some a)
        have hdecode : schema.decode (schema.value a) = .ok a := hkeeps.decodes
        generalize schema.value a = j at hvalue hdecode
        cases j with
        | null => exact absurd rfl hvalue
        | _ => simp only [Schema.optional, hdecode, Except.map]
      · have hfront := hdocument.ne_null hwritten
        have hread := hkeeps.reads room (skipSpace cs) rest hdocument.trimmed
        simp only [Schema.optional]
        rw [hread]
        rfl

/-- What is kept without its wrapping is kept with it. -/
theorem Keeps.wrapped {schema : Schema α} {wrap : α → β} {unwrap : β → α} {b : β}
    (h : schema.Keeps (unwrap b)) (hwrap : wrap (unwrap b) = b) :
    (schema.wrapped wrap unwrap).Keeps b where
  decodes := by
    show (schema.decode (schema.value (unwrap b))).map wrap = _
    rw [show schema.decode (schema.value (unwrap b)) = .ok (unwrap b) from h.decodes, Except.map,
      hwrap]
  reads room cs rest hdocument := by
    show (schema.read room cs).map _ = _
    rw [h.reads room cs rest hdocument]
    exact congrArg (fun k => Except.ok (k, rest)) hwrap

/-- One of several names is kept, if it is the first one of that name. -/
theorem keeps_choice {all : List α} {name : α → String} {a : α}
    (h : named all name (name a) = .ok a) : (choice all name).Keeps a where
  decodes := h
  reads room cs rest hdocument := by
    obtain ⟨inside, hopen, hread⟩ := Document.string_inv hdocument
    simp only [choice, hopen, readName, hread, h, settle]

/-! ## Records -/

variable {γ σ : Type} {fields : Fields γ σ} {members : List (String × Json)} {c : γ}

/-- A record is decoded from an object in any order of its members, if each one fits its
field. -/
theorem decodes_record (hnames : fields.names.Nodup)
    (h : fields.Fit Decodes members fields.empty c) (name : String) (split : α → γ) (make : γ → α) :
    (record name fields split make).Decodes (.object members) (make c) := by
  show ((fields.decodeMembers members fields.empty).bind fields.collect).map make = _
  rw [Fields.decodeMembers_of_fit hnames h]
  rfl

/-- A record is read from the text of an object, if each of its members fits its field.
-/
theorem reads_record (hnames : fields.names.Nodup) (h : fields.Fit Reads members fields.empty c)
    (name : String) (split : α → γ) (make : γ → α) :
    (record name fields split make).Reads (.object members) (make c) := by
  intro room cs rest hdocument
  obtain ⟨room, inside, tail, rfl, hopen, hmembers, hclose⟩ := hdocument.object_inv
  have hfuel : members.length < fuelFor inside := by
    have hlength := hmembers.length_le
    unfold fuelFor
    omega
  obtain ⟨slots, hread, hcollect⟩ := Fields.readMembers_of_fit hnames h hmembers hfuel
  simp only [record, hopen, hread, hcollect, hclose, Except.map]

/-- A record may also stand in an array, its fields in declared order. -/
theorem reads_record_items {items : List Json} (h : fields.FitItems Reads items c) (name : String)
    (split : α → γ) (make : γ → α) :
    (record name fields split make).Reads (.array items) (make c) := by
  intro room cs rest hdocument
  obtain ⟨room, inside, tail, rfl, hopen, hitems, hclose⟩ := hdocument.array_inv
  have hread := Fields.readItems_of_fit h hitems name fields.size
  simp only [record, hopen, hread, hclose, Except.map]

/-- **A record keeps the values that its fields keep.** Written members are found again
by their names, each field takes its own, and what was left out is put in again as it
was. -/
theorem keeps_record (hnames : fields.names.Nodup) {split : α → γ} {make : γ → α} {a : α}
    (hmake : make (split a) = a) (heach : fields.Each Keeps (split a)) (name : String) :
    (record name fields split make).Keeps a where
  decodes := by
    have hfit : fields.Fit Decodes (canonicalMembers (fields.write (split a))) fields.empty
        (split a) :=
      Fields.fit_of_write hnames canonical
        (fun name _ => valuesOf_canonicalMembers (Fields.nodup_write hnames _) name)
        (heach.imp fun _ _ h => h.decodes)
    have hdecodes := decodes_record hnames hfit name split make
    rwa [hmake] at hdecodes
  reads := by
    have hfit : fields.Fit Reads (fields.write (split a)) fields.empty (split a) :=
      Fields.fit_of_write hnames id (fun name _ => (List.map_id _).symm)
        (heach.imp fun _ _ h => h.reads)
    have hreads := reads_record hnames hfit name split make
    rwa [hmake] at hreads

/-! ## The whole text -/

/-- A text that holds one document is read as the value that it stands for. -/
theorem parse_of_reads {schema : Schema α} {j : Json} {a : α} (h : schema.Reads j a) {s : String}
    (hread : Json.read s = .ok j) : schema.parse s = .ok a := by
  rw [Json.read, whole] at hread
  split at hread
  · cases hread
  · rename_i document rest hreader
    obtain ⟨u, hfinish, heq⟩ := map_eq_ok hread
    cases heq
    simp only [parse, whole, h roomAtStart _ rest (reader_eq_ok_iff.mp hreader), hfinish,
      Except.map]

/-- **The text of a value is read as that value**, if the schema keeps it, all its
numbers are integers, and it is not nested too deep. -/
theorem Keeps.parse_print {schema : Schema α} {a : α} (h : schema.Keeps a)
    (hintegral : (schema.write a).Integral) (hroom : (schema.write a).nesting ≤ roomAtStart) :
    schema.parse (schema.print a) = .ok a :=
  parse_of_reads h.reads (read_text hintegral hroom)

end Schema

end SubscriptionBilling.Json
