import Mathlib
import SubscriptionBilling.Json.Record
import SubscriptionBilling.Proofs.JsonText
/-!
# Records are read by the names of their fields

A record is read whatever the order of its members, and members of no field are
passed over.  What counts is what stands under each field's name (`valuesOf`):
`Fields.Fit` says which values the fields get from the members that are still to
come, given how documents stand for values, and both ways of reading find just
these values (`decodeMembers_of_fit`, `readMembers_of_fit`).

`Schema.Keeps schema a` says that a value survives both ways: what is written of
it decodes to it, and a text that holds what is written is read as it.  What is
written of a record's values fits them (`fit_of_write`).
-/

namespace SubscriptionBilling.Json

open Text

/-! ## Members by name -/

/-- The values of the members of a name, in the order in which they are written. -/
def valuesOf (name : String) (members : List (String × Json)) : List Json :=
  (members.filter fun member => member.1 == name).map Prod.snd

/-- A member in front of others is one of the values of its own key. -/
theorem valuesOf_cons (name key : String) (value : Json) (members : List (String × Json)) :
    valuesOf name ((key, value) :: members) =
      if key = name then value :: valuesOf name members else valuesOf name members := by
  by_cases h : key = name <;> simp [valuesOf, h]

/-- A key has no values just if no member has it. -/
theorem valuesOf_eq_nil_iff {name : String} {members : List (String × Json)} :
    valuesOf name members = [] ↔ name ∉ members.map Prod.fst := by
  rw [valuesOf, List.map_eq_nil_iff, List.filter_eq_nil_iff, List.mem_map]
  constructor
  · rintro h ⟨member, hmem, rfl⟩
    exact h member hmem (beq_self_eq_true _)
  · intro h member hmem hname
    exact h ⟨member, hmem, eq_of_beq hname⟩

/-- A new key is put somewhere between the others. -/
theorem valuesOf_insert {key : String} {entries : Dictionary Json}
    (h : Dictionary.find? key entries = none) (name : String) (value : Json) :
    valuesOf name (Dictionary.insert key value entries) =
      valuesOf name ((key, value) :: entries) := by
  induction entries with
  | nil => rfl
  | cons entry entries ih =>
      obtain ⟨k, v⟩ := entry
      rw [Dictionary.find?] at h
      split at h
      · cases h
      · rename_i hne
        rw [Dictionary.insert, if_neg (Ne.symm hne)]
        split
        · rfl
        · rw [valuesOf_cons, ih h]
          simp only [valuesOf_cons]
          by_cases hk : k = name <;> by_cases hkey : key = name <;> simp_all

/-- What no member names is not found in the object. -/
theorem find?_canonicalMembers_of_not_mem {key : String} {members : List (String × Json)}
    (h : key ∉ members.map Prod.fst) : Dictionary.find? key (canonicalMembers members) = none := by
  induction members with
  | nil => rfl
  | cons member members ih =>
      rw [List.map_cons, List.mem_cons, not_or] at h
      rw [find?_canonicalMembers_cons, if_neg (Ne.symm h.1), ih h.2]

/-- Members of distinct names have their values in canonical form. -/
theorem valuesOf_canonicalMembers {members : List (String × Json)}
    (h : (members.map Prod.fst).Nodup) (name : String) :
    valuesOf name (canonicalMembers members) = (valuesOf name members).map canonical := by
  induction members with
  | nil => rfl
  | cons member members ih =>
      obtain ⟨key, value⟩ := member
      obtain ⟨hkey, hrest⟩ := List.nodup_cons.mp h
      have hnew := find?_canonicalMembers_of_not_mem hkey
      rw [canonicalMembers, Dictionary.insertNew, hnew]
      simp only [valuesOf_insert hnew, valuesOf_cons, ih hrest]
      split <;> rfl

/-! ## How documents are taken -/

namespace Schema

variable {α : Type}

/-- A document held as a value is decoded as a value of the type. -/
def Decodes (schema : Schema α) (j : Json) (a : α) : Prop := schema.decode j = .ok a

/-- A document in front of a text is read as a value of the type. -/
def Reads (schema : Schema α) (j : Json) (a : α) : Prop :=
  ∀ room cs rest, Document room cs j rest → schema.read room cs = .ok (a, rest)

/-- A value that survives being written. -/
structure Keeps (schema : Schema α) (a : α) : Prop where
  decodes : schema.Decodes (schema.value a) a
  reads : schema.Reads (schema.write a) a

end Schema

/-! ## Fields -/

namespace Field

variable {β : Type}

/-- The value of a field that is not there. -/
def default? (field : Field β) : Option β := field.fallback <|> field.schema.missing

/-- The value that a field gets from a slot and the members still to come, if
documents stand for values as `R` says. -/
inductive Found (R : Schema β → Json → β → Prop) (field : Field β)
    (members : List (String × Json)) : Option β → β → Prop where
  | before {b} (hnone : valuesOf field.name members = []) : Found R field members (some b) b
  | given {j b} (hone : valuesOf field.name members = [j]) (h : R field.schema j b) :
      Found R field members none b
  | absent {b} (hnone : valuesOf field.name members = []) (h : field.default? = some b) :
      Found R field members none b

variable {R : Schema β → Json → β → Prop} {field : Field β} {members : List (String × Json)}
  {key : String} {value : Json} {slot : Option β} {b : β}

/-- A member of another name says nothing about the field. -/
theorem Found.other (h : field.Found R ((key, value) :: members) slot b) (hkey : field.name ≠ key) :
    field.Found R members slot b := by
  have hvalues : valuesOf field.name ((key, value) :: members) = valuesOf field.name members := by
    rw [valuesOf_cons, if_neg (Ne.symm hkey)]
  cases h with
  | before hnone => exact .before (hvalues ▸ hnone)
  | given hone h => exact .given (hvalues ▸ hone) h
  | absent hnone h => exact .absent (hvalues ▸ hnone) h

/-- A member of the field's name gives its value, and is the only one. -/
theorem Found.own (h : field.Found R ((field.name, value) :: members) slot b) :
    slot = none ∧ R field.schema value b ∧ field.Found R members (some b) b := by
  have hvalues : valuesOf field.name ((field.name, value) :: members) =
      value :: valuesOf field.name members := by
    rw [valuesOf_cons, if_pos rfl]
  cases h with
  | before hnone =>
      rw [hvalues] at hnone
      cases hnone
  | given hone h =>
      rw [hvalues] at hone
      obtain ⟨rfl, hnone⟩ := List.cons.inj hone
      exact ⟨rfl, h, .before hnone⟩
  | absent hnone h =>
      rw [hvalues] at hnone
      cases hnone

end Field

namespace Fields

/-- The names of the fields. -/
def names : {γ σ : Type} → Fields γ σ → List String
  | _, _, nil => []
  | _, _, cons field rest => field.name :: rest.names

/-- The values that the fields get from their slots and the members still to
come. -/
def Fit (R : ∀ {β : Type}, Schema β → Json → β → Prop) (members : List (String × Json)) :
    {γ σ : Type} → Fields γ σ → σ → γ → Prop
  | _, _, nil, _, _ => True
  | _, _, cons field rest, (slot, slots), (b, c) =>
    field.Found R members slot b ∧ rest.Fit R members slots c

/-- What is written of the values, field by field: a value has a property of
its schema, or it is left out and is the one that its absence stands for. -/
def Each (P : ∀ {β : Type}, Schema β → β → Prop) : {γ σ : Type} → Fields γ σ → γ → Prop
  | _, _, nil, _ => True
  | _, _, cons field rest, (b, c) =>
    (if field.leaveOut b then field.default? = some b else P field.schema b) ∧ rest.Each P c

variable {γ σ : Type} {R : ∀ {β : Type}, Schema β → Json → β → Prop}
  {members : List (String × Json)} {key : String} {value : Json}

/-- A property holds of each field that is written if it holds of the first one, which
is written, and of the rest. -/
theorem each_cons {P : ∀ {β : Type}, Schema β → β → Prop} {β : Type} {field : Field β}
    {fields : Fields γ σ} {b : β} {c : γ} (hkept : field.leaveOut b = false) (h : P field.schema b)
    (hrest : fields.Each P c) : (cons field fields).Each P (b, c) :=
  ⟨by rwa [if_neg (by simp [hkept])], hrest⟩

/-- A property of each field also holds with an optional field in front that is left out
when it is absent, if that is its default: then only what is there has to have the
property. -/
theorem each_cons_option {P : ∀ {β : Type}, Schema β → β → Prop} {β : Type}
    {field : Field (Option β)} {fields : Fields γ σ} {b : Option β} {c : γ}
    (hleave : field.leaveOut = Option.isNone) (hdefault : field.default? = some none)
    (h : P field.schema b) (hrest : fields.Each P c) : (cons field fields).Each P (b, c) := by
  refine ⟨?_, hrest⟩
  rw [hleave]
  cases b with
  | none => exact hdefault
  | some b => exact h

/-- A property of each field may be weakened. -/
theorem Each.imp {P Q : ∀ {β : Type}, Schema β → β → Prop}
    (himp : ∀ {β : Type} (schema : Schema β) (b : β), P schema b → Q schema b)
    {fields : Fields γ σ} {c : γ} (h : fields.Each P c) : fields.Each Q c := by
  induction fields with
  | nil => trivial
  | cons field rest ih =>
      obtain ⟨b, c⟩ := c
      refine ⟨?_, ih h.2⟩
      have hfield := h.1
      split at hfield
      · rename_i hleave
        rw [if_pos hleave]
        exact hfield
      · rename_i hleave
        rw [if_neg hleave]
        exact himp _ _ hfield

/-- Once all members are in their slots, the record can be closed. -/
theorem Fit.collect {fields : Fields γ σ} {slots : σ} {c : γ} (h : fields.Fit R [] slots c) :
    fields.collect slots = .ok c := by
  induction fields with
  | nil => rfl
  | cons field rest ih =>
      obtain ⟨slot, slots⟩ := slots
      obtain ⟨b, c⟩ := c
      have hslot : (slot <|> field.fallback <|> field.schema.missing) = some b := by
        cases h.1 with
        | before hnone => rfl
        | given hone h => cases hone
        | absent hnone h => exact h
      rw [Fields.collect, hslot]
      simp only [ih h.2, Except.map]

/-- A member of no field changes nothing. -/
theorem Fit.other {fields : Fields γ σ} {slots : σ} {c : γ}
    (h : fields.Fit R ((key, value) :: members) slots c) (hkey : key ∉ fields.names) :
    fields.Fit R members slots c := by
  induction fields with
  | nil => trivial
  | cons field rest ih =>
      obtain ⟨slot, slots⟩ := slots
      obtain ⟨b, c⟩ := c
      rw [names, List.mem_cons, not_or] at hkey
      exact ⟨h.1.other (Ne.symm hkey.1), ih h.2 hkey.2⟩

/-! ### From a value -/

/-- A member of a record is taken by the field that it is meant for, or skipped if there
is none, and the others still fit. -/
theorem decodeMember_of_fit {fields : Fields γ σ} (hnames : fields.names.Nodup) {slots : σ} {c : γ}
    (h : fields.Fit Schema.Decodes ((key, value) :: members) slots c) :
    ∃ slots', fields.decodeMember key value slots = .ok slots' ∧
      fields.Fit Schema.Decodes members slots' c := by
  induction fields with
  | nil => exact ⟨(), rfl, trivial⟩
  | cons field rest ih =>
      obtain ⟨slot, slots⟩ := slots
      obtain ⟨b, c⟩ := c
      obtain ⟨hname, hrest⟩ := List.nodup_cons.mp hnames
      by_cases hkey : field.name = key
      · subst hkey
        obtain ⟨rfl, hvalue, hfound⟩ := h.1.own
        refine ⟨(some b, slots), ?_, hfound, h.2.other hname⟩
        rw [decodeMember, if_pos rfl]
        simp only [show field.schema.decode value = .ok b from hvalue, Except.map]
      · obtain ⟨slots', hdecode, hfit⟩ := ih hrest h.2
        refine ⟨(slot, slots'), ?_, h.1.other hkey, hfit⟩
        simp only [decodeMember, if_neg hkey, hdecode, Except.map]

/-- **Members that fit are decoded**, in whatever order they come. -/
theorem decodeMembers_of_fit {fields : Fields γ σ} (hnames : fields.names.Nodup) {slots : σ}
    {c : γ} (h : fields.Fit Schema.Decodes members slots c) :
    (fields.decodeMembers members slots).bind fields.collect = .ok c := by
  induction members generalizing slots with
  | nil => exact h.collect
  | cons member members ih =>
      obtain ⟨slots', hdecode, hfit⟩ := decodeMember_of_fit hnames h
      rw [decodeMembers, hdecode]
      exact ih hfit

/-! ### From a text -/

/-- The same for a member that is read from text: it is taken or skipped, and the
reading goes on behind it. -/
theorem readMember_of_fit {fields : Fields γ σ} (hnames : fields.names.Nodup) {slots : σ} {c : γ}
    (h : fields.Fit Schema.Reads ((key, value) :: members) slots c) {room : Nat}
    {cs place tail : List Char} (hcolon : readColon cs = .ok place)
    (hvalue : Document room place value tail) :
    ∃ slots', fields.readMember room key slots cs = .ok (slots', tail) ∧
      fields.Fit Schema.Reads members slots' c := by
  induction fields with
  | nil =>
      refine ⟨(), ?_, trivial⟩
      simp only [readMember, hcolon, hvalue.skip, Except.map]
  | cons field rest ih =>
      obtain ⟨slot, slots⟩ := slots
      obtain ⟨b, c⟩ := c
      obtain ⟨hname, hrest⟩ := List.nodup_cons.mp hnames
      by_cases hkey : field.name = key
      · subst hkey
        obtain ⟨rfl, hreads, hfound⟩ := h.1.own
        refine ⟨(some b, slots), ?_, hfound, h.2.other hname⟩
        rw [readMember, if_pos rfl]
        simp only [hcolon, hreads room place tail hvalue, Except.map]
      · obtain ⟨slots', hread, hfit⟩ := ih hrest h.2
        refine ⟨(slot, slots'), ?_, h.1.other hkey, hfit⟩
        simp only [readMember, if_neg hkey, hread, Except.map]

/-- **Members that fit are read**, in whatever order they come. -/
theorem readMembers_of_fit {fields : Fields γ σ} (hnames : fields.names.Nodup) {slots : σ} {c : γ}
    (h : fields.Fit Schema.Reads members slots c) {room : Nat} {first : Bool}
    {cs rest : List Char} (hmembers : Members room first cs members rest) {fuel : Nat}
    (hfuel : members.length < fuel) :
    ∃ slots', fields.readMembers room fuel first slots cs = .ok (slots', rest) ∧
      fields.collect slots' = .ok c := by
  induction members generalizing slots first cs fuel with
  | nil =>
      obtain ⟨fuel, rfl⟩ := Nat.exists_eq_add_one_of_ne_zero (Nat.ne_zero_of_lt hfuel)
      cases hmembers with
      | nil hend => exact ⟨slots, by simp only [readMembers, hend], h.collect⟩
  | cons member members ih =>
      obtain ⟨fuel, rfl⟩ := Nat.exists_eq_add_one_of_ne_zero (Nat.ne_zero_of_lt hfuel)
      cases hmembers with
      | cons hnext hkey hcolon hvalue hmembers =>
          obtain ⟨slots', hread, hfit⟩ := readMember_of_fit hnames h hcolon hvalue
          obtain ⟨last, hmore, hcollect⟩ := ih hfit hmembers (Nat.lt_of_succ_lt_succ hfuel)
          refine ⟨last, ?_, hcollect⟩
          simp only [readMembers, hnext, hkey, hread]
          exact hmore

/-- The values that the fields get from the items of an array, in declared order:
those at the end may be left out if they have a value of their own. -/
def FitItems (R : ∀ {β : Type}, Schema β → Json → β → Prop) :
    {γ σ : Type} → Fields γ σ → List Json → γ → Prop
  | _, _, nil, items, _ => items = []
  | _, _, cons field rest, [], (b, c) => field.fallback = some b ∧ rest.FitItems R [] c
  | _, _, cons field rest, item :: items, (b, c) =>
    R field.schema item b ∧ rest.FitItems R items c

/-- **Items that fit are read**, up to the bracket that ends them. -/
theorem readItems_of_fit {fields : Fields γ σ} {items : List Json} {c : γ}
    (h : fields.FitItems Schema.Reads items c) {room : Nat} {first : Bool} {cs rest : List Char}
    (hitems : Items room first cs items rest) (record : String) (total : Nat) :
    fields.readItems record total room first cs = .ok (c, rest) := by
  induction fields generalizing items first cs with
  | nil =>
      cases (show items = [] from h)
      cases hitems
      rfl
  | cons field fields ih =>
      obtain ⟨b, c⟩ := c
      cases hitems with
      | nil hend =>
          have hmore := ih h.2 (.nil hend)
          simp only [readItems, hend, show field.fallback = some b from h.1, hmore, Except.map]
      | cons hnext hitem hitems =>
          have hmore := ih h.2 hitems
          simp only [readItems, hnext, h.1 room _ _ hitem, hmore, Except.map]

/-! ### What is written -/

/-- Nothing is written under other names. -/
theorem valuesOf_write_of_not_mem {fields : Fields γ σ} {name : String}
    (h : name ∉ fields.names) (c : γ) : valuesOf name (fields.write c) = [] := by
  induction fields with
  | nil => rfl
  | cons field rest ih =>
      obtain ⟨b, c⟩ := c
      rw [names, List.mem_cons, not_or] at h
      rw [write]
      split
      · exact ih h.2 c
      · rw [valuesOf_cons, if_neg (Ne.symm h.1)]
        exact ih h.2 c

/-- Of a record that was written, the first field finds its own value, or nothing if it
is one that is left out. -/
theorem valuesOf_write_cons {β : Type} {field : Field β} {rest : Fields γ σ}
    (hname : field.name ∉ rest.names) (b : β) (c : γ) :
    valuesOf field.name ((cons field rest).write (b, c)) =
      if field.leaveOut b then [] else [field.schema.write b] := by
  rw [write]
  split
  · exact valuesOf_write_of_not_mem hname c
  · rw [valuesOf_cons, if_pos rfl, valuesOf_write_of_not_mem hname c]

/-- A record is written with every key once. -/
theorem nodup_write {fields : Fields γ σ} (hnames : fields.names.Nodup) (c : γ) :
    ((fields.write c).map Prod.fst).Nodup := by
  induction fields with
  | nil => exact List.nodup_nil
  | cons field rest ih =>
      obtain ⟨b, c⟩ := c
      obtain ⟨hname, hrest⟩ := List.nodup_cons.mp hnames
      rw [write]
      split
      · exact ih hrest c
      · refine List.nodup_cons.mpr ⟨?_, ih hrest c⟩
        exact valuesOf_eq_nil_iff.mp (valuesOf_write_of_not_mem hname c)

/-- Members that hold what is written, each value changed by `f`, fit the values
if each changed value stands for what was written. -/
theorem fit_of_write {fields : Fields γ σ} (hnames : fields.names.Nodup) {c : γ} (f : Json → Json)
    (hmembers : ∀ name ∈ fields.names,
      valuesOf name members = (valuesOf name (fields.write c)).map f)
    (heach : fields.Each (fun schema b => R schema (f (schema.write b)) b) c) :
    fields.Fit R members fields.empty c := by
  induction fields with
  | nil => trivial
  | cons field rest ih =>
      obtain ⟨b, c⟩ := c
      obtain ⟨hname, hrest⟩ := List.nodup_cons.mp hnames
      have hown : valuesOf field.name members =
          (if field.leaveOut b then [] else [field.schema.write b]).map f := by
        rw [hmembers _ List.mem_cons_self, valuesOf_write_cons hname]
      refine ⟨?_, ih hrest (fun name hmem => ?_) heach.2⟩
      · have hfield := heach.1
        by_cases hleave : field.leaveOut b = true
        · rw [if_pos hleave] at hown hfield
          exact .absent hown hfield
        · rw [if_neg hleave] at hown hfield
          exact .given hown hfield
      · have hne : field.name ≠ name := by
          rintro rfl
          exact hname hmem
        rw [hmembers name (List.mem_cons_of_mem _ hmem), write]
        split
        · rfl
        · rw [valuesOf_cons, if_neg hne]

end Fields

end SubscriptionBilling.Json
