import SubscriptionBilling.Proofs.Schemas
/-!
# Records with a field that is refused

A record is refused as soon as one of its members is, wherever it stands among the
others: held as a value it is not decoded (`decodeMembers_refused`), and a text that
holds it is not read (`readMembers_refused`).

Before the refused member others are read, and what is left of the text has to be
just what stands behind them.  So each of the others must be settled one way or the
other: it is read up to its end, or it is refused itself (`Schema.Settles`).
-/

namespace SubscriptionBilling.Json

open Text

namespace Schema

variable {α : Type}

/-- A document that no value of the type is written as. -/
structure Refuses (schema : Schema α) (j : Json) : Prop where
  decodes : ∃ m, schema.decode j = .error m
  reads : ∀ room cs rest, Document room cs j rest → ∃ fault, schema.read room cs = .error fault

/-- A document that is read as some value or refused. -/
def Settles (schema : Schema α) (j : Json) : Prop := (∃ a, schema.Reads j a) ∨ schema.Refuses j

/-- What is kept is settled: the value as it was written decides how every text of it is
read. -/
theorem Keeps.settles {schema : Schema α} {a : α} (h : schema.Keeps a) :
    schema.Settles (schema.write a) :=
  .inl ⟨a, h.reads⟩

/-- A name that is not in the list is refused. -/
theorem refuses_choice {all : List α} {name : α → String} {s : String}
    (h : ∀ a ∈ all, name a ≠ s) : (choice all name).Refuses (.string s) := by
  have hnone : all.find? (fun a => name a == s) = none :=
    List.find?_eq_none.mpr fun a ha => by simpa using h a ha
  have hnamed : named all name s = .error (.unknownVariant s (all.map name)) := by
    rw [named, hnone]
  refine ⟨⟨_, hnamed⟩, fun room cs rest hdocument => ?_⟩
  obtain ⟨inside, hopen, hread⟩ := Document.string_inv hdocument
  simp [choice, hopen, readName, hread, hnamed, settle]

/-- A text that holds a refused document is not read. -/
theorem Refuses.parse {schema : Schema α} {j : Json} (h : schema.Refuses j) {s : String}
    (hread : Json.read s = .ok j) : ∃ fault, schema.parse s = .error fault := by
  rw [Json.read, whole] at hread
  split at hread
  · cases hread
  · rename_i document rest hreader
    obtain ⟨u, hfinish, heq⟩ := map_eq_ok hread
    cases heq
    obtain ⟨fault, hfault⟩ := h.reads roomAtStart _ rest (reader_eq_ok_iff.mp hreader)
    refine ⟨fault, ?_⟩
    show whole (schema.read roomAtStart) s = .error fault
    rw [whole, hfault]

end Schema

namespace Fields

/-- The field of a name, if there is one, has a property with a document. -/
def Under (P : ∀ {β : Type}, Schema β → Json → Prop) (key : String) (value : Json) :
    {γ σ : Type} → Fields γ σ → Prop
  | _, _, nil => True
  | _, _, cons field rest =>
    if field.name = key then P field.schema value else rest.Under P key value

variable {γ σ : Type} {fields : Fields γ σ} {members : List (String × Json)} {key : String}
  {value : Json}

/-! ## From a value -/

/-- A refused member is not decoded, whatever was decoded before. -/
theorem decodeMember_refused (hname : key ∈ fields.names)
    (h : fields.Under Schema.Refuses key value) (slots : σ) :
    ∃ m, fields.decodeMember key value slots = .error m := by
  induction fields with
  | nil => cases hname
  | cons field rest ih =>
      obtain ⟨slot, slots⟩ := slots
      by_cases hkey : field.name = key
      · rw [Under, if_pos hkey] at h
        obtain ⟨m, hm⟩ := h.decodes
        cases slot with
        | some b => exact ⟨.duplicateField key, by simp only [decodeMember, if_pos hkey]⟩
        | none => exact ⟨m, by simp only [decodeMember, if_pos hkey, hm, Except.map]⟩
      · rw [Under, if_neg hkey] at h
        have hrest : key ∈ rest.names := (List.mem_cons.mp hname).resolve_left (Ne.symm hkey)
        obtain ⟨m, hm⟩ := ih hrest h slots
        exact ⟨m, by simp only [decodeMember, if_neg hkey, hm, Except.map]⟩

/-- **One refused member is enough** for a record held as a value. -/
theorem decodeMembers_refused (hmem : (key, value) ∈ members) (hname : key ∈ fields.names)
    (h : fields.Under Schema.Refuses key value) (slots : σ) :
    ∃ m, fields.decodeMembers members slots = .error m := by
  induction members generalizing slots with
  | nil => cases hmem
  | cons member members ih =>
      obtain ⟨other, document⟩ := member
      rw [decodeMembers]
      cases hfirst : fields.decodeMember other document slots with
      | error m => exact ⟨m, rfl⟩
      | ok slots' =>
          rcases List.mem_cons.mp hmem with heq | hmem
          · cases heq
            obtain ⟨m, hm⟩ := decodeMember_refused hname h slots
            rw [hfirst] at hm
            cases hm
          · exact ih hmem slots'

/-! ## From a text -/

variable {room : Nat} {cs place tail : List Char}

theorem refuse_eq_error {α : Type} (bracket : Char) (m : Mismatch) (cs : List Char) :
    ∃ fault, (refuse bracket m cs : Except Fault α) = .error fault := by
  rw [refuse]
  split <;> exact ⟨_, rfl⟩

/-- A settled member is read up to its end, or it is refused. -/
theorem readMember_settled (h : fields.Under Schema.Settles key value) (slots : σ)
    (hcolon : readColon cs = .ok place) (hvalue : Document room place value tail) :
    (∃ slots', fields.readMember room key slots cs = .ok (slots', tail)) ∨
      ∃ fault, fields.readMember room key slots cs = .error fault := by
  induction fields with
  | nil => exact .inl ⟨(), by simp only [readMember, hcolon, hvalue.skip, Except.map]⟩
  | cons field rest ih =>
      obtain ⟨slot, slots⟩ := slots
      by_cases hkey : field.name = key
      · rw [Under, if_pos hkey] at h
        cases slot with
        | some b =>
            simp only [readMember, if_pos hkey]
            exact .inr (refuse_eq_error _ _ _)
        | none =>
            simp only [readMember, if_pos hkey, hcolon]
            rcases h with ⟨b, hreads⟩ | hrefuses
            · exact .inl ⟨(some b, slots), by rw [hreads room place tail hvalue]; rfl⟩
            · obtain ⟨fault, hfault⟩ := hrefuses.reads room place tail hvalue
              exact .inr ⟨fault, by rw [hfault]; rfl⟩
      · rw [Under, if_neg hkey] at h
        simp only [readMember, if_neg hkey]
        rcases ih h slots with ⟨slots', hread⟩ | ⟨fault, hfault⟩
        · exact .inl ⟨(slot, slots'), by rw [hread]; rfl⟩
        · exact .inr ⟨fault, by rw [hfault]; rfl⟩

/-- A refused member is not read, whatever was read before. -/
theorem readMember_refused (hname : key ∈ fields.names) (h : fields.Under Schema.Refuses key value)
    (slots : σ) (hcolon : readColon cs = .ok place) (hvalue : Document room place value tail) :
    ∃ fault, fields.readMember room key slots cs = .error fault := by
  induction fields with
  | nil => cases hname
  | cons field rest ih =>
      obtain ⟨slot, slots⟩ := slots
      by_cases hkey : field.name = key
      · rw [Under, if_pos hkey] at h
        obtain ⟨fault, hfault⟩ := h.reads room place tail hvalue
        cases slot with
        | some b =>
            simp only [readMember, if_pos hkey]
            exact refuse_eq_error _ _ _
        | none => exact ⟨fault, by simp only [readMember, if_pos hkey, hcolon, hfault, Except.map]⟩
      · rw [Under, if_neg hkey] at h
        have hrest : key ∈ rest.names := (List.mem_cons.mp hname).resolve_left (Ne.symm hkey)
        obtain ⟨fault, hfault⟩ := ih hrest h slots
        exact ⟨fault, by simp only [readMember, if_neg hkey, hfault, Except.map]⟩

/-- **One refused member is enough** for a record in a text, if the others are
settled. -/
theorem readMembers_refused (hmem : (key, value) ∈ members) (hname : key ∈ fields.names)
    (h : fields.Under Schema.Refuses key value)
    (hsettled : ∀ member ∈ members, fields.Under Schema.Settles member.1 member.2) {first : Bool}
    {rest : List Char} (hmembers : Members room first cs members rest) (fuel : Nat) (slots : σ) :
    ∃ fault, fields.readMembers room fuel first slots cs = .error fault := by
  induction members generalizing slots first cs fuel with
  | nil => cases hmem
  | cons member members ih =>
      cases fuel with
      | zero => exact ⟨_, rfl⟩
      | succ fuel =>
          cases hmembers with
          | @cons _ _ _ _ other _ _ document _ _ _ hnext hkey hcolon hvalue hmembers =>
              simp only [readMembers, hnext, hkey]
              rcases List.mem_cons.mp hmem with heq | hmem
              · cases heq
                obtain ⟨fault, hfault⟩ := readMember_refused hname h slots hcolon hvalue
                exact ⟨fault, by rw [hfault]⟩
              · have hfirst : fields.Under Schema.Settles other document :=
                  hsettled _ List.mem_cons_self
                have hothers : ∀ member ∈ members, fields.Under Schema.Settles member.1 member.2 :=
                  fun member hmember => hsettled member (List.mem_cons_of_mem _ hmember)
                rcases readMember_settled hfirst slots hcolon hvalue with
                  ⟨slots', hread⟩ | ⟨fault, hfault⟩
                · rw [hread]
                  exact ih hmem hothers hmembers fuel slots'
                · exact ⟨fault, by rw [hfault]⟩

end Fields

/-- **A record is refused with one of its members**, if the others are settled. -/
theorem Schema.refuses_record {α γ σ : Type} {fields : Fields γ σ} {members : List (String × Json)}
    {key : String} {value : Json} (hmem : (key, value) ∈ members) (hname : key ∈ fields.names)
    (h : fields.Under Refuses key value)
    (hsettled : ∀ member ∈ members, fields.Under Settles member.1 member.2) (name : String)
    (split : α → γ) (make : γ → α) : (record name fields split make).Refuses (.object members) where
  decodes := by
    obtain ⟨m, hm⟩ := Fields.decodeMembers_refused hmem hname h fields.empty
    exact ⟨m, by simp only [record, hm, Except.bind, Except.map]⟩
  reads room cs rest hdocument := by
    obtain ⟨room, inside, tail, rfl, hopen, hmembers, hclose⟩ := hdocument.object_inv
    obtain ⟨fault, hfault⟩ := Fields.readMembers_refused hmem hname h hsettled hmembers
      (fuelFor inside) fields.empty
    exact ⟨fault, by simp only [record, hopen, hfault]⟩

end SubscriptionBilling.Json
