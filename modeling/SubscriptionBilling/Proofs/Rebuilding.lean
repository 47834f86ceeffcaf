import SubscriptionBilling.Proofs.Delivery
import SubscriptionBilling.Proofs.RefusedFields
import SubscriptionBilling.Proofs.Wrapping
/-!
# Rebuilding a subscription

What is kept of a subscription is its fields, with the status as a word (`Kept`).
There are two ways back: `Subscription.restore` goes by the fields, and the schema
goes by a document that has the fields as its members, in any order, held as a value
or inside a text.

The two ways judge the word by different means.  `Kept.rebuilt` says that they agree:
either all of them give the same subscription, or none gives any.  What was written
of a subscription is always rebuilt as that subscription (`rebuilding_agrees`).
-/

namespace SubscriptionBilling

open Json

namespace Json

/-- What stands under a name that occurs once does so in any order. -/
theorem valuesOf_of_perm {members members' : List (String × Json)} (h : members.Perm members')
    {name : String} {value : Json} (hone : valuesOf name members' = [value]) :
    valuesOf name members = [value] := by
  have hvalues : (valuesOf name members).Perm (valuesOf name members') := (h.filter _).map _
  rw [hone] at hvalues
  exact List.perm_singleton.mp hvalues

end Json

namespace Status

/-- Other words are refused in a document, just as they are by themselves. -/
theorem refuses {word : String} (h : ∀ status : Status, word ≠ status.token) :
    schema.Refuses (.string word) :=
  Schema.refuses_choice fun status _ => Ne.symm (h status)

/-- A word that is the token of no status is refused by its own name. -/
theorem parse_unknown {word : String} (h : ∀ status : Status, word ≠ status.token) :
    parse word = .error (.unknown word) := by
  unfold parse
  split
  · exact absurd rfl (h .active)
  · exact absurd rfl (h .cancelled)
  · exact absurd rfl (h .pastDue)
  · rfl

end Status

namespace Subscription

/-- What is kept of a subscription. -/
structure Kept where
  id : SubscriptionId
  customer : CustomerId
  plan : String
  expiresAt : Instant
  token : String
  updatedAt : Instant

/-- What is kept of this one. -/
def kept (s : Subscription) : Kept :=
  ⟨s.id, s.customer, s.plan, s.expiresAt, s.status.token, s.updatedAt⟩

namespace Kept

/-- Goes back by the fields. -/
def restore (k : Kept) : Except StatusError Subscription :=
  Subscription.restore k.id k.customer k.plan k.expiresAt k.token k.updatedAt

/-- The fields as members of a document, each in the form it is written in. -/
def members (k : Kept) : List (String × Json) :=
  [("id", SubscriptionId.schema.write k.id), ("customer_id", CustomerId.schema.write k.customer),
    ("plan_id", .string k.plan), ("expires_at", Instant.schema.write k.expiresAt),
    ("status", .string k.token), ("updated_at", Instant.schema.write k.updatedAt)]

end Kept

/-- A subscription that is written member by member is read again. -/
theorem keeps (s : Subscription) : schema.Keeps s := by
  refine Schema.keeps_record (by decide) rfl ?_ _
  refine Fields.each_cons rfl (SubscriptionId.keeps s.id) ?_
  refine Fields.each_cons rfl (CustomerId.keeps s.customer) ?_
  refine Fields.each_cons rfl (Schema.keeps_string s.plan) ?_
  refine Fields.each_cons rfl (Instant.keeps s.expiresAt) ?_
  refine Fields.each_cons rfl (Status.keeps s.status) ?_
  exact Fields.each_cons rfl (Instant.keeps s.updatedAt) trivial

/-- The text of a subscription is read as that subscription. -/
theorem parse_print (s : Subscription) : schema.parse (schema.print s) = .ok s :=
  (keeps s).parse_print ⟨trivial, trivial, trivial, trivial, trivial, trivial, trivial⟩
    (show 1 ≤ 127 by decide)

/-- Members in any order are decoded and read as the subscription they were written
of. -/
theorem takes_members (s : Subscription) {members : List (String × Json)}
    (hperm : members.Perm s.kept.members) :
    schema.Decodes (.object members) s ∧ schema.Reads (.object members) s := by
  have hone (name : String) (value : Json) (h : valuesOf name s.kept.members = [value]) :
      valuesOf name members = [value] := valuesOf_of_perm hperm h
  have hid := hone "id" _ rfl
  have hcustomer := hone "customer_id" _ rfl
  have hplan := hone "plan_id" _ rfl
  have hexpires := hone "expires_at" _ rfl
  have hstatus := hone "status" _ rfl
  have hupdated := hone "updated_at" _ rfl
  unfold schema
  constructor
  · refine Schema.decodes_record
      (c := (s.id, s.customer, s.plan, s.expiresAt, s.status, s.updatedAt, ())) (by decide)
      ?_ _ _ _
    exact ⟨.given hid (SubscriptionId.keeps s.id).decodes,
      .given hcustomer (CustomerId.keeps s.customer).decodes,
      .given hplan (Schema.keeps_string s.plan).decodes,
      .given hexpires (Instant.keeps s.expiresAt).decodes,
      .given hstatus (Status.keeps s.status).decodes,
      .given hupdated (Instant.keeps s.updatedAt).decodes, trivial⟩
  · refine Schema.reads_record
      (c := (s.id, s.customer, s.plan, s.expiresAt, s.status, s.updatedAt, ())) (by decide)
      ?_ _ _ _
    exact ⟨.given hid (SubscriptionId.keeps s.id).reads,
      .given hcustomer (CustomerId.keeps s.customer).reads,
      .given hplan (Schema.keeps_string s.plan).reads,
      .given hexpires (Instant.keeps s.expiresAt).reads,
      .given hstatus (Status.keeps s.status).reads,
      .given hupdated (Instant.keeps s.updatedAt).reads, trivial⟩

/-- Members in any order are refused if the word is no status. -/
theorem refuses_members {k : Kept} (hword : ∀ status : Status, k.token ≠ status.token)
    {members : List (String × Json)} (hperm : members.Perm k.members) :
    schema.Refuses (.object members) := by
  have hstatus : ("status", Json.string k.token) ∈ members :=
    hperm.mem_iff.mpr (by simp [Kept.members])
  have hrefused := Status.refuses hword
  unfold schema
  refine Schema.refuses_record hstatus (by decide) ?_ ?_ _ _ _
  · exact hrefused
  intro member hmember
  -- Only the status is refused; the other five are written in their own form.
  have hkept := hperm.mem_iff.mp hmember
  simp only [Kept.members, List.mem_cons, List.not_mem_nil, or_false] at hkept
  rcases hkept with rfl | rfl | rfl | rfl | rfl | rfl
  · exact (SubscriptionId.keeps k.id).settles
  · exact (CustomerId.keeps k.customer).settles
  · exact (Schema.keeps_string k.plan).settles
  · exact (Instant.keeps k.expiresAt).settles
  · exact .inr hrefused
  · exact (Instant.keeps k.updatedAt).settles

/-- How the ways back end with what was kept: all with one subscription, or all
without any. -/
inductive Kept.Rebuilt (k : Kept) (members : List (String × Json)) : Prop where
  | back (s : Subscription) (hfields : k.restore = .ok s)
      (hvalue : schema.decode (.object members) = .ok s)
      (htext : ∀ text, Json.read text = .ok (.object members) → schema.parse text = .ok s)
  | lost (hfields : k.restore = .error (.unknown k.token))
      (hvalue : ∃ m, schema.decode (.object members) = .error m)
      (htext : ∀ text, Json.read text = .ok (.object members) →
        ∃ fault, schema.parse text = .error fault)

/-- **The ways back agree.** Rebuilt from its fields, by value or by text, and with its
members in any order, what was kept comes to one and the same subscription, or to none
on any of these ways. -/
theorem Kept.rebuilt (k : Kept) {members : List (String × Json)} (hperm : members.Perm k.members) :
    k.Rebuilt members := by
  by_cases hword : ∃ status : Status, k.token = status.token
  · obtain ⟨status, hstatus⟩ := hword
    obtain ⟨id, customer, plan, expiresAt, token, updatedAt⟩ := k
    dsimp only at hstatus
    subst hstatus
    obtain ⟨hdecodes, hreads⟩ :=
      takes_members ⟨id, customer, plan, expiresAt, status, updatedAt⟩ hperm
    refine .back _ ?_ hdecodes fun text hread => Schema.parse_of_reads hreads hread
    rw [restore, Subscription.restore, Status.parse_token]
    rfl
  · have hother : ∀ status : Status, k.token ≠ status.token := not_exists.mp hword
    have hrefuses := refuses_members hother hperm
    refine .lost ?_ hrefuses.decodes fun text hread => hrefuses.parse hread
    rw [restore, Subscription.restore, Status.parse_unknown hother]
    rfl

end Subscription

open Subscription in
/-- **Rebuilding agrees.**  Whatever the identifiers, the plan, the instants and the
word are: going back by the fields gives a subscription just if the document with the
members, in any order, is decoded as that subscription, and just if a text that holds
the document is read as it.  With a word that is no status all of them fail.  And what
was written of a subscription is rebuilt as that subscription. -/
theorem rebuilding_agrees :
    (∀ (k : Kept) (members : List (String × Json)), members.Perm k.members →
      ∀ s, (k.restore = .ok s ↔ schema.decode (.object members) = .ok s) ∧
        ∀ text, Json.read text = .ok (.object members) →
          (k.restore = .ok s ↔ schema.parse text = .ok s)) ∧
    (∀ (k : Kept) (members : List (String × Json)), members.Perm k.members →
      (∀ status : Status, k.token ≠ status.token) →
        k.restore = .error (.unknown k.token) ∧
        (∃ m, schema.decode (.object members) = .error m) ∧
        ∀ text, Json.read text = .ok (.object members) →
          ∃ fault, schema.parse text = .error fault) ∧
    (∀ s : Subscription, s.kept.restore = .ok s ∧ schema.decode (schema.value s) = .ok s ∧
      schema.parse (schema.print s) = .ok s) := by
  refine ⟨?agree, ?fail, ?survive⟩
  case agree =>
    intro k members hperm s
    cases k.rebuilt hperm with
    | back s' hfields hvalue htext =>
        exact ⟨by simp [hfields, hvalue], fun text hread => by simp [hfields, htext text hread]⟩
    | lost hfields hvalue htext =>
        obtain ⟨m, hm⟩ := hvalue
        refine ⟨by simp [hfields, hm], fun text hread => ?_⟩
        obtain ⟨fault, hfault⟩ := htext text hread
        simp [hfields, hfault]
  case fail =>
    intro k members hperm hword
    cases k.rebuilt hperm with
    | back s hfields hvalue htext =>
        rw [Kept.restore, Subscription.restore, Status.parse_unknown hword] at hfields
        cases hfields
    | lost hfields hvalue htext => exact ⟨hfields, hvalue, htext⟩
  case survive =>
    intro s
    refine ⟨?_, (keeps s).decodes, parse_print s⟩
    rw [Kept.restore, Subscription.restore, kept, Status.parse_token]
    rfl

namespace Sample

/-- What is kept of a subscription that fell behind, under some word. -/
def keptAs (token : String) : Subscription.Kept :=
  { (subscription 2 .pastDue).kept with token := token }

/-- The members of its document, the last one first. -/
def backwards (token : String) : List (String × Json) := (keptAs token).members.reverse

end Sample

open Subscription in
/-- The word that was written leads back from a document whose members stand in another
order, and the name of the status does not. -/
theorem rebuilding_agrees_backwards :
    (Sample.backwards "pastdue").Perm (Sample.keptAs "pastdue").members ∧
      schema.parse (Json.object (Sample.backwards "pastdue")).text =
        .ok (Sample.subscription 2 .pastDue) ∧
      (Sample.keptAs "PastDue").restore = .error (.unknown "PastDue") ∧
      ∃ fault, schema.parse (Json.object (Sample.backwards "PastDue")).text = .error fault := by
  obtain ⟨hagree, hfail, hsurvive⟩ := rebuilding_agrees
  have hperm (token : String) : (Sample.backwards token).Perm (Sample.keptAs token).members :=
    List.reverse_perm _
  have hread (token : String) : Json.read (Json.object (Sample.backwards token)).text =
      .ok (.object (Sample.backwards token)) :=
    read_text ⟨trivial, trivial, trivial, trivial, trivial, trivial, trivial⟩
      (show 1 ≤ 127 by decide)
  have hother : ∀ status : Status, "PastDue" ≠ status.token := by
    intro status
    cases status <;> decide
  obtain ⟨hlost, -, hrefused⟩ := hfail _ _ (hperm "PastDue") hother
  have hback :=
    (hagree _ _ (hperm "pastdue") (Sample.subscription 2 .pastDue)).2 _ (hread "pastdue")
  exact ⟨hperm "pastdue", hback.mp (hsurvive (Sample.subscription 2 .pastDue)).1, hlost,
    hrefused _ (hread "PastDue")⟩

end SubscriptionBilling
