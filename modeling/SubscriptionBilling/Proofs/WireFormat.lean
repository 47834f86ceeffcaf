import Mathlib
import SubscriptionBilling.Proofs.Wrapping
import SubscriptionBilling.Webhook.Basic
/-!
# Webhooks and envelopes survive as text

The text of a webhook is read as that webhook, and the text of an envelope as
that envelope, if every number in the document inside is an integer of 64 bits
and the whole is nested no deeper than the reader goes
(`webhooks_and_envelopes_survive_as_text`).

A document that is held as a value is its own canonical form; that is what a
text is read into.  Of a lineage only what is known is written, and a webhook
whose text says nothing of a body has null as its body.
-/

namespace SubscriptionBilling

open Json

/-- Where an envelope comes from is kept, with those of its members left out that are
not there. -/
theorem Lineage.keeps (t : Lineage) : Lineage.schema.Keeps t := by
  refine Schema.keeps_record (by decide) rfl ?_ _
  refine Fields.each_cons_option rfl rfl (keeps_optional_string t.correlation) ?_
  exact Fields.each_cons_option rfl rfl (keeps_optional_string t.causation) trivial

/-- A webhook with a canonical body is kept. -/
theorem Webhook.keeps {w : Webhook} (h : w.data.canonical = w.data) : Webhook.schema.Keeps w := by
  refine Schema.keeps_record (by decide) rfl ?_ _
  refine Fields.each_cons rfl (Schema.keeps_string w.id) ?_
  refine Fields.each_cons rfl (Schema.keeps_string w.type) ?_
  exact Fields.each_cons rfl (Schema.keeps_anything h) trivial

/-- An envelope with a canonical content is kept. -/
theorem Envelope.keeps {e : Envelope} (h : e.payload.canonical = e.payload) :
    Envelope.schema.Keeps e := by
  refine Schema.keeps_record (by decide) rfl ?_ _
  refine Fields.each_cons rfl (EventId.keeps e.id) ?_
  refine Fields.each_cons rfl (Topic.keeps e.topic) ?_
  refine Fields.each_cons rfl (Schema.keeps_word32 e.schemaVersion) ?_
  refine Fields.each_cons rfl (Schema.keeps_string e.aggregateId) ?_
  refine Fields.each_cons rfl (Schema.keeps_string e.aggregateType) ?_
  refine Fields.each_cons rfl (Instant.keeps e.occurredAt) ?_
  refine Fields.each_cons rfl (Schema.keeps_anything h) ?_
  exact Fields.each_cons rfl (Lineage.keeps e.lineage) trivial

/-! ## The numbers that are written -/

/-- A webhook is written with integers only, if its body is. -/
theorem Webhook.integral_write {w : Webhook} (h : w.data.Integral) :
    (Webhook.schema.write w).Integral := ⟨trivial, trivial, h, trivial⟩

theorem Lineage.integral_write : ∀ t : Lineage, (Lineage.schema.write t).Integral
  | ⟨Option.none, Option.none⟩ => trivial
  | ⟨Option.none, some _⟩ => ⟨trivial, trivial⟩
  | ⟨some _, Option.none⟩ => ⟨trivial, trivial⟩
  | ⟨some _, some _⟩ => ⟨trivial, trivial, trivial⟩

/-- An envelope is written with integers only, if its content is. -/
theorem Envelope.integral_write {e : Envelope} (h : e.payload.Integral) :
    (Envelope.schema.write e).Integral :=
  ⟨trivial, trivial, trivial, trivial, trivial, trivial, h, e.lineage.integral_write, trivial⟩

/-! ## Texts -/

/-- The text of a webhook is read as that webhook. -/
theorem Webhook.parse_print {w : Webhook} (hintegral : w.data.Integral)
    (hvalue : w.data.canonical = w.data) (hroom : (schema.write w).nesting ≤ roomAtStart) :
    parse (schema.print w) = .ok w := by
  rw [parse, (keeps hvalue).parse_print (integral_write hintegral) hroom]
  rfl

/-- The text of an envelope is read as that envelope. -/
theorem Envelope.parse_print {e : Envelope} (hintegral : e.payload.Integral)
    (hvalue : e.payload.canonical = e.payload) (hroom : (schema.write e).nesting ≤ roomAtStart) :
    schema.parse (schema.print e) = .ok e :=
  (keeps hvalue).parse_print (integral_write hintegral) hroom

/-- A text that holds a webhook without a body: an object with an identifier, a
type and any members but `data`, in any order, or an array of the two. -/
inductive Webhook.Bodiless (text id type : String) : Prop where
  | object {members} (hread : Json.read text = .ok (.object members))
      (hid : valuesOf "id" members = [.string id])
      (htype : valuesOf "type" members = [.string type]) (hdata : valuesOf "data" members = [])
  | array (hread : Json.read text = .ok (.array [.string id, .string type]))

/-- A webhook without a body is read as one whose body is null. -/
theorem Webhook.Bodiless.parse {text id type : String} (h : Bodiless text id type) :
    Webhook.parse text = .ok ⟨id, type, .null⟩ := by
  have hreads : ∃ j, Json.read text = .ok j ∧ Webhook.schema.Reads j ⟨id, type, .null⟩ := by
    cases h with
    | object hread hid htype hdata =>
        refine ⟨_, hread, ?_⟩
        unfold Webhook.schema
        refine Schema.reads_record (c := (id, type, Json.null, ())) (by decide) ?_ _ _ _
        exact ⟨.given hid (Schema.keeps_string id).reads,
          .given htype (Schema.keeps_string type).reads, .absent hdata rfl, trivial⟩
    | array hread =>
        refine ⟨_, hread, ?_⟩
        unfold Webhook.schema
        refine Schema.reads_record_items (c := (id, type, Json.null, ())) ?_ _ _ _
        exact ⟨(Schema.keeps_string id).reads, (Schema.keeps_string type).reads, rfl, rfl⟩
  obtain ⟨j, hread, hreads⟩ := hreads
  rw [Webhook.parse, Schema.parse_of_reads hreads hread]
  rfl

/-- What is not known of a lineage is not written. -/
theorem Lineage.valuesOf_write (t : Lineage) :
    ∃ members, Lineage.schema.write t = .object members ∧
      valuesOf "correlation_id" members = (t.correlation.map Json.string).toList ∧
      valuesOf "causation_id" members = (t.causation.map Json.string).toList := by
  obtain ⟨correlation, causation⟩ := t
  cases correlation <;> cases causation <;> exact ⟨_, rfl, rfl, rfl⟩

/-- **Webhooks and envelopes survive as text.**  Printed and read again they are
the same, if the numbers in the document inside are integers and the whole is
not nested too deeply.  An envelope's lineage is written as far as it is known.
A text that holds a webhook without a body is read with null as its body, and so
is the text that is written of that. -/
theorem webhooks_and_envelopes_survive_as_text :
    (∀ w : Webhook, w.data.Integral → w.data.canonical = w.data →
      (Webhook.schema.write w).nesting ≤ roomAtStart →
        Webhook.parse (Webhook.schema.print w) = .ok w) ∧
    (∀ e : Envelope, e.payload.Integral → e.payload.canonical = e.payload →
      (Envelope.schema.write e).nesting ≤ roomAtStart →
        Envelope.schema.parse (Envelope.schema.print e) = .ok e) ∧
    (∀ e : Envelope, ∃ members lineage, Envelope.schema.write e = .object members ∧
      valuesOf "metadata" members = [.object lineage] ∧
      valuesOf "correlation_id" lineage = (e.lineage.correlation.map Json.string).toList ∧
      valuesOf "causation_id" lineage = (e.lineage.causation.map Json.string).toList) ∧
    (∀ text id type, Webhook.Bodiless text id type →
      Webhook.parse text = .ok ⟨id, type, .null⟩ ∧
        Webhook.parse (Webhook.schema.print ⟨id, type, .null⟩) = .ok ⟨id, type, .null⟩) := by
  refine ⟨fun w => Webhook.parse_print, fun e => Envelope.parse_print, fun e => ?_,
    fun text id type h => ⟨h.parse, ?_⟩⟩
  · obtain ⟨lineage, hwrite, hcorrelation, hcausation⟩ := e.lineage.valuesOf_write
    refine ⟨_, lineage, rfl, ?_, hcorrelation, hcausation⟩
    exact congrArg (fun j => [j]) hwrite
  · exact Webhook.parse_print (w := ⟨id, type, .null⟩) trivial rfl (show 1 ≤ 127 by decide)

namespace Sample

/-- The smallest and the largest integer, and keys that need an escape. -/
def extremes : Json :=
  .object
    [("\x00\"", .array [.null, .number (.integer ⟨-9223372036854775808, by decide, by decide⟩)]),
      ("é", .number (.integer ⟨18446744073709551615, by decide, by decide⟩))]

/-- A webhook around it. -/
def webhook : Webhook := ⟨"evt_1", "invoice.paid", extremes⟩

/-- An envelope around it, with half of a lineage, written inside a leap second. -/
def envelope : Envelope :=
  ⟨⟨"evt_1"⟩, ⟨"a.b.v2"⟩, 4294967295, "", "\\", ⟨-1, 1500000000, by decide⟩, extremes,
    ⟨none, some "evt_0"⟩⟩

/-- A webhook without a body, with a member that nobody asked for. -/
def bodiless : Json :=
  .object [("type", .string "ping"), ("extra", .array [.null]), ("id", .string "evt_2")]

end Sample

theorem sample_survives_as_text :
    Webhook.parse (Webhook.schema.print Sample.webhook) = .ok Sample.webhook ∧
      Envelope.schema.parse (Envelope.schema.print Sample.envelope) = .ok Sample.envelope ∧
      Webhook.parse Sample.bodiless.text = .ok ⟨"evt_2", "ping", .null⟩ := by
  obtain ⟨hwebhook, henvelope, -, hbodiless⟩ := webhooks_and_envelopes_survive_as_text
  have hintegral : Sample.extremes.Integral := ⟨⟨trivial, trivial, trivial⟩, trivial, trivial⟩
  have hread : Json.read Sample.bodiless.text = .ok Sample.bodiless :=
    read_text ⟨trivial, ⟨trivial, trivial⟩, trivial, trivial⟩ (show 2 ≤ 127 by decide)
  refine ⟨hwebhook _ hintegral rfl (show 3 ≤ 127 by decide),
    henvelope _ hintegral rfl (show 3 ≤ 127 by decide), ?_⟩
  exact (hbodiless _ _ _ (.object hread rfl rfl rfl)).1

end SubscriptionBilling
