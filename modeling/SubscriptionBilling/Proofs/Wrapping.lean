import Mathlib
import SubscriptionBilling.Customer
import SubscriptionBilling.Subscription.StatusChanged
import SubscriptionBilling.Proofs.InstantText
import SubscriptionBilling.Proofs.Schemas
import SubscriptionBilling.Proofs.UuidText
/-!
# Events survive their envelopes

Every event can be wrapped, and the envelope gives it back: identifiers, texts,
statuses and instants come through the document unchanged, and so do the records
made of them.  What the envelope says of the event by itself, its identifier,
its time and the thing it is about, agrees with the event inside
(`Envelope.carries_events`).
-/

namespace SubscriptionBilling

open Json

/-! ## Identifiers, statuses and instants -/

/-- A UUID that is written as text of digits in groups is read again. -/
theorem Uuid.keeps (u : Uuid) : Uuid.schema.Keeps u :=
  Schema.keeps_token (by rw [Uuid.parse_text]; rfl) _

theorem SubscriptionId.keeps (id : SubscriptionId) : SubscriptionId.schema.Keeps id :=
  (Uuid.keeps id.uuid).wrapped rfl

theorem CustomerId.keeps (id : CustomerId) : CustomerId.schema.Keeps id :=
  (Uuid.keeps id.uuid).wrapped rfl

theorem UserId.keeps (id : UserId) : UserId.schema.Keeps id := (Uuid.keeps id.uuid).wrapped rfl

theorem EventId.keeps (id : EventId) : EventId.schema.Keeps id :=
  (Schema.keeps_string id.text).wrapped rfl

theorem Topic.keeps (t : Topic) : Topic.schema.Keeps t :=
  (Schema.keeps_string t.name).wrapped rfl

theorem Status.keeps (s : Status) : Status.schema.Keeps s :=
  Schema.keeps_choice (by cases s <;> rfl)

/-- An instant that is written as text with its fraction of a second is read again, leap
seconds included. -/
theorem Instant.keeps (i : Instant) : Instant.schema.Keeps i :=
  Schema.keeps_token (by rw [Instant.parse_text]; rfl) _

/-- An optional text. -/
theorem keeps_optional_string (s : Option String) : Schema.string.optional.Keeps s :=
  .optional (fun s _ => Schema.keeps_string s) fun _ _ h => nomatch h

/-! ## Events -/

/-- A sign-up that is written member by member is read again, since each of its members
is. -/
theorem UserCreated.keeps (e : UserCreated) : UserCreated.schema.Keeps e := by
  refine Schema.keeps_record (by decide) rfl ?_ _
  refine Fields.each_cons rfl (EventId.keeps e.id) ?_
  refine Fields.each_cons rfl (UserId.keeps e.user) ?_
  refine Fields.each_cons rfl (Schema.keeps_string e.email) ?_
  refine Fields.each_cons_option rfl rfl (keeps_optional_string e.displayName) ?_
  exact Fields.each_cons rfl (Instant.keeps e.occurredAt) trivial

/-- The announcement of a new customer is read again from what was written, since each
of its members is. -/
theorem CustomerCreated.keeps (e : CustomerCreated) : CustomerCreated.schema.Keeps e := by
  refine Schema.keeps_record (by decide) rfl ?_ _
  refine Fields.each_cons rfl (EventId.keeps e.id) ?_
  refine Fields.each_cons rfl (CustomerId.keeps e.customer) ?_
  refine Fields.each_cons rfl (UserId.keeps e.user) ?_
  refine Fields.each_cons rfl (Schema.keeps_string e.email) ?_
  exact Fields.each_cons rfl (Instant.keeps e.occurredAt) trivial

/-- The announcement of a change of status is read again from what was written; the two
statuses go by their tokens. -/
theorem StatusChanged.keeps (e : StatusChanged) : StatusChanged.schema.Keeps e := by
  refine Schema.keeps_record (by decide) rfl ?_ _
  refine Fields.each_cons rfl (EventId.keeps e.id) ?_
  refine Fields.each_cons rfl (SubscriptionId.keeps e.subscription) ?_
  refine Fields.each_cons rfl (CustomerId.keeps e.customer) ?_
  refine Fields.each_cons rfl (Status.keeps e.source) ?_
  refine Fields.each_cons rfl (Status.keeps e.target) ?_
  exact Fields.each_cons rfl (Instant.keeps e.occurredAt) trivial

/-! ## Envelopes -/

section

variable {α ι : Type} [event : DomainEvent α]

/-- Envelopes carry the events of a type.  What stands in an event's envelope by
itself is what the event inside says: its identifier, its time, the canonical
text of the identifier of the thing it is about, and the version of its topic. -/
structure Envelope.Carries (schema : Schema α) (id : α → EventId) (occurredAt : α → Instant)
    (subject : α → ι) (text : ι → String) : Prop where
  wraps : ∀ a : α, ∃ e, Envelope.ofEvent a = .ok e
  content : ∀ {a : α} {e}, Envelope.ofEvent a = .ok e → e.content schema = .ok a
  header : ∀ {a back : α} {e}, Envelope.ofEvent a = .ok e → e.content schema = .ok back →
    e.id = id back ∧ e.occurredAt = occurredAt back ∧ e.aggregateId = text (subject back)
  subject_iff : ∀ {a b : α} {e f}, Envelope.ofEvent a = .ok e → Envelope.ofEvent b = .ok f →
    (e.aggregateId = f.aggregateId ↔ subject a = subject b)
  version : ∀ {a : α} {e}, Envelope.ofEvent a = .ok e → e.schemaVersion = e.topic.version

/-- Events whose schema keeps them are carried, if their header is taken from
them and distinct subjects have distinct texts. -/
theorem Envelope.carries_of_keeps {schema : Schema α} {subject : α → ι} {text : ι → String}
    (hwrite : ∀ a : α, event.write a = .ok (schema.value a)) (hkeeps : ∀ a, schema.Keeps a)
    (hsubject : ∀ a : α, event.aggregateId a = text (subject a)) (htext : text.Injective)
    (hversion : event.schemaVersion = event.topic.version) :
    Envelope.Carries schema event.id event.occurredAt subject text := by
  have hwrapped : ∀ {a : α} {e}, Envelope.ofEvent a = .ok e →
      e = ⟨event.id a, event.topic, event.schemaVersion, text (subject a), event.aggregateType,
        event.occurredAt a, schema.value a, .none⟩ := by
    intro a e h
    rw [Envelope.ofEvent, hwrite] at h
    rw [← hsubject]
    exact (Except.ok.inj h).symm
  have hcontent : ∀ {a : α} {e}, Envelope.ofEvent a = .ok e → e.content schema = .ok a := by
    intro a e h
    rw [hwrapped h]
    exact (hkeeps a).decodes
  refine ⟨fun a => ?_, hcontent, fun {a back e} h hback => ?_, fun {a b e f} he hf => ?_,
    fun h => ?_⟩
  · rw [Envelope.ofEvent, hwrite]
    exact ⟨_, rfl⟩
  · have hsame : a = back := Except.ok.inj ((hcontent h).symm.trans hback)
    subst hsame
    rw [hwrapped h]
    exact ⟨rfl, rfl, rfl⟩
  · rw [hwrapped he, hwrapped hf]
    exact htext.eq_iff
  · rw [hwrapped h]
    exact hversion

end

/-- **Every event survives its envelope.**  Sign-ups, new customers and changes
of a status, of any identifiers, texts, statuses and instants, can be wrapped;
the content of the envelope is the event that was put in, the header agrees with
it, and two events of a type name the same subject exactly if they are about the
same one. -/
theorem Envelope.carries_events :
    Envelope.Carries UserCreated.schema UserCreated.id UserCreated.occurredAt UserCreated.user
        UserId.text ∧
      Envelope.Carries CustomerCreated.schema CustomerCreated.id CustomerCreated.occurredAt
        CustomerCreated.customer CustomerId.text ∧
      Envelope.Carries StatusChanged.schema StatusChanged.id StatusChanged.occurredAt
        StatusChanged.subscription SubscriptionId.text := by
  refine ⟨?_, ?_, ?_⟩
  · exact Envelope.carries_of_keeps (fun _ => rfl) UserCreated.keeps (fun _ => rfl)
      (fun _ _ h => UserId.text_injective h) (by decide)
  · exact Envelope.carries_of_keeps (fun _ => rfl) CustomerCreated.keeps (fun _ => rfl)
      (fun _ _ h => CustomerId.text_injective h) (by decide)
  · exact Envelope.carries_of_keeps (fun _ => rfl) StatusChanged.keeps (fun _ => rfl)
      (fun _ _ h => SubscriptionId.text_injective h) (by decide)

end SubscriptionBilling
