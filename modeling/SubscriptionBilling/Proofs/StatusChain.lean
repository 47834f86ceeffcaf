import SubscriptionBilling.Proofs.Turn
/-!
# Chains of announcements

The announcements of one subscription tell its story: each leads from one status
to another, and the next one begins where it ended.  `StatusChain` says so of
envelopes as they are handed over, by what stands in their documents.
`StatusChain.append` is how a story goes on.
-/

namespace SubscriptionBilling

/-- The topic of announcements. -/
def StatusChanged.topic : Topic := DomainEvent.topic StatusChanged

namespace Envelope

/-- The envelope announces a change of status of a subscription. -/
def isStatusChangeOf (e : Envelope) (id : SubscriptionId) : Bool :=
  e.topic == StatusChanged.topic && e.aggregateId == id.text

/-- The status that stands in a member of the content. -/
def status? (e : Envelope) (member : String) : Option Status :=
  ((e.payload.member? member).bind Json.text?).bind fun token => (Status.parse token).toOption

end Envelope

/-- Envelopes that lead from one status to another, each by a change that the
life cycle allows. -/
def StatusChain (source : Status) : List Envelope → Status → Prop
  | [], target => source = target
  | e :: rest, target => ∃ next, e.status? "from" = some source ∧ e.status? "to" = some next ∧
      source ≠ next ∧ source.canBecome next = true ∧ StatusChain next rest target

/-- The story goes on with one more change that begins at the status it had come to,
differs from it, and is in the table. -/
theorem StatusChain.append {source mid target : Status} {events : List Envelope} {e : Envelope}
    (h : StatusChain source events mid) (hsource : e.status? "from" = some mid)
    (htarget : e.status? "to" = some target) (hchanged : mid ≠ target)
    (hlegal : mid.canBecome target = true) : StatusChain source (events ++ [e]) target := by
  induction events generalizing source with
  | nil =>
      have hstart : source = mid := h
      subst hstart
      exact ⟨target, hsource, htarget, hchanged, hlegal, rfl⟩
  | cons first rest ih =>
      obtain ⟨next, hfrom, hto, hne, hallowed, hrest⟩ := h
      exact ⟨next, hfrom, hto, hne, hallowed, ih hrest⟩

namespace StatusChanged

theorem member?_from (c : StatusChanged) :
    (schema.value c).member? "from" = some (.string c.source.token) := by
  simp only [Json.Schema.value, schema, Json.Schema.record, Json.Fields.write, Json.Field.required,
    Json.canonical, Json.member?, Json.find?_canonicalMembers_cons, String.reduceEq, if_true,
    if_false, Bool.false_eq_true]
  rfl

theorem member?_to (c : StatusChanged) :
    (schema.value c).member? "to" = some (.string c.target.token) := by
  simp only [Json.Schema.value, schema, Json.Schema.record, Json.Fields.write, Json.Field.required,
    Json.canonical, Json.member?, Json.find?_canonicalMembers_cons, String.reduceEq, if_true,
    if_false, Bool.false_eq_true]
  rfl

end StatusChanged

namespace Subscription.Announces

variable {s s' : Subscription} {e : Envelope}

/-- An announcement of a transition is of the topic of all changes of status. -/
theorem topic (h : s.Announces s' e) : e.topic = StatusChanged.topic := by
  obtain ⟨id, rfl⟩ := h
  rfl

/-- An announcement of a transition goes by the identifier of the subscription. -/
theorem aggregateId (h : s.Announces s' e) : e.aggregateId = s'.id.text := by
  obtain ⟨id, rfl⟩ := h
  rfl

/-- An announcement of a transition tells the status before. -/
theorem source (h : s.Announces s' e) : e.status? "from" = some s.status := by
  obtain ⟨id, rfl⟩ := h
  rw [Envelope.status?, StatusChanged.envelope, StatusChanged.member?_from]
  exact congrArg Except.toOption (Status.parse_token s.status)

/-- An announcement of a transition tells the status after. -/
theorem target (h : s.Announces s' e) : e.status? "to" = some s'.status := by
  obtain ⟨id, rfl⟩ := h
  rw [Envelope.status?, StatusChanged.envelope, StatusChanged.member?_to]
  exact congrArg Except.toOption (Status.parse_token s'.status)

end Subscription.Announces

end SubscriptionBilling
