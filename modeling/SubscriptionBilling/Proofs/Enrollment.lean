import Mathlib
import SubscriptionBilling.Proofs.SignUpDelivery
/-!
# From sign-ups to customers

Sign-ups are delivered in any order and any number of times, and any call may
fail; a delivery that fails is just followed by the next one.  Two statements
say what comes of that.

* `signUps_provision_once`: a user's customer is stored by one delivery at most,
  which announces it once and at once, and it is never touched again; the
  provider opens at most one account for the user (`Enrollment`).
* `creation_handed_of_ok`: as soon as a delivery of a user's sign-up succeeds,
  the customer was announced.  The publisher may have refused the announcement,
  and then it is lost (`creation_lost`), since later deliveries find the customer
  and do not announce it again; but the delivery that was refused came back with
  an error.

A run is taken apart delivery by delivery: `Story` is what becomes of a user in
it, and `story_deliveries` is the induction.
-/

namespace SubscriptionBilling

namespace Provisioning

open Trial

/-- Delivers envelopes one after the other, whatever comes of each. -/
def deliveries (plan : Plan) : List Envelope → Trial World → List Delivery
  | [], _ => []
  | e :: rest, t => deliver plan e t :: deliveries plan rest (deliver plan e t).after

/-! ## Any number of deliveries -/

/-- What becomes of a user in a run of deliveries. -/
inductive Story (user : UserId) (run : List Delivery) : Prop
  /-- The user has no customer yet. -/
  | awaiting (hquiet : ∀ d ∈ run, d.Quiet user) (hmissing : ∀ d ∈ run, d.customerAfter user = none)
  /-- One delivery stores the customer, and the others let it be. -/
  | provisioned (front : List Delivery) (d : Delivery) (back : List Delivery) (s : UserCreated)
      (account : Account) (e : Envelope) (answer : Option Failure)
      (hrun : run = front ++ d :: back) (huser : s.user = user)
      (hstores : d.Stores s account e answer) (hquiet : ∀ d' ∈ front ++ back, d'.Quiet user)
      (hmissing : ∀ d' ∈ front, d'.customerAfter user = none)
      (hkept : ∀ d' ∈ d :: back, d'.customerAfter user = some (customerOf s account))

section Run

variable {plan : Plan} {user : UserId}

/-- **The run behind a first success.** A customer that is there is left alone by every
delivery: no record, no account, no announcement for that user. -/
theorem known_deliveries {customer : Customer} (envelopes : List Envelope) {t : Trial World}
    (hfind : t.state.customers.find? (.ofUser user) = some customer) :
    ∀ d ∈ deliveries plan envelopes t, d.Quiet user ∧ d.customerAfter user = some customer := by
  induction envelopes generalizing t with
  | nil => exact List.forall_mem_nil _
  | cons e rest ih =>
      have hquiet : (deliver plan e t).Quiet user := by
        rcases deliver_quiet_or_stores plan e t user with hquiet | ⟨s, account, e', answer, rfl, h⟩
        · exact hquiet
        · exact absurd (h.unknown.symm.trans hfind) nofun
      have hkept : (deliver plan e t).customerAfter user = some customer :=
        hquiet.kept.trans hfind
      intro d hd
      rcases List.mem_cons.mp hd with rfl | hrest
      · exact ⟨hquiet, hkept⟩
      · exact ih hkept d hrest

/-- A story goes on behind a delivery that did nothing about the user. -/
theorem Story.cons {d : Delivery} {run : List Delivery} (h : Story user run)
    (hquiet : d.Quiet user) (hmissing : d.customerAfter user = none) : Story user (d :: run) := by
  cases h with
  | awaiting hquiet' hmissing' =>
      exact .awaiting (List.forall_mem_cons.mpr ⟨hquiet, hquiet'⟩)
        (List.forall_mem_cons.mpr ⟨hmissing, hmissing'⟩)
  | provisioned front d' back s account e answer hrun huser hstores hquiet' hmissing' hkept =>
      refine .provisioned (d :: front) d' back s account e answer ?_ huser hstores
        (List.forall_mem_cons.mpr ⟨hquiet, hquiet'⟩)
        (List.forall_mem_cons.mpr ⟨hmissing, hmissing'⟩) hkept
      rw [hrun]
      rfl

/-- **The run.** Begin without a customer of the user. The induction is on the
envelopes: a delivery is quiet about the user, and the story goes on, or it stores the
customer, and all that come later are quiet. -/
theorem story_deliveries (envelopes : List Envelope) {t : Trial World}
    (hfind : t.state.customers.find? (.ofUser user) = none) :
    Story user (deliveries plan envelopes t) := by
  induction envelopes generalizing t with
  | nil => exact .awaiting (List.forall_mem_nil _) (List.forall_mem_nil _)
  | cons e rest ih =>
      rcases deliver_quiet_or_stores plan e t user with
        hquiet | ⟨s, account, e', answer, huser, hstores⟩
      · have hmissing : (deliver plan e t).customerAfter user = none := hquiet.kept.trans hfind
        exact (ih hmissing).cons hquiet hmissing
      -- Once the customer is stored, the rest is a run over a known user.
      · have hfound : (deliver plan e t).customerAfter user = some (customerOf s account) := by
          rw [hstores.find_after user, if_pos huser]
        have hrest : ∀ d ∈ deliveries plan rest (deliver plan e t).after,
            d.Quiet user ∧ d.customerAfter user = some (customerOf s account) :=
          known_deliveries rest hfound
        exact .provisioned [] _ _ s account e' answer rfl huser hstores
          (fun d hd => (hrest d hd).1) (List.forall_mem_nil _)
          (List.forall_mem_cons.mpr ⟨hfound, fun d hd => (hrest d hd).2⟩)

/-- Each member of a run is a delivery of one of the envelopes. -/
theorem mem_deliveries {envelopes : List Envelope} {t : Trial World} {d : Delivery}
    (h : d ∈ deliveries plan envelopes t) : ∃ e ∈ envelopes, ∃ t', d = deliver plan e t' := by
  induction envelopes generalizing t with
  | nil => exact absurd h List.not_mem_nil
  | cons e rest ih =>
      rcases List.mem_cons.mp h with rfl | hrest
      · exact ⟨e, List.mem_cons_self, t, rfl⟩
      · obtain ⟨e', he', t', rfl⟩ := ih hrest
        exact ⟨e', List.mem_cons_of_mem _ he', t', rfl⟩

/-! ## The accounts -/

/-- The provider holds accounts under the keys that it held before, and under
the key of a user for whom one was opened. -/
theorem mem_keys_deliver (e : Envelope) (t : Trial World) {key : String} :
    key ∈ (deliver plan e t).after.state.gateway.accounts.keys ↔
      key ∈ t.state.gateway.accounts.keys ∨
        ∃ v, (deliver plan e t).Opens v ∧ key = AccountRequest.keyFor v := by
  constructor
  · intro hkey
    rcases deliver_accounts plan e t with hsame | ⟨v, hopens⟩
    · rw [hsame] at hkey
      exact .inl hkey
    · obtain ⟨account, -, hset⟩ := hopens.opened
      rw [hset, OrderedMap.mem_keys_set] at hkey
      exact hkey.symm.imp_right fun heq => ⟨v, hopens, heq⟩
  · rintro (hkey | ⟨v, hopens, rfl⟩)
    · rcases deliver_accounts plan e t with hsame | ⟨v, hopens⟩
      · rwa [hsame]
      · obtain ⟨account, -, hset⟩ := hopens.opened
        rw [hset]
        exact OrderedMap.mem_keys_set.mpr (.inr hkey)
    · obtain ⟨account, -, hset⟩ := hopens.opened
      rw [hset]
      exact OrderedMap.mem_keys_set.mpr (.inl rfl)

/-- An account that is held is not opened again, since the gateway answers with it
whenever it is asked under the user's key. -/
theorem not_opens_deliveries (envelopes : List Envelope) {t : Trial World}
    (hheld : AccountRequest.keyFor user ∈ t.state.gateway.accounts.keys) :
    ∀ d ∈ deliveries plan envelopes t, ¬ d.Opens user := by
  induction envelopes generalizing t with
  | nil => exact List.forall_mem_nil _
  | cons e rest ih =>
      have hheld' : AccountRequest.keyFor user ∈
          (deliver plan e t).after.state.gateway.accounts.keys :=
        (mem_keys_deliver e t).mpr (.inl hheld)
      refine List.forall_mem_cons.mpr ⟨fun hopens => ?_, ih hheld'⟩
      obtain ⟨account, hfree, -⟩ := hopens.opened
      obtain ⟨other, hfound⟩ := OrderedMap.mem_keys_iff.mp hheld
      exact absurd (hfree.symm.trans hfound) nofun

/-- At most one account is opened for a user: the first delivery that opens one leaves
it held, and then no later one opens another. -/
theorem opens_once (envelopes : List Envelope) (t : Trial World) :
    (deliveries plan envelopes t).Pairwise fun d d' => d.Opens user → ¬ d'.Opens user := by
  induction envelopes generalizing t with
  | nil => exact .nil
  | cons e rest ih =>
      refine List.pairwise_cons.mpr ⟨fun d' hd' hopens => ?_, ih _⟩
      exact not_opens_deliveries rest ((mem_keys_deliver e t).mpr (.inr ⟨user, hopens, rfl⟩)) d' hd'

/-- Every account that is held was there, or was opened for a user. -/
theorem accounts_deliveries (envelopes : List Envelope) (t : Trial World) :
    ∀ d ∈ deliveries plan envelopes t, ∀ key ∈ d.after.state.gateway.accounts.keys,
      key ∈ t.state.gateway.accounts.keys ∨
        ∃ v, key = AccountRequest.keyFor v ∧ ∃ d' ∈ deliveries plan envelopes t, d'.Opens v := by
  induction envelopes generalizing t with
  | nil => exact List.forall_mem_nil _
  | cons e rest ih =>
      have hfirst : ∀ key ∈ (deliver plan e t).after.state.gateway.accounts.keys,
          key ∈ t.state.gateway.accounts.keys ∨ ∃ v, key = AccountRequest.keyFor v ∧
            ∃ d' ∈ deliveries plan (e :: rest) t, d'.Opens v := by
        intro key hkey
        exact ((mem_keys_deliver e t).mp hkey).imp_right fun ⟨v, hopens, heq⟩ =>
          ⟨v, heq, _, List.mem_cons_self, hopens⟩
      refine List.forall_mem_cons.mpr ⟨hfirst, fun d hd key hkey => ?_⟩
      rcases ih _ d hd key hkey with hheld | ⟨v, heq, d', hd', hopens⟩
      · exact hfirst key hheld
      · exact .inr ⟨v, heq, d', List.mem_cons_of_mem _ hd', hopens⟩

end Run

/-- What a run of deliveries comes to for a user: the story of the customer; no
delivery changes the store of customers unless it stores one; and the provider
holds accounts of users only, of which it opened one for this user at most. -/
structure Enrollment (user : UserId) (run : List Delivery) : Prop where
  story : Story user run
  untouched : ∀ d ∈ run, (∀ c, (Call.insertCustomer c, none) ∉ d.calls) →
    d.after.state.customers = d.before.state.customers
  accounts : ∀ d ∈ run, ∀ key ∈ d.after.state.gateway.accounts.keys,
    ∃ v, key = AccountRequest.keyFor v
  opened : ∀ d ∈ run, AccountRequest.keyFor user ∈ d.after.state.gateway.accounts.keys →
    ∃ d' ∈ run, d'.Opens user
  account_once : run.Pairwise fun d d' => d.Opens user → ¬ d'.Opens user

end Provisioning

open Provisioning

/-- **Once and for all.**  Begin without customers and without accounts, and
deliver any envelopes while any calls fail. -/
theorem signUps_provision_once (plan : Plan) {w : World} (hcustomers : w.customers = .empty)
    (hgateway : w.gateway = .empty) (envelopes : List Envelope) (user : UserId) :
    Enrollment user (deliveries plan envelopes (.new w)) := by
  have hmissing : (Trial.new w).state.customers.find? (.ofUser user) = none := by
    show w.customers.find? _ = none
    rw [hcustomers]
    rfl
  have hnone : (Trial.new w).state.gateway.accounts.keys = [] := by
    show w.gateway.accounts.keys = []
    rw [hgateway]
    rfl
  have haccounts : ∀ d ∈ deliveries plan envelopes (.new w),
      ∀ key ∈ d.after.state.gateway.accounts.keys, ∃ v, key = AccountRequest.keyFor v ∧
        ∃ d' ∈ deliveries plan envelopes (.new w), d'.Opens v := by
    intro d hd key hkey
    rcases accounts_deliveries envelopes _ d hd key hkey with hheld | hopened
    · rw [hnone] at hheld
      exact absurd hheld List.not_mem_nil
    · exact hopened
  refine ⟨story_deliveries envelopes hmissing, ?_, ?_, ?_, opens_once envelopes _⟩
  · intro d hd hinserts
    obtain ⟨e, -, t, rfl⟩ := mem_deliveries hd
    rcases deliver_cases plan e t with hidle | ⟨s, account, e', answer, hstores⟩
    · exact hidle.customers
    · refine absurd ?_ (hinserts (customerOf s account))
      rw [hstores.calls]
      simp
  · intro d hd key hkey
    obtain ⟨v, heq, -⟩ := haccounts d hd key hkey
    exact ⟨v, heq⟩
  · intro d hd hkey
    obtain ⟨v, heq, hopened⟩ := haccounts d hd _ hkey
    exact AccountRequest.keyFor_injective heq ▸ hopened

namespace Sample

/-- A user signs up. -/
def ada : UserCreated := ⟨⟨"evt_7"⟩, ⟨.ofNat 7⟩, "ada@example.com", some "Ada", default⟩

/-- The sign-up on its way. -/
def signUp : Envelope :=
  ⟨ada.id, DomainEvent.topic UserCreated, 1, ada.user.text, "User", ada.occurredAt,
    UserCreated.schema.value ada, ⟨some "req_1", none⟩⟩

set_option maxRecDepth 4000 in
theorem read_signUp : Provisioning.signUp signUp = .ok ada := by
  cbv

/-- A publisher that is down at the first event only. -/
def refusing (before : List Envelope) (_ : Envelope) : Option Failure :=
  if before.isEmpty then some (.new .internalError "down") else none

/-- Only publications fail here. -/
theorem operation_of_refusing (j : Journal) (c : Call) (failure : Failure)
    (h : Plan.ofPublisher refusing j c = some failure) : c.operation = .publish := by
  cases c with
  | publish e => rfl
  | _ => cases h

/-- Nobody signed up yet. -/
def lobby : World := .new (.new (fun _ => default) Uuid.ofNat)

/-- The sign-up is delivered twice. -/
def twice : List Delivery :=
  deliveries (.ofPublisher refusing) [signUp, signUp] (.new lobby)

/-- The sign-up is delivered while customers can be looked for. -/
theorem run_signUp (plan : Plan) (hlook : ∀ j id, plan j (.findCustomer id) = none)
    (t : Trial World) :
    Trial.run plan (handle signUp : Service Empty Unit) t =
      if (t.state.customers.find? (.ofUser ada.user)).isSome then (.ok (), t.lookedFor ada)
      else Trial.run plan (enroll signUp ada : Service Empty Unit) (t.lookedFor ada) :=
  run_handle read_signUp (hlook _ _)

set_option maxRecDepth 4000 in
/-- The first delivery comes back with the publisher's failure and the second one with
nothing. -/
theorem results_twice :
    twice.map Delivery.result = [.error (.new .internalError "down"), .ok ()] := by
  simp only [twice, deliveries, deliver, run_signUp (.ofPublisher refusing) fun _ _ => rfl]
  cbv

set_option maxRecDepth 4000 in
/-- In neither of the two deliveries the publisher accepts anything. -/
theorem accepted_twice : (twice.flatMap fun d => d.calls.accepted) = [] := by
  simp only [twice, deliveries, deliver, run_signUp (.ofPublisher refusing) fun _ _ => rfl]
  cbv

end Sample

/-- The publisher refuses the announcement, and the sign-up is delivered again. -/
theorem signUps_provision_once_refused :
    Sample.lobby.customers = .empty ∧ Sample.lobby.gateway = .empty ∧
      Sample.twice.map Delivery.result = [.error (.new .internalError "down"), .ok ()] ∧
      Enrollment Sample.ada.user Sample.twice :=
  ⟨rfl, rfl, Sample.results_twice, signUps_provision_once (.ofPublisher Sample.refusing) rfl rfl
    [Sample.signUp, Sample.signUp] Sample.ada.user⟩

/-! ## What a success tells -/

namespace Provisioning

variable {plan : Plan} {user : UserId}

/-- A delivery that leaves its user without a customer fails, unless the store
does. -/
theorem result_ne_ok {e : Envelope} {t : Trial World} {s : UserCreated}
    (hplan : ∀ j c failure, plan j (.insertCustomer c) ≠ some failure)
    (hread : signUp e = .ok s) (hmissing : (deliver plan e t).customerAfter s.user = none) :
    (deliver plan e t).result ≠ .ok () := by
  intro hok
  rcases deliver_cases plan e t with hidle | ⟨s', account, e', answer, hstores⟩
  · obtain ⟨s', hread', hknown | ⟨j, c, failure, hcall⟩⟩ := hidle.success hok
    · cases hread.symm.trans hread'
      have hunknown : t.state.customers.find? (.ofUser s.user) = none :=
        (hidle.quiet s.user).kept.symm.trans hmissing
      have hfound : (t.state.customers.find? (.ofUser s.user)).isSome := hknown
      rw [hunknown] at hfound
      exact absurd hfound nofun
    · exact hplan j c failure hcall
  · cases hread.symm.trans hstores.signUp
    rw [hstores.find_after s.user, if_pos rfl] at hmissing
    exact absurd hmissing nofun

end Provisioning

namespace Provisioning

/-- In a run of a user's sign-ups, no delivery before the one that stores the customer
succeeds. -/
theorem prefix_of_ok {plan : Plan}
    (hplan : ∀ j c failure, plan j (.insertCustomer c) ≠ some failure) {user : UserId}
    {envelopes : List Envelope} (hsignUps : ∀ e ∈ envelopes, ∃ s, signUp e = .ok s ∧ s.user = user)
    {t : Trial World} {front back earlier later : List Delivery} {d d' : Delivery}
    (hrun : deliveries plan envelopes t = front ++ d :: back)
    (hsplit : deliveries plan envelopes t = earlier ++ d' :: later) (hok : d.result = .ok ())
    (hmissing : ∀ d'' ∈ earlier, d''.customerAfter user = none) :
    earlier ++ [d'] = front ++ [d] ∨ earlier ++ [d'] <+: front := by
  rcases List.append_eq_append_iff.mp (hrun.symm.trans hsplit) with
    ⟨between, hearlier, hrest⟩ | ⟨between, hfront, hrest⟩
  · cases between with
    | nil =>
        obtain ⟨rfl, -⟩ := List.cons.inj hrest
        rw [hearlier, List.append_nil]
        exact .inl rfl
    | cons first between =>
        obtain ⟨rfl, -⟩ := List.cons.inj hrest
        have hmem : d ∈ earlier := by
          rw [hearlier]
          simp
        have hdelivered : d ∈ deliveries plan envelopes t := by
          rw [hrun]
          simp
        obtain ⟨e, he, t', rfl⟩ := mem_deliveries hdelivered
        obtain ⟨s, hread, rfl⟩ := hsignUps e he
        exact absurd hok (result_ne_ok hplan hread (hmissing _ hmem))
  · cases between with
    | nil =>
        obtain ⟨rfl, -⟩ := List.cons.inj hrest
        rw [hfront, List.append_nil]
        exact .inl rfl
    | cons first between =>
        obtain ⟨rfl, -⟩ := List.cons.inj hrest
        refine .inr ⟨between, ?_⟩
        rw [hfront, List.append_assoc, List.singleton_append]

end Provisioning

/-- **What a success tells.**  Begin without a customer of a user, and deliver
sign-ups of this user while the provider and the publisher may fail.  As soon as
a delivery succeeds, the customer was announced in it or in an earlier one, and
either the publisher accepted the announcement, or the earlier delivery came back
with the publisher's error.  All deliveries behind that one find the customer, and
do not announce it again. -/
theorem creation_handed_of_ok {plan : Plan}
    (hplan : ∀ j c failure, plan j c = some failure →
      c.operation = .createAccount ∨ c.operation = .publish)
    {w : World} {user : UserId} (hmissing : w.customers.find? (.ofUser user) = none)
    {envelopes : List Envelope}
    (hsignUps : ∀ e ∈ envelopes, ∃ s, signUp e = .ok s ∧ s.user = user)
    {front back : List Delivery} {d : Delivery}
    (hrun : deliveries plan envelopes (.new w) = front ++ d :: back) (hok : d.result = .ok ()) :
    ∃ earlier d' later, deliveries plan envelopes (.new w) = earlier ++ d' :: later ∧
      earlier ++ [d'] <+: front ++ [d] ∧
      (∃ e : Envelope, e.isCreationOf user = true ∧
        ((Call.publish e, none) ∈ d'.calls ∨ earlier ++ [d'] <+: front ∧ ∃ failure,
          (Call.publish e, some failure) ∈ d'.calls ∧ d'.result = .error failure)) ∧
      ∀ d'' ∈ later, (d''.before.state.customers.find? (.ofUser user)).isSome ∧ d''.Quiet user := by
  have hinserts : ∀ j c failure, plan j (.insertCustomer c) ≠ some failure := by
    intro j c failure hcall
    rcases hplan j _ failure hcall with h | h <;> cases h
  have hlast : d ∈ deliveries plan envelopes (.new w) := by
    rw [hrun]
    simp
  have hstory : Story user (deliveries plan envelopes (.new w)) := story_deliveries _ hmissing
  cases hstory with
  | awaiting hquiet hmissing' =>
      obtain ⟨e, he, t, rfl⟩ := mem_deliveries hlast
      obtain ⟨s, hread, rfl⟩ := hsignUps e he
      exact absurd hok (result_ne_ok hinserts hread (hmissing' _ hlast))
  | provisioned earlier d' later s account e answer hsplit huser hstores hquiet hmissing' hkept =>
      have hposition := prefix_of_ok hinserts hsignUps hrun hsplit hok hmissing'
      have hhanded : (Call.publish e, answer) ∈ d'.calls := by
        rw [hstores.calls]
        simp
      refine ⟨earlier, d', later, hsplit, ?_, ⟨e, huser ▸ hstores.isCreationOf, ?_⟩, ?_⟩
      · rcases hposition with hsame | hbefore
        · rw [hsame]
        · exact hbefore.trans (List.prefix_append front [d])
      · cases answer with
        | none => exact .inl hhanded
        | some failure =>
            rcases hposition with hsame | hbefore
            -- The delivery that succeeds was not refused.
            · obtain ⟨-, hdelivery⟩ := List.append_inj' hsame rfl
              cases List.head_eq_of_cons_eq hdelivery
              exact absurd (hok.symm.trans hstores.result) nofun
            · exact .inr ⟨hbefore, failure, hhanded, hstores.result⟩
      · intro d'' hd''
        have hquiet'' := hquiet d'' (List.mem_append_right _ hd'')
        have hfound := hquiet''.kept.symm.trans (hkept d'' (List.mem_cons_of_mem _ hd''))
        rw [hfound]
        exact ⟨rfl, hquiet''⟩

/-- The publisher refuses the announcement, the sign-up is delivered again, and that
succeeds and announces nothing. -/
theorem creation_handed_of_ok_refused :
    (∀ j c failure, Plan.ofPublisher Sample.refusing j c = some failure →
        c.operation = .createAccount ∨ c.operation = .publish) ∧
      Sample.lobby.customers.find? (.ofUser Sample.ada.user) = none ∧
      (∀ e ∈ [Sample.signUp, Sample.signUp],
        ∃ s, signUp e = .ok s ∧ s.user = Sample.ada.user) ∧
      ∃ refused ignored, Sample.twice = [refused] ++ ignored :: [] ∧ ignored.result = .ok () ∧
        ∃ earlier d' later, Sample.twice = earlier ++ d' :: later ∧
          earlier ++ [d'] <+: [refused] ++ [ignored] ∧
          (∃ e : Envelope, e.isCreationOf Sample.ada.user = true ∧
            ((Call.publish e, none) ∈ d'.calls ∨ earlier ++ [d'] <+: [refused] ∧ ∃ failure,
              (Call.publish e, some failure) ∈ d'.calls ∧ d'.result = .error failure)) ∧
          ∀ d'' ∈ later, (d''.before.state.customers.find? (.ofUser Sample.ada.user)).isSome ∧
            d''.Quiet Sample.ada.user := by
  have hplan : ∀ j c failure, Plan.ofPublisher Sample.refusing j c = some failure →
      c.operation = .createAccount ∨ c.operation = .publish :=
    fun j c failure hcall => .inr (Sample.operation_of_refusing j c failure hcall)
  have hsignUps : ∀ e ∈ [Sample.signUp, Sample.signUp],
      ∃ s, signUp e = .ok s ∧ s.user = Sample.ada.user := by
    intro e he
    have heq : e = Sample.signUp := by simpa using he
    exact ⟨Sample.ada, heq ▸ Sample.read_signUp, rfl⟩
  obtain ⟨refused, rest, hfirst, -, hrest⟩ := List.map_eq_cons_iff.mp Sample.results_twice
  obtain ⟨ignored, rest', hsecond, hok, hlast⟩ := List.map_eq_cons_iff.mp hrest
  have hrun : Sample.twice = [refused] ++ ignored :: [] := by
    rw [hfirst, hsecond, List.map_eq_nil_iff.mp hlast]
    rfl
  exact ⟨hplan, rfl, hsignUps, refused, ignored, hrun, hok,
    creation_handed_of_ok hplan rfl hsignUps hrun hok⟩

/-- The customer is stored, and the announcement is lost for good. -/
theorem creation_lost :
    (∀ j c failure, Plan.ofPublisher Sample.refusing j c = some failure →
        c.operation = .publish) ∧
      Sample.lobby.customers.find? (.ofUser Sample.ada.user) = none ∧
      signUp Sample.signUp = .ok Sample.ada ∧
      let run := deliveries (.ofPublisher Sample.refusing) [Sample.signUp, Sample.signUp]
        (.new Sample.lobby)
      run.map Delivery.result = [.error (.new .internalError "down"), .ok ()] ∧
        (run.flatMap fun d => d.calls.accepted) = [] :=
  ⟨Sample.operation_of_refusing, rfl, Sample.read_signUp, Sample.results_twice,
    Sample.accepted_twice⟩

end SubscriptionBilling
