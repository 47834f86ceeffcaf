import Mathlib.Data.Finset.Card
import SubscriptionBilling.Proofs.Calls
import SubscriptionBilling.Proofs.Course
import SubscriptionBilling.Proofs.History
/-!
# What the payment provider remembers

The provider is asked for accounts, and now and then it is told to fail the next
request.  `dealt` makes a sequence of such dealings and keeps a log of the answers;
each request is noted with the identifier that it had at hand for a new account.

The accounts stand in slots: a request with a key is for the slot of its key, one
without is for a slot of its own, under the new identifier.  Whoever is the first
to succeed in a slot opens the account that all later requests there get.  `Books`
says this of a log and the provider's state, along with the error that the next
request will meet and the number of requests; `Books.deal` is one dealing.

Nothing in the provider keeps new identifiers and keys apart.  `Fresh` says that
they were in a log, and `dealt_shows` is what the answers then come to.
-/

namespace SubscriptionBilling

namespace Gateway

variable {g : Gateway} {freshId : String} {r : AccountRequest}

/-- A request that is to fail opens no account and uses the error up. -/
theorem create_failing {error : GatewayError} (herror : g.nextError = some error) :
    g.create freshId r = (.error error, { g with nextError := none, calls := g.calls + 1 }) := by
  simp only [create, herror]

/-- A request whose slot is taken is answered with the account that stands there,
whatever email and name it brings; only the count of the calls moves on. -/
theorem create_taken (herror : g.nextError = none) {account : Account}
    (hfind : g.accounts.find? (r.key.getD freshId) = some account) :
    g.create freshId r = (.ok account, { g with calls := g.calls + 1 }) := by
  simp only [create, herror, hfind]

/-- A request whose slot is free opens an account there, under the identifier that was
made up for it, with the email and the name of the request. -/
theorem create_free (herror : g.nextError = none)
    (hfind : g.accounts.find? (r.key.getD freshId) = none) :
    g.create freshId r = (.ok ⟨freshId, r.email, r.name⟩,
      { g with
        accounts := g.accounts.set (r.key.getD freshId) ⟨freshId, r.email, r.name⟩
        calls := g.calls + 1 }) := by
  simp only [create, herror, hfind]

end Gateway

/-- What is done with the provider. -/
inductive Dealing where
  | failNext (error : GatewayError)
  | request (r : AccountRequest)

namespace Dealing

/-- What comes back: of a request its answer, with the identifier that it had at hand
for a new account. -/
abbrev Answer := Option (String × Except GatewayError Account)

/-- Dealings with what came back, the first one first. -/
abbrev Log := List (Dealing × Answer)

/-- A request that succeeded, the identifier that it had at hand and the account that
it got. -/
structure Success where
  request : AccountRequest
  freshId : String
  account : Account
deriving DecidableEq

/-- Where the account of a request stands. -/
def Success.slot (s : Success) : String := s.request.key.getD s.freshId

/-- The account that a request opens if it is the first in its slot. -/
def Success.opened (s : Success) : Account := ⟨s.freshId, s.request.email, s.request.name⟩

/-- The success in an entry of a log. -/
def success : Dealing × Answer → Option Success
  | (request r, some (freshId, .ok account)) => some ⟨r, freshId, account⟩
  | _ => none

/-- The requests that succeeded. -/
def successes (log : Log) : List Success := log.filterMap success

/-- The first request that succeeded in a slot. -/
def firstIn (log : Log) (slot : String) : Option Success :=
  (successes log).find? fun s => s.slot = slot

/-- The first request that succeeded with a key. -/
def firstKeyed (log : Log) (key : String) : Option Success :=
  (successes log).find? fun s => s.request.key = some key

/-- The errors that were set since the last request, of dealings with the last one
first. -/
def raisedSince : List Dealing → List GatewayError
  | failNext error :: rest => error :: raisedSince rest
  | _ => []

/-- The errors that were set since the last request, the last one first. -/
def raised (log : Log) : List GatewayError := raisedSince (log.map Prod.fst).reverse

/-- The requests, whether they succeeded or not. -/
def requests (dealings : List Dealing) : List AccountRequest :=
  dealings.filterMap fun
    | request r => some r
    | failNext _ => none

/-- An error that is set stands in front of those that were set before it, and a request
leaves none of them behind. -/
theorem raised_snoc (log : Log) (d : Dealing) (answer : Answer) :
    raised (log ++ [(d, answer)]) =
      match d with
      | failNext error => error :: raised log
      | request _ => [] := by
  rw [raised, List.map_append, List.reverse_append]
  cases d <;> rfl

/-- A success is the first one of its key only if there was none before. -/
theorem firstIn_snoc {log : Log} {entry : Dealing × Answer} {s : Success}
    (hsuccess : success entry = some s) (slot : String) :
    firstIn (log ++ [entry]) slot =
      (firstIn log slot).or (if s.slot = slot then some s else none) := by
  rw [firstIn, successes, List.filterMap_append, List.filterMap_cons_some hsuccess,
    List.find?_append]
  by_cases hslot : s.slot = slot <;> simp [firstIn, successes, hslot]

/-- A call that does not succeed adds nothing to the successes. -/
theorem successes_snoc_of_none {log : Log} {entry : Dealing × Answer}
    (hnone : success entry = none) : successes (log ++ [entry]) = successes log := by
  rw [successes, List.filterMap_append, List.filterMap_cons_none hnone]
  exact List.append_nil _

/-! ## One dealing and all of them -/

/-- What a dealing comes to at the provider, given the identifier of a new account. -/
def inGateway (freshId : String) (g : Gateway) : Dealing → Answer × Gateway
  | failNext error => (none, g.failNext error)
  | request r => (some (freshId, (g.create freshId r).1), (g.create freshId r).2)

/-- Each slot has the account that the first success there opened, and every success
got the one in its slot. -/
structure Held (log : Log) (accounts : OrderedMap String Account) : Prop where
  found : ∀ slot, accounts.find? slot = (firstIn log slot).map Success.opened
  answered : ∀ s ∈ successes log, (firstIn log s.slot).map Success.opened = some s.account

section

variable {log : Log} {accounts : OrderedMap String Account} {entry : Dealing × Answer} {s : Success}

/-- What is no success leaves the accounts alone, and so they are still those of the
log. -/
theorem Held.quiet (h : Held log accounts) (hnone : success entry = none) :
    Held (log ++ [entry]) accounts := by
  have hsuccesses : successes (log ++ [entry]) = successes log := successes_snoc_of_none hnone
  refine ⟨?_, ?_⟩
  · intro slot
    rw [firstIn, hsuccesses]
    exact h.found slot
  · intro s hs
    rw [firstIn, hsuccesses]
    exact h.answered s (hsuccesses ▸ hs)

/-- Whoever succeeded first in a slot remains the first, however often the slot is asked
for again. -/
theorem firstIn_snoc_of_some (hsuccess : success entry = some s) {slot : String}
    {first : Success} (hfirst : firstIn log slot = some first) :
    firstIn (log ++ [entry]) slot = some first := by
  rw [firstIn_snoc hsuccess, hfirst]
  rfl

/-- Successes that got the account of their slot still have, after one more that
did. -/
theorem Held.answered_snoc (h : Held log accounts) (hsuccess : success entry = some s)
    (hlast : (firstIn (log ++ [entry]) s.slot).map Success.opened = some s.account) :
    ∀ s' ∈ successes (log ++ [entry]),
      (firstIn (log ++ [entry]) s'.slot).map Success.opened = some s'.account := by
  intro s' hs'
  rw [successes, List.filterMap_append, List.filterMap_cons_some hsuccess] at hs'
  rcases List.mem_append.mp hs' with hbefore | hnew
  · have hanswered := h.answered s' hbefore
    obtain ⟨first, hfirst, -⟩ := Option.map_eq_some_iff.mp hanswered
    rw [firstIn_snoc_of_some hsuccess hfirst, ← hfirst]
    exact hanswered
  · rw [List.filterMap_nil, List.mem_singleton] at hnew
    subst hnew
    exact hlast

/-- A success in a taken slot leaves the accounts alone, since it got the account that
the first success in the slot had opened. -/
theorem Held.taken (h : Held log accounts) (hsuccess : success entry = some s)
    (hfind : accounts.find? s.slot = some s.account) : Held (log ++ [entry]) accounts := by
  rw [h.found] at hfind
  obtain ⟨first, hfirst, hopened⟩ := Option.map_eq_some_iff.mp hfind
  refine ⟨?_, h.answered_snoc hsuccess ?_⟩
  · intro slot
    rw [h.found, firstIn_snoc hsuccess]
    by_cases hslot : s.slot = slot
    · subst hslot
      simp [hfirst]
    · simp [hslot]
  · rw [firstIn_snoc_of_some hsuccess hfirst, ← hopened]
    rfl

/-- A success in a free slot is the first one there, and opens the account that the slot
holds from now on. -/
theorem Held.free (h : Held log accounts) (hsuccess : success entry = some s)
    (hfind : accounts.find? s.slot = none) (hopened : s.account = s.opened) :
    Held (log ++ [entry]) (accounts.set s.slot s.opened) := by
  rw [h.found, Option.map_eq_none_iff] at hfind
  refine ⟨?_, h.answered_snoc hsuccess ?_⟩
  · intro slot
    rw [OrderedMap.find?_set, h.found, firstIn_snoc hsuccess]
    by_cases hslot : s.slot = slot
    · subst hslot
      simp [hfind]
    · simp [hslot]
  · rw [firstIn_snoc hsuccess, hfind, hopened]
    simp

end

/-- The provider goes by a log: the next request meets the error that was set last
since the one before, every request was counted, and the accounts are those of the
first successes. -/
structure Books (log : Log) (g : Gateway) : Prop where
  error : g.nextError = (raised log).head?
  calls : g.calls = (requests (log.map Prod.fst)).length
  held : Held log g.accounts

theorem books_empty : Books [] .empty := ⟨rfl, rfl, fun _ => rfl, fun _ h => nomatch h⟩

theorem length_requests_snoc (log : Log) (r : AccountRequest) (answer : Answer) :
    (requests ((log ++ [(request r, answer)]).map Prod.fst)).length =
      (requests (log.map Prod.fst)).length + 1 := by
  rw [List.map_append, requests, List.filterMap_append, List.length_append]
  rfl

/-- To set an error counts as no call and opens nothing; it waits for the next request,
in front of those that were set before. -/
theorem Books.failNext {log : Log} {g : Gateway} (h : Books log g) (error : GatewayError) :
    Books (log ++ [(.failNext error, none)]) (g.failNext error) := by
  refine ⟨?_, ?_, h.held.quiet rfl⟩
  · rw [raised_snoc]
    rfl
  · rw [List.map_append, requests, List.filterMap_append]
    exact h.calls.trans (congrArg List.length (List.append_nil _)).symm

/-- **One request.** It is counted, it takes all the errors that were waiting, and if
none was, it opens an account or finds one. -/
theorem Books.request {log : Log} {g : Gateway} (h : Books log g) (freshId : String)
    (r : AccountRequest) :
    Books (log ++ [(request r, some (freshId, (g.create freshId r).1))])
      (g.create freshId r).2 := by
  have hraised (answer : Answer) :
      (raised (log ++ [(Dealing.request r, answer)])).head? = none := by
    rw [raised_snoc]
    rfl
  cases herror : g.nextError with
  | some error =>
      rw [Gateway.create_failing herror]
      refine ⟨(hraised _).symm, ?_, h.held.quiet rfl⟩
      rw [length_requests_snoc, ← h.calls]
  | none =>
      cases hfind : g.accounts.find? (r.key.getD freshId) with
      | some account =>
          rw [Gateway.create_taken herror hfind]
          refine ⟨herror.trans (hraised _).symm, ?_,
            h.held.taken (s := ⟨r, freshId, account⟩) rfl hfind⟩
          rw [length_requests_snoc, ← h.calls]
      | none =>
          rw [Gateway.create_free herror hfind]
          refine ⟨herror.trans (hraised _).symm, ?_,
            h.held.free (s := ⟨r, freshId, ⟨freshId, r.email, r.name⟩⟩) rfl hfind rfl⟩
          rw [length_requests_snoc, ← h.calls]

/-- **One dealing.**  A provider that goes by a log still does so after one more
dealing. -/
theorem Books.deal {log : Log} {g : Gateway} (h : Books log g) (freshId : String) (d : Dealing) :
    Books (log ++ [(d, (d.inGateway freshId g).1)]) (d.inGateway freshId g).2 := by
  cases d with
  | failNext error => exact h.failNext error
  | request r => exact h.request freshId r

/-! ## New identifiers -/

/-- New identifiers were new: no two successes had the same one at hand, and none was
the key of a success. -/
structure Fresh (log : Log) : Prop where
  distinct : ((successes log).map Success.freshId).Nodup
  apart : ∀ s ∈ successes log, ∀ s' ∈ successes log, s.request.key ≠ some s'.freshId

instance (log : Log) : Decidable (Fresh log) :=
  decidable_of_iff (((successes log).map Success.freshId).Nodup ∧
      ∀ s ∈ successes log, ∀ s' ∈ successes log, s.request.key ≠ some s'.freshId)
    ⟨fun h => ⟨h.1, h.2⟩, fun h => ⟨h.distinct, h.apart⟩⟩

section

variable {log : Log} {accounts : OrderedMap String Account} {s s' : Success}

/-- A slot that goes by a key is no slot of a request without one. -/
theorem Fresh.slot_eq_iff (h : Fresh log) {key : String} (hs : s ∈ successes log)
    (hkey : s.request.key = some key) (hs' : s' ∈ successes log) :
    s'.slot = key ↔ s'.request.key = some key := by
  cases hother : s'.request.key with
  | some other => simp [Success.slot, hother]
  | none =>
      have hapart := h.apart s hs s' hs'
      rw [hkey] at hapart
      simp only [Success.slot, hother, Option.getD_none, reduceCtorEq, iff_false]
      rintro rfl
      exact hapart rfl

/-- The first in the slot of a key is the first with the key. -/
theorem Fresh.firstIn_eq (h : Fresh log) {key : String} (hs : s ∈ successes log)
    (hkey : s.request.key = some key) : firstIn log key = firstKeyed log key := by
  refine List.find?_congr fun s' hs' => ?_
  rw [decide_eq_decide]
  exact h.slot_eq_iff hs hkey hs'

/-- Of two successes that had the same identifier at hand, each is the other: an
identifier is made up once. -/
theorem Fresh.eq_of_freshId (h : Fresh log) (hs : s ∈ successes log) (hs' : s' ∈ successes log)
    (hid : s.freshId = s'.freshId) : s = s' :=
  List.inj_on_of_nodup_map h.distinct hs hs' hid

/-- Accounts with one identifier stand in one slot, since the identifier is that of the
success which opened the account. -/
theorem Fresh.slot_eq_of_id (h : Fresh log) (hheld : Held log accounts) (hs : s ∈ successes log)
    (hs' : s' ∈ successes log) (hid : s.account.id = s'.account.id) : s.slot = s'.slot := by
  obtain ⟨first, hfirst, hopened⟩ := Option.map_eq_some_iff.mp (hheld.answered s hs)
  obtain ⟨first', hfirst', hopened'⟩ := Option.map_eq_some_iff.mp (hheld.answered s' hs')
  have hsame : first = first' := by
    refine h.eq_of_freshId (List.mem_of_find?_eq_some hfirst)
      (List.mem_of_find?_eq_some hfirst') ?_
    rw [← hopened, ← hopened'] at hid
    exact hid
  have hslot : first.slot = s.slot := by simpa using List.find?_some hfirst
  have hslot' : first'.slot = s'.slot := by simpa using List.find?_some hfirst'
  rw [← hslot, ← hslot', hsame]

/-- A request with a key gets the account of the first success with it. -/
theorem Fresh.keyed (h : Fresh log) (hheld : Held log accounts) (hs : s ∈ successes log)
    {key : String} (hkey : s.request.key = some key) :
    ∃ first, firstKeyed log key = some first ∧
      s.account = ⟨first.freshId, first.request.email, first.request.name⟩ := by
  have hanswered := hheld.answered s hs
  rw [(h.slot_eq_iff hs hkey hs).mpr hkey, h.firstIn_eq hs hkey] at hanswered
  obtain ⟨first, hfirst, hopened⟩ := Option.map_eq_some_iff.mp hanswered
  exact ⟨first, hfirst, hopened.symm⟩

/-- Two successes have accounts of one identifier just if they have a key in
common. -/
theorem Fresh.pairwise (h : Fresh log) (hheld : Held log accounts) :
    (successes log).Pairwise fun s s' =>
      s.account.id = s'.account.id ↔
        ∃ key, s.request.key = some key ∧ s'.request.key = some key := by
  have hdistinct : (successes log).Pairwise fun s s' => s.freshId ≠ s'.freshId :=
    List.pairwise_map.mp h.distinct
  refine hdistinct.imp_of_mem fun {s s'} hs hs' hdiffer => ⟨?_, ?_⟩
  · intro hid
    have hslot := h.slot_eq_of_id hheld hs hs' hid
    cases hkey : s.request.key with
    | some key =>
        have hslot' : s'.slot = key := hslot.symm.trans ((h.slot_eq_iff hs hkey hs).mpr hkey)
        exact ⟨key, rfl, (h.slot_eq_iff hs hkey hs').mp hslot'⟩
    | none =>
        cases hkey' : s'.request.key with
        | some key =>
            have hslot' : s.slot = key := hslot.trans ((h.slot_eq_iff hs' hkey' hs').mpr hkey')
            exact ⟨key, hkey.symm.trans ((h.slot_eq_iff hs' hkey' hs).mp hslot'), rfl⟩
        | none =>
            simp only [Success.slot, hkey, hkey', Option.getD_none] at hslot
            exact absurd hslot hdiffer
  · rintro ⟨key, hkey, hkey'⟩
    obtain ⟨first, hfirst, haccount⟩ := h.keyed hheld hs hkey
    obtain ⟨first', hfirst', haccount'⟩ := h.keyed hheld hs' hkey'
    rw [hfirst, Option.some.injEq] at hfirst'
    rw [haccount, haccount', hfirst']

/-- The keys of the successes. -/
def keys (log : Log) : List String := (successes log).filterMap fun s => s.request.key

/-- The successes of requests without a key. -/
def keyless (log : Log) : List Success := (successes log).filter fun s => s.request.key = none

/-- The slots that are taken are those of the successes, and none is ever given up. -/
theorem Held.mem_keys_iff (hheld : Held log accounts) (slot : String) :
    slot ∈ accounts.keys ↔ slot ∈ (successes log).map Success.slot := by
  rw [OrderedMap.mem_keys_iff, ← Option.isSome_iff_exists, hheld.found, Option.isSome_map, firstIn,
    List.find?_isSome, List.mem_map]
  simp

/-- Slots are keys, or new identifiers that were at hand for a request without one. -/
theorem mem_slots_iff (slot : String) :
    slot ∈ (successes log).map Success.slot ↔
      slot ∈ keys log ∨ slot ∈ (keyless log).map Success.freshId := by
  simp only [keys, keyless, List.mem_map, List.mem_filterMap, List.mem_filter, decide_eq_true_eq]
  constructor
  · rintro ⟨s, hs, rfl⟩
    cases hkey : s.request.key with
    | some key => exact .inl ⟨s, hs, by simp [Success.slot, hkey]⟩
    | none => exact .inr ⟨s, ⟨hs, hkey⟩, by simp [Success.slot, hkey]⟩
  · rintro (⟨s, hs, hkey⟩ | ⟨s, ⟨hs, hkey⟩, rfl⟩)
    · exact ⟨s, hs, by simp [Success.slot, hkey]⟩
    · exact ⟨s, hs, by simp [Success.slot, hkey]⟩

/-- There is an account for every key and for every request without one. -/
theorem Fresh.size (h : Fresh log) (hheld : Held log accounts) :
    accounts.size = (keys log).toFinset.card + (keyless log).length := by
  have hslots : ((successes log).map Success.slot).toFinset =
      (keys log).toFinset ∪ ((keyless log).map Success.freshId).toFinset := by
    ext slot
    simp only [Finset.mem_union, List.mem_toFinset, mem_slots_iff]
  have hdisjoint : Disjoint (keys log).toFinset ((keyless log).map Success.freshId).toFinset := by
    rw [Finset.disjoint_left]
    intro slot hslot hslot'
    obtain ⟨s, hs, hkey⟩ := List.mem_filterMap.mp (List.mem_toFinset.mp hslot)
    obtain ⟨s', hs', rfl⟩ := List.mem_map.mp (List.mem_toFinset.mp hslot')
    exact h.apart s hs s' (List.mem_of_mem_filter hs') hkey
  have hkeyless : ((keyless log).map Success.freshId).Nodup :=
    (List.filter_sublist.map Success.freshId).nodup h.distinct
  calc accounts.size
      = ((successes log).map Success.slot).toFinset.card :=
        OrderedMap.size_eq_card hheld.mem_keys_iff
    _ = (keys log).toFinset.card + ((keyless log).map Success.freshId).toFinset.card := by
        rw [hslots, Finset.card_union_of_disjoint hdisjoint]
    _ = (keys log).toFinset.card + (keyless log).length := by
        rw [List.toFinset_card_of_nodup hkeyless, List.length_map]

end

/-! ## What callers see -/

/-- A request to the provider. -/
def ask (t : Trial World) (r : AccountRequest) : Except GatewayError Account × Trial World :=
  (Accounts.request r : Activity Empty World _).trial .smooth t

/-- A dealing with the provider; a request takes a new UUID for the identifier that it
has at hand. -/
def inTrial (t : Trial World) : Dealing → Answer × Trial World
  | failNext error => (none, t.inState { t.state with gateway := t.state.gateway.failNext error })
  | request r => (some (Gateway.accountId t.state.nextUuid, (ask t r).1), (ask t r).2)

/-- One dealing after the other. -/
def dealt (dealings : List Dealing) (t : Trial World) : Log × Trial World :=
  course inTrial dealings t

/-- What a call to the gateway answers and leaves, in a trial: `Gateway.create` with the
next UUID of the supply. -/
theorem ask_eq (t : Trial World) (r : AccountRequest) :
    (ask t r).1 = (t.state.gateway.create (Gateway.accountId t.state.nextUuid) r).1 ∧
      (ask t r).2.state.gateway =
        (t.state.gateway.create (Gateway.accountId t.state.nextUuid) r).2 := by
  rw [ask, Trial.trial_request]
  exact ⟨rfl, rfl⟩

/-- A call in a trial deals with the provider as the gateway alone would with the next
UUID of the supply. -/
theorem inTrial_eq (t : Trial World) (d : Dealing) :
    (d.inTrial t).1 = (d.inGateway (Gateway.accountId t.state.nextUuid) t.state.gateway).1 ∧
      (d.inTrial t).2.state.gateway =
        (d.inGateway (Gateway.accountId t.state.nextUuid) t.state.gateway).2 := by
  cases d with
  | failNext error => exact ⟨rfl, rfl⟩
  | request r =>
      obtain ⟨hanswer, hgateway⟩ := ask_eq t r
      refine ⟨?_, hgateway⟩
      rw [inTrial, hanswer]
      rfl

/-- **All of them.** The books are those of the log, whatever was asked for and whatever
failed. -/
theorem books_dealt (dealings : List Dealing) {log : Log} {t : Trial World}
    (h : Books log t.state.gateway) :
    Books (log ++ (dealt dealings t).1) (dealt dealings t).2.state.gateway := by
  refine course_keeps (P := fun log (t : Trial World) => Books log t.state.gateway) ?_ dealings h
  intro log t h d
  obtain ⟨hanswer, hgateway⟩ := inTrial_eq t d
  rw [hanswer, hgateway]
  exact h.deal _ d

/-- A request fails just if an error was set, with the one set last, and then opens
no account. -/
theorem Books.ask {log : Log} {t : Trial World} (h : Books log t.state.gateway)
    (r : AccountRequest) (error : GatewayError) :
    ((ask t r).1 = .error error ↔ (raised log).head? = some error) ∧
      ((ask t r).1 = .error error →
        (ask t r).2.state.gateway.accounts = t.state.gateway.accounts) := by
  obtain ⟨hanswer, hgateway⟩ := ask_eq t r
  rw [hanswer, hgateway, ← h.error]
  cases herror : t.state.gateway.nextError with
  | some error' =>
      rw [Gateway.create_failing herror]
      simp
  | none =>
      obtain ⟨⟨account, hok⟩, -⟩ := Gateway.create_of_nextError herror
        (Gateway.accountId t.state.nextUuid) r
      rw [hok]
      simp

/-- A request in a log failed just if an error had been set since the one before, with
the one set last. -/
theorem failed_of_log {dealings : List Dealing} {t : Trial World}
    (h : Books [] t.state.gateway) {before after : Log} {r : AccountRequest} {answer : Answer}
    (hlog : (dealt dealings t).1 = before ++ (request r, answer) :: after) :
    ∃ freshId result, answer = some (freshId, result) ∧
      ∀ error, result = .error error ↔ (raised before).head? = some error := by
  obtain ⟨hbefore, hanswer⟩ := course_split hlog
  have hbooks := books_dealt (before.map Prod.fst) h
  rw [List.nil_append, dealt, hbefore] at hbooks
  exact ⟨_, _, hanswer, fun error => (hbooks.ask r error).1⟩

/-- What the provider's answers in a log come to, and what one more request would. -/
structure Shows (dealings : List Dealing) (log : Log) (t : Trial World) : Prop where
  /-- Every dealing is in the log. -/
  logged : log.map Prod.fst = dealings
  /-- A request was answered, and failed just if an error had been set since the one
  before, with the one set last. -/
  failed : ∀ before r answer after, log = before ++ (request r, answer) :: after →
    ∃ freshId result, answer = some (freshId, result) ∧
      ∀ error, result = .error error ↔ (raised before).head? = some error
  /-- So does one more request, and then it opens no account. -/
  fails : ∀ r error,
    ((ask t r).1 = .error error ↔ (raised log).head? = some error) ∧
      ((ask t r).1 = .error error →
        (ask t r).2.state.gateway.accounts = t.state.gateway.accounts)
  /-- Every success with a key got the account that the first with it opened. -/
  keyed : ∀ s ∈ successes log, ∀ key, s.request.key = some key →
    ∃ first, firstKeyed log key = some first ∧
      s.account = ⟨first.freshId, first.request.email, first.request.name⟩
  /-- Two successes got accounts of one identifier just if they have a key in
  common. -/
  distinct : (successes log).Pairwise fun s s' =>
    s.account.id = s'.account.id ↔ ∃ key, s.request.key = some key ∧ s'.request.key = some key
  /-- There is an account for every key and for every success without one. -/
  size : t.state.gateway.size = (keys log).toFinset.card + (keyless log).length
  /-- Every request was counted. -/
  calls : t.state.gateway.calls = (requests dealings).length
  /-- Requests for users have a key in common just if they are for the same user. -/
  users : ∀ user user' email email' name name',
    (AccountRequest.forUser user email name).key = (AccountRequest.forUser user' email' name').key ↔
      user = user'

/-- **What the provider shows.**  Begin with a provider without accounts, deal with it
in any way, and let the new identifiers be new. -/
theorem dealt_shows (dealings : List Dealing) {w : World} (hempty : w.gateway = .empty)
    (hfresh : Fresh (dealt dealings (.new w)).1) :
    Shows dealings (dealt dealings (.new w)).1 (dealt dealings (.new w)).2 := by
  have hnothing : Books [] (Trial.new w).state.gateway := by
    rw [show (Trial.new w).state.gateway = .empty from hempty]
    exact books_empty
  have hbooks := books_dealt dealings hnothing
  have hlogged : (dealt dealings (.new w)).1.map Prod.fst = dealings := map_fst_course dealings _
  rw [List.nil_append] at hbooks
  refine ⟨hlogged, fun _ _ _ _ => failed_of_log hnothing, fun r error => hbooks.ask r error,
    fun _ hs _ hkey => hfresh.keyed hbooks.held hs hkey, hfresh.pairwise hbooks.held,
    hfresh.size hbooks.held, ?calls, ?users⟩
  case calls =>
    rw [hbooks.calls, hlogged]
  case users =>
    intro user user' email email' name name'
    constructor
    · intro hkey
      exact AccountRequest.keyFor_injective (Option.some.inj hkey)
    · rintro rfl
      rfl

end Dealing

namespace Sample

/-- A request for Ada with her key. -/
def keyedRequest (email : String) : AccountRequest := .forUser ⟨.ofNat 7⟩ email none

/-- A request that fails and is repeated, once more with another address, and one
without a key. -/
def dealings : List Dealing :=
  [.failNext (.new .networkError "timeout"), .failNext (.new .rateLimitExceeded "slow down"),
    .request (keyedRequest "ada@example.com"), .request (keyedRequest "ada@example.com"),
    .request (keyedRequest "ada@example.org"), .request ⟨⟨.ofNat 8⟩, "bob@example.com", none, none⟩]

/-- The account that a request with a new UUID opens. -/
def accountOf (n : Nat) (email : String) : Account := ⟨Gateway.accountId (.ofNat n), email, none⟩

end Sample

open Dealing in
/-- The failed request leaves its key free, and the repeated ones get one account. -/
theorem dealt_shows_retry :
    Sample.start.gateway = .empty ∧
      ∃ log t, dealt Sample.dealings (.new Sample.start) = (log, t) ∧ Fresh log ∧
        Shows Sample.dealings log t ∧
        (successes log).map Success.account =
          [Sample.accountOf 1 "ada@example.com", Sample.accountOf 1 "ada@example.com",
            Sample.accountOf 3 "bob@example.com"] ∧
        t.state.gateway.size = 2 ∧ t.state.gateway.calls = 4 := by
  have hempty : Sample.start.gateway = .empty := rfl
  have hfresh : Fresh (dealt Sample.dealings (.new Sample.start)).1 := by
    decide +kernel
  have hshows := dealt_shows Sample.dealings hempty hfresh
  refine ⟨hempty, (dealt Sample.dealings (.new Sample.start)).1,
    (dealt Sample.dealings (.new Sample.start)).2, rfl, hfresh, hshows, ?_, ?_, ?_⟩
  · decide +kernel
  · rw [hshows.size]
    decide +kernel
  · rw [hshows.calls]
    rfl

end SubscriptionBilling
