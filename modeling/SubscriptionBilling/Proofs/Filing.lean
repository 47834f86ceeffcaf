import SubscriptionBilling.Proofs.Course
import SubscriptionBilling.Proofs.History
import SubscriptionBilling.Proofs.Keyed
/-!
# What the store of customers remembers

Customers are filed in two ways: a save replaces what is there, an insertion is
refused if anything is.  `filed` makes a sequence of such filings and keeps a log
of how each was answered.

The log says what the store shows afterwards: under each identifier it has what
was written there last (`lastWritten`), and a customer always stands under its own.
`Remembers` is this, and `Remembers.file` says that one filing keeps it so.

The lookup by an identifier of the payment provider goes through the customers one
by one.  `firstLinked?` is that search through a listing in any order, so that what
is said of it does not depend on the order that a store happens to list in.

`filed_shows` is all of it: what the calls show after the filings, and what one
more filing would come to.
-/

namespace SubscriptionBilling

/-- What the callers of the store of customers ask for. -/
inductive Filing where
  | save (customer : Customer)
  | insert (customer : Customer)

/-- The first in a listing of customers that is linked to an identifier of the
payment provider. -/
def Customer.firstLinked? (listing : List Customer) (providerId : String) : Option Customer :=
  listing.find? fun customer => customer.providerId == some providerId

namespace Filing

/-- How a filing is answered. -/
abbrev Answer := Except Failure Unit

/-- Filings with their answers, the first one first. -/
abbrev Log := List (Filing × Answer)

/-- The customer that is filed. -/
def customer : Filing → Customer
  | save c => c
  | insert c => c

/-- The call that a filing makes. -/
def service {H : Type} : Filing → Service H Unit
  | save c => Customers.save c
  | insert c => Customers.insert c

/-- What a filing comes to in a store. -/
def inStore (store : CustomerStore) : Filing → Answer × CustomerStore
  | save c => (.ok (), store.save c)
  | insert c =>
    match store.insert c with
    | .error failure => (.error failure, store)
    | .ok store => (.ok (), store)

/-- What an accepted filing wrote, and under which identifier. -/
def written : Filing × Answer → Option (CustomerId × Customer)
  | (f, .ok ()) => some (f.customer.id, f.customer)
  | (_, .error _) => none

/-- Everything that was written. -/
def writes (log : Log) : List (CustomerId × Customer) := log.filterMap written

/-- What was written last under an identifier. -/
def lastWritten (log : Log) (id : CustomerId) : Option Customer := (writes log).reverse.lookup id

/-- An accepted filing is the last one under its identifier. -/
theorem lastWritten_accepted (log : Log) (f : Filing) (id : CustomerId) :
    lastWritten (log ++ [(f, .ok ())]) id =
      if f.customer.id = id then some f.customer else lastWritten log id := by
  have hwrites : writes (log ++ [(f, .ok ())]) = writes log ++ [(f.customer.id, f.customer)] :=
    List.filterMap_append
  rw [lastWritten, hwrites, lookup_reverse_snoc]
  rfl

/-- A refused filing writes nothing, so that what was written last is what it was, under
every identifier. -/
theorem lastWritten_refused (log : Log) (f : Filing) (failure : Failure) (id : CustomerId) :
    lastWritten (log ++ [(f, .error failure)]) id = lastWritten log id := by
  have hwrites : writes (log ++ [(f, .error failure)]) = writes log :=
    List.filterMap_append.trans (List.append_nil _)
  rw [lastWritten, hwrites]
  rfl

/-- What was written under an identifier has this identifier itself, since a filing goes
by that of its customer. -/
theorem id_of_lastWritten {log : Log} {id : CustomerId} {c : Customer}
    (h : lastWritten log id = some c) : c.id = id := by
  obtain ⟨⟨f, answer⟩, -, hwritten⟩ := List.mem_filterMap.mp (mem_of_lookup_reverse h)
  cases answer with
  | error failure => cases hwritten
  | ok accepted =>
      cases hwritten
      rfl

/-! ## One filing and all of them -/

/-- An insertion under a taken identifier leaves the store alone. -/
theorem insert_taken {store : CustomerStore} {c earlier : Customer}
    (hfind : store.find? c.id = some earlier) :
    (insert c).inStore store = (.error (CustomerStore.taken c.id), store) := by
  simp only [inStore, CustomerStore.insert, hfind]

/-- An insertion under a new identifier is a save; only where the identifier is taken do
the two differ. -/
theorem insert_free {store : CustomerStore} {c : Customer} (hfind : store.find? c.id = none) :
    (insert c).inStore store = (.ok (), store.save c) := by
  simp only [inStore, CustomerStore.insert, hfind]

/-- A store shows what a log says, and saves are never refused. -/
structure Remembers (log : Log) (store : CustomerStore) : Prop where
  found : ∀ id, store.find? id = lastWritten log id
  saved : ∀ c answer, (save c, answer) ∈ log → answer = .ok ()

theorem remembers_empty : Remembers [] .empty := ⟨fun _ => rfl, fun _ _ h => nomatch h⟩

/-- A customer that is accepted is stored under its identifier, and may take a link away
from its own older record, but from no other. -/
theorem Remembers.accepted {log : Log} {store : CustomerStore} (h : Remembers log store)
    (f : Filing) : Remembers (log ++ [(f, .ok ())]) (store.save f.customer) := by
  refine ⟨?_, ?_⟩
  · intro id
    rw [lastWritten_accepted, ← h.found]
    exact OrderedMap.find?_set store f.customer.id id f.customer
  · intro c answer hmem
    rcases List.mem_append.mp hmem with hbefore | hlast
    · exact h.saved c answer hbefore
    · cases List.mem_singleton.mp hlast
      rfl

/-- A refused insertion is as if it had not been asked for: store and last writes stay
as they are. -/
theorem Remembers.refused {log : Log} {store : CustomerStore} (h : Remembers log store)
    (c : Customer) (failure : Failure) :
    Remembers (log ++ [(insert c, .error failure)]) store := by
  refine ⟨?_, ?_⟩
  · intro id
    rw [lastWritten_refused]
    exact h.found id
  · intro other answer hmem
    rcases List.mem_append.mp hmem with hbefore | hlast
    · exact h.saved other answer hbefore
    · cases List.mem_singleton.mp hlast

/-- **One filing.**  A store that shows what the log says still does so after one
more filing. -/
theorem Remembers.file {log : Log} {store : CustomerStore} (h : Remembers log store)
    (f : Filing) : Remembers (log ++ [(f, (f.inStore store).1)]) (f.inStore store).2 := by
  cases f with
  | save c => exact h.accepted (save c)
  | insert c =>
      cases hfind : store.find? c.id with
      | some earlier =>
          rw [insert_taken hfind]
          exact h.refused c _
      | none =>
          rw [insert_free hfind]
          exact h.accepted (insert c)

/-- The customers in a store are those that were written last under their own
identifiers. -/
theorem Remembers.mem_values {log : Log} {store : CustomerStore} (h : Remembers log store)
    {c : Customer} : c ∈ store.values ↔ lastWritten log c.id = some c := by
  constructor
  · intro hmem
    obtain ⟨⟨id, value⟩, hentry, rfl⟩ := List.mem_map.mp hmem
    have hlast := (h.found id).symm.trans (OrderedMap.find?_eq_some_iff.mpr hentry)
    rw [id_of_lastWritten hlast]
    exact hlast
  · intro hlast
    rw [← h.found] at hlast
    exact List.mem_map.mpr ⟨(c.id, c), OrderedMap.find?_eq_some_iff.mp hlast, rfl⟩

/-- The store counts the identifiers that were written, each once. -/
theorem Remembers.size {log : Log} {store : CustomerStore} (h : Remembers log store) :
    store.size = ((writes log).map Prod.fst).toFinset.card := by
  refine OrderedMap.size_eq_card fun id => ?_
  rw [OrderedMap.mem_keys_iff, h.found, ← Option.isSome_iff_exists, ← not_iff_not,
    Option.not_isSome_iff_eq_none]
  exact lookup_reverse_eq_none_iff

/-! ## The search by a link -/

/-- What a search through a listing finds is in it and carries the link, and it
finds nothing just if nothing there does. -/
theorem firstLinked_of_mem_iff {listing : List Customer} {stored : Customer → Prop}
    (h : ∀ c, c ∈ listing ↔ stored c) (providerId : String) :
    (∀ c, Customer.firstLinked? listing providerId = some c →
        stored c ∧ c.providerId = some providerId) ∧
      (Customer.firstLinked? listing providerId = none ↔
        ∀ c, stored c → c.providerId ≠ some providerId) := by
  refine ⟨?_, ?_⟩
  · intro c hfound
    have hlinked := List.find?_some hfound
    exact ⟨(h c).mp (List.mem_of_find?_eq_some hfound), by simpa using hlinked⟩
  · simp [Customer.firstLinked?, List.find?_eq_none, h]

/-- A customer that is saved without a link is not found under it, in whatever
order the customers are gone through. -/
theorem Remembers.relinked {log : Log} {store : CustomerStore} (h : Remembers log store)
    {c : Customer} {providerId : String} (hlink : c.providerId ≠ some providerId)
    {listing : List Customer} (hperm : listing.Perm (store.save c).values) (other : Customer)
    (hfound : Customer.firstLinked? listing providerId = some other) : other.id ≠ c.id := by
  intro hid
  have hnext : Remembers (log ++ [(save c, .ok ())]) (store.save c) := h.accepted (save c)
  have hstored : ∀ c', c' ∈ listing ↔ lastWritten (log ++ [(save c, .ok ())]) c'.id = some c' :=
    fun _ => hperm.mem_iff.trans hnext.mem_values
  obtain ⟨hlast, hcarries⟩ := (firstLinked_of_mem_iff hstored providerId).1 other hfound
  have hsame : c = other := by simpa [lastWritten_accepted, customer, hid] using hlast
  exact hlink (hsame ▸ hcarries)

/-! ## What callers see -/

/-- A filing as a call, while no call fails. -/
def inTrial (t : Trial World) (f : Filing) : Answer × Trial World :=
  Trial.run .smooth (f.service : Service Empty Unit) t

/-- Calls for filings, one after the other. -/
def filed (filings : List Filing) (t : Trial World) : Log × Trial World :=
  course inTrial filings t

/-- A call files as the store does, and nothing in the world but the customers is
another afterwards. -/
theorem inTrial_eq (t : Trial World) (f : Filing) :
    (f.inTrial t).1 = (f.inStore t.state.customers).1 ∧
      (f.inTrial t).2.state = { t.state with customers := (f.inStore t.state.customers).2 } := by
  cases f with
  | save c =>
      rw [inTrial, service, Trial.run_saveCustomer]
      exact ⟨rfl, rfl⟩
  | insert c =>
      rw [inTrial, service, Trial.run_insertCustomer, inStore, Trial.insertCustomer]
      simp only [Plan.smooth]
      cases CustomerStore.insert t.state.customers c <;> exact ⟨rfl, rfl⟩

/-- **All of them.** What the store shows is what the log says, whichever calls were
made. -/
theorem remembers_filed (filings : List Filing) {log : Log} {t : Trial World}
    (h : Remembers log t.state.customers) :
    Remembers (log ++ (filed filings t).1) (filed filings t).2.state.customers := by
  refine course_keeps (P := fun log (t : Trial World) => Remembers log t.state.customers) ?_
    filings h
  intro log t h f
  obtain ⟨hanswer, hstate⟩ := inTrial_eq t f
  rw [hanswer, hstate]
  exact h.file f

/-- An insertion in a log was refused just if its identifier had been written by
then. -/
theorem inserted_of_log {filings : List Filing} {t : Trial World}
    (h : Remembers [] t.state.customers) {before after : Log} {c : Customer} {answer : Answer}
    (hlog : (filed filings t).1 = before ++ (insert c, answer) :: after) :
    answer = if (lastWritten before c.id).isSome then .error (CustomerStore.taken c.id)
      else .ok () := by
  obtain ⟨hbefore, hanswer⟩ := course_split hlog
  have hremembers := remembers_filed (before.map Prod.fst) h
  rw [List.nil_append, filed, hbefore] at hremembers
  rw [hanswer, (inTrial_eq _ _).1]
  cases hlast : lastWritten before c.id with
  | some earlier => rw [insert_taken ((hremembers.found c.id).trans hlast)]; rfl
  | none => rw [insert_free ((hremembers.found c.id).trans hlast)]; rfl

/-- What the calls show once the filings of a log were made, and what one more
filing would come to. -/
structure Shows (filings : List Filing) (log : Log) (t : Trial World) : Prop where
  /-- Every filing was answered. -/
  logged : log.map Prod.fst = filings
  /-- A save was never refused. -/
  saved : ∀ c answer, (save c, answer) ∈ log → answer = .ok ()
  /-- An insertion was refused just if its identifier had been written by then. -/
  inserted : ∀ before c answer after, log = before ++ (insert c, answer) :: after →
    answer = if (lastWritten before c.id).isSome then .error (CustomerStore.taken c.id) else .ok ()
  /-- An identifier leads to what was written under it last. -/
  found : ∀ id, (Trial.run .smooth (Customers.find? id : Service Empty _) t).1 =
    .ok (lastWritten log id)
  /-- It is said to exist just if it leads to something. -/
  existing : ∀ id, (Trial.run .smooth (Customers.exists? id : Service Empty _) t).1 =
    (Trial.run .smooth (Customers.find? id : Service Empty _) t).1.map Option.isSome
  /-- There are as many customers as identifiers were written. -/
  size : t.state.customers.size = ((writes log).map Prod.fst).toFinset.card
  /-- One more insertion is refused under a taken identifier, and changes nothing. -/
  taken : ∀ c earlier, lastWritten log c.id = some earlier →
    ((insert c).inTrial t).1 = .error (CustomerStore.taken c.id) ∧
      (CustomerStore.taken c.id).code = .alreadyExists ∧
      ((insert c).inTrial t).2.state = t.state
  /-- One more insertion is accepted under a new identifier, as a save is. -/
  free : ∀ c, lastWritten log c.id = none →
    ((insert c).inTrial t).1 = .ok () ∧
      ((insert c).inTrial t).2.state = ((save c).inTrial t).2.state
  /-- One more save writes its own identifier only. -/
  replaced : ∀ c id, ((save c).inTrial t).2.state.customers.find? id =
    if c.id = id then some c else lastWritten log id
  /-- The lookup by a link is a search through the customers. -/
  searched : ∀ providerId,
    (Trial.run .smooth (Customers.findLinked? providerId : Service Empty _) t).1 =
      .ok (Customer.firstLinked? t.state.customers.values providerId)
  /-- In whatever order they are gone through, what is found is stored and carries
  the link. -/
  linked : ∀ listing, listing.Perm t.state.customers.values → ∀ providerId c,
    Customer.firstLinked? listing providerId = some c →
      lastWritten log c.id = some c ∧ c.providerId = some providerId
  /-- In whatever order, nothing is found just if nothing stored carries the link. -/
  unlinked : ∀ listing, listing.Perm t.state.customers.values → ∀ providerId,
    Customer.firstLinked? listing providerId = none ↔
      ∀ id c, lastWritten log id = some c → c.providerId ≠ some providerId
  /-- A customer that is saved without a link is no longer found under it. -/
  relinked : ∀ c providerId, c.providerId ≠ some providerId →
    ∀ listing, listing.Perm ((save c).inTrial t).2.state.customers.values →
      ∀ other, Customer.firstLinked? listing providerId = some other → other.id ≠ c.id

/-- **What a store of customers shows.**  Begin with an empty store and file any
customers. -/
theorem filed_shows (filings : List Filing) {w : World} (hempty : w.customers = .empty) :
    Shows filings (filed filings (.new w)).1 (filed filings (.new w)).2 := by
  have hnothing : Remembers [] (Trial.new w).state.customers := by
    rw [show (Trial.new w).state.customers = .empty from hempty]
    exact remembers_empty
  have hremembers := remembers_filed filings hnothing
  have hlogged : (filed filings (.new w)).1.map Prod.fst = filings := map_fst_course filings _
  have hinserted := @inserted_of_log filings (.new w) hnothing
  rw [List.nil_append] at hremembers
  generalize filed filings (.new w) = done at *
  obtain ⟨log, t⟩ := done
  dsimp only at *
  have hstored : ∀ {listing : List Customer}, listing.Perm t.state.customers.values →
      ∀ c, c ∈ listing ↔ lastWritten log c.id = some c :=
    fun hperm c => hperm.mem_iff.trans hremembers.mem_values
  refine ⟨hlogged, hremembers.saved, fun _ _ _ _ => hinserted, ?found, ?existing,
    hremembers.size, ?taken, ?free, ?replaced, ?searched, ?linked, ?unlinked, ?relinked⟩
  case found =>
    intro id
    rw [Trial.run_findCustomer, hremembers.found]
    rfl
  case existing =>
    intro id
    rw [Trial.run_customerExists, Trial.run_findCustomer]
    rfl
  case taken =>
    intro c earlier hlast
    obtain ⟨hanswer, hstate⟩ := inTrial_eq t (insert c)
    rw [insert_taken ((hremembers.found c.id).trans hlast)] at hanswer hstate
    exact ⟨hanswer, rfl, hstate⟩
  case free =>
    intro c hlast
    obtain ⟨hanswer, hstate⟩ := inTrial_eq t (insert c)
    rw [insert_free ((hremembers.found c.id).trans hlast)] at hanswer hstate
    exact ⟨hanswer, hstate.trans (inTrial_eq t (save c)).2.symm⟩
  case replaced =>
    intro c id
    rw [(inTrial_eq t (save c)).2, ← hremembers.found]
    exact OrderedMap.find?_set t.state.customers c.id id c
  case searched =>
    intro providerId
    rw [Trial.run_findLinked]
    rfl
  case linked =>
    intro listing hperm providerId
    exact (firstLinked_of_mem_iff (hstored hperm) providerId).1
  case unlinked =>
    intro listing hperm providerId
    rw [(firstLinked_of_mem_iff (hstored hperm) providerId).2]
    constructor
    · intro h id c hlast
      have hid := id_of_lastWritten hlast
      subst hid
      exact h c hlast
    · intro h c hlast
      exact h c.id c hlast
  case relinked =>
    intro c providerId hlink listing hperm
    rw [(inTrial_eq t (save c)).2] at hperm
    exact hremembers.relinked hlink hperm

end Filing

namespace Sample

/-- The customer with another link, or none. -/
def linkedTo (providerId : Option String) : Customer := { customer with providerId := providerId }

/-- The customer is inserted, refused a second time, and then loses the link. -/
def filings : List Filing :=
  [.insert customer, .insert (linkedTo (some "cus_2")), .save (linkedTo none)]

end Sample

open Filing in
/-- The link that was taken away leads to nobody. -/
theorem filed_shows_linkTaken :
    Sample.start.customers = .empty ∧
      ∃ log t, filed Sample.filings (.new Sample.start) = (log, t) ∧
        Shows Sample.filings log t ∧
        log.map Prod.snd =
          [.ok (), .error (CustomerStore.taken Sample.customer.id), .ok ()] ∧
        t.state.customers.size = 1 ∧
        (Trial.run .smooth (Customers.findLinked? "cus_1" : Service Empty _) t).1 = .ok none := by
  have hempty : Sample.start.customers = .empty := rfl
  have hshows := filed_shows Sample.filings hempty
  refine ⟨hempty, (filed Sample.filings (.new Sample.start)).1,
    (filed Sample.filings (.new Sample.start)).2, rfl, hshows, ?_, ?_, ?_⟩
  · cbv
  · rw [hshows.size]
    decide
  · rw [hshows.searched]
    cbv

end SubscriptionBilling
