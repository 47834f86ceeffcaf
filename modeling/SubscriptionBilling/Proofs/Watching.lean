import Mathlib
import SubscriptionBilling.Bus.Host
/-!
# Watching the bus

A watch stands beside the state of the handlers and keeps marks: a publication
is entered and left, a handler is called and has ended, a handler is subscribed.
The handlers leave the marks themselves, whatever they do otherwise, and the
watch changes nothing about what they do (`follows_run`, `follows_publish`).

The marks of one publication are told apart from those of the publications that
are nested in it by its number.  `Snapshots` says of some marks that each
publication called the handlers that matched when it was entered, in order,
until one failed; it is kept by everything that can happen on the bus, because
later marks carry later numbers.
-/

namespace SubscriptionBilling.Bus

variable {H σ α : Type}

/-- What a watch marks; publications are numbered as they are entered. -/
inductive Mark (H : Type) where
  | entered (n : Nat) (e : Envelope)
  | called (n : Nat) (handler : H)
  | ended (n : Nat) (handler : H) (result : Except Failure Unit)
  | left (n : Nat) (answer : Except Failure Unit)
  | subscribed (topic : Topic) (handler : H)

namespace Mark

/-- The publication that a mark is about. -/
def number? : Mark H → Option Nat
  | entered n _ => some n
  | called n _ => some n
  | ended n _ _ => some n
  | left n _ => some n
  | subscribed _ _ => none

/-- The mark is about a publication. -/
def about (n : Nat) (mark : Mark H) : Bool := mark.number? == some n

/-- The subscription that a mark is about. -/
def subscription? : Mark H → Option (Topic × H)
  | subscribed topic handler => some (topic, handler)
  | _ => none

end Mark

/-- The subscriptions that are marked. -/
def subscriptionsIn (marks : List (Mark H)) : List (Topic × H) :=
  marks.filterMap Mark.subscription?

/-- The registry after the subscriptions that are marked. -/
def Registry.after (r : Registry H) (marks : List (Mark H)) : Registry H :=
  (subscriptionsIn marks).foldl (fun r subscription => r.subscribe subscription.1 subscription.2) r

/-- Marks one after the other lead a registry where the later ones lead it from where
the first ones did. -/
@[simp]
theorem Registry.after_append (r : Registry H) (marks later : List (Mark H)) :
    r.after (marks ++ later) = (r.after marks).after later := by
  rw [after, subscriptionsIn, List.filterMap_append, List.foldl_append]
  rfl

/-- The marks so far, the numbers of the publications that have been entered and
not left, the innermost one first, and the next number. -/
structure Watch (H : Type) where
  marks : List (Mark H)
  inFlight : List Nat
  next : Nat

namespace Watch

/-- Nothing has happened yet. -/
def start : Watch H := ⟨[], [], 0⟩

/-- One more mark. -/
def marked (w : Watch H) (mark : Mark H) : Watch H := { w with marks := w.marks ++ [mark] }

/-- One more mark about the innermost publication. -/
def noted (w : Watch H) (mark : Nat → Mark H) : Watch H :=
  match w.inFlight with
  | [] => w
  | n :: _ => w.marked (mark n)

/-- A publication is entered. -/
def entering (w : Watch H) (e : Envelope) : Watch H :=
  ⟨w.marks ++ [.entered w.next e], w.next :: w.inFlight, w.next + 1⟩

/-- The innermost publication is left. -/
def leaving (w : Watch H) (answer : Except Failure Unit) : Watch H :=
  { w.noted (.left · answer) with inFlight := w.inFlight.tail }

end Watch

/-! ## Handlers under a watch -/

/-- The same activity under a watch. -/
def watched : Activity H σ α → Activity H (σ × Watch H) α
  | .done a => .done a
  | .read next => .read fun s => watched (next s.1)
  | .write s next => .read fun t => .write (s, t.2) (watched next)
  | .call c next => .call c fun answer => watched (next answer)
  | .log entry next => .log entry (watched next)
  | .subscribe topic handler next =>
    .read fun t => .write (t.1, t.2.marked (.subscribed topic handler))
      (.subscribe topic handler (watched next))
  | .publish e next =>
    .read fun t => .write (t.1, t.2.entering e)
      (.publish e fun answer => .read fun t => .write (t.1, t.2.leaving answer)
        (watched (next answer)))

/-- Leaves a mark about the innermost publication. -/
def note (mark : Nat → Mark H) : Activity H (σ × Watch H) Unit :=
  Activity.update fun s => (s.1, s.2.noted mark)

/-- The same handlers, which leave marks when they are called and when they have
ended. -/
def Handling.watched (handling : Handling H σ) : Handling H (σ × Watch H) where
  name := handling.name
  handle handler e := do
    note (.called · handler)
    let result ← Bus.watched (handling.handle handler e)
    note (.ended · handler result)
    return result

/-- The same host under a watch. -/
def Host.watching (host : Host H σ) (w : Watch H) : Host H (σ × Watch H) :=
  ⟨host.registry, (host.state, w), host.log, host.faults⟩

/-! ## Accounts of publications -/

/-- How a publication can go, to handlers that are due one after another: each
is called and ends, until one fails, and then its failure is the answer. -/
inductive Transcript (n : Nat) : List H → Except Failure Unit → List (Mark H) → Prop
  | through : Transcript n [] (.ok ()) []
  | next {handler : H} {due answer marks} (h : Transcript n due answer marks) :
      Transcript n (handler :: due) answer (.called n handler :: .ended n handler (.ok ()) :: marks)
  | stopped (handler : H) (due : List H) (failure : Failure) :
      Transcript n (handler :: due) (.error failure)
        [.called n handler, .ended n handler (.error failure)]

/-- Every publication that is marked went to the handlers that matched when it
was entered, where the registry was `r` before all marks. -/
def Snapshots (r : Registry H) (marks : List (Mark H)) : Prop :=
  ∀ front n e back, marks = front ++ .entered n e :: back →
    ∃ calls answer, marks.filter (Mark.about n) = .entered n e :: (calls ++ [.left n answer]) ∧
      Transcript n ((r.after front).matching e.topic) answer calls

/-- The marks are about none of the publications that are entered in others. -/
def Apart (marks others : List (Mark H)) : Prop :=
  ∀ n e, .entered n e ∈ others → marks.filter (Mark.about n) = []

/-- Where no publication begins there is no list of handlers to take. -/
theorem snapshots_of_unentered {r : Registry H} {marks : List (Mark H)}
    (h : ∀ n e, .entered n e ∉ marks) : Snapshots r marks := by
  rintro front n e back rfl
  exact absurd (List.mem_append_right _ List.mem_cons_self) (h n e)

/-- Marks that are apart do not disturb each other's accounts. -/
theorem Snapshots.append {r : Registry H} {marks later : List (Mark H)} (h : Snapshots r marks)
    (hlater : Snapshots (r.after marks) later) (hmarks : Apart marks later)
    (hapart : Apart later marks) : Snapshots r (marks ++ later) := by
  intro front n e back heq
  rw [List.filter_append]
  obtain ⟨front', rfl, rfl⟩ | ⟨back', rfl, hback⟩ := List.append_eq_append_iff.1 heq
  · rw [hmarks n e (by simp), Registry.after_append]
    exact hlater front' n e back rfl
  · cases back' with
    | nil =>
        obtain rfl : later = .entered n e :: back := hback.symm
        rw [List.append_nil] at h hlater hmarks ⊢
        rw [hmarks n e List.mem_cons_self]
        exact hlater [] n e back rfl
    | cons mark back' =>
        obtain ⟨rfl, rfl⟩ := List.cons.inj hback
        rw [hapart n e (by simp), List.append_nil]
        exact h front n e back' rfl

/-! ## What a run adds -/

variable {r r' r'' : Registry H} {w w' w'' : Watch H} {new later : List (Mark H)}
  {current : Option Nat}

/-- From one moment to a later one with the same publications in flight: the
registries, the watches and the marks between them.  These are about the
publication that is being delivered, if that is `current`, and about those that
are entered meanwhile. -/
structure Adds (current : Option Nat) (r : Registry H) (w : Watch H) (r' : Registry H)
    (w' : Watch H) (new : List (Mark H)) : Prop where
  marks : w'.marks = w.marks ++ new
  inFlight : w'.inFlight = w.inFlight
  next : w.next ≤ w'.next
  registry : r' = r.after new
  entered : ∀ n e, .entered n e ∈ new → w.next ≤ n ∧ n < w'.next
  numbered : ∀ mark ∈ new, ∀ n, mark.number? = some n →
    current = some n ∨ w.next ≤ n ∧ n < w'.next
  snapshots : Snapshots r new

namespace Adds

/-- Marks about other publications than one are not about that one: those that are new
have numbers of their own. -/
theorem filter_about (h : Adds current r w r' w' new) {n : Nat} (hcurrent : current ≠ some n)
    (hn : n < w.next ∨ w'.next ≤ n) : new.filter (Mark.about n) = [] := by
  refine List.filter_eq_nil_iff.2 fun mark hmark habout => ?_
  obtain hnumber | hnumber := h.numbered mark hmark n (by simpa [Mark.about] using habout)
  · exact hcurrent hnumber
  · omega

theorem refl (current : Option Nat) (r : Registry H) (w : Watch H) : Adds current r w r w [] where
  marks := (List.append_nil _).symm
  inFlight := rfl
  next := le_rfl
  registry := rfl
  entered := by simp
  numbered := by simp
  snapshots := snapshots_of_unentered (by simp)

/-- Marks that are made later come behind, and the publications that they tell of have
later numbers. -/
theorem trans (h : Adds current r w r' w' new) (hlater : Adds current r' w' r'' w'' later)
    (hcurrent : ∀ n, current = some n → n < w.next) :
    Adds current r w r'' w'' (new ++ later) := by
  have hnext := h.next
  have hnext' := hlater.next
  refine ⟨?_, hlater.inFlight.trans h.inFlight, hnext.trans hnext', ?_, fun n e hmem => ?_,
    fun mark hmark n hnumber => ?_, h.snapshots.append (h.registry ▸ hlater.snapshots)
    (fun n e hmem => ?_) fun n e hmem => ?_⟩
  · rw [hlater.marks, h.marks, List.append_assoc]
  · rw [hlater.registry, h.registry, Registry.after_append]
  · obtain hmem | hmem := List.mem_append.1 hmem
    · have := h.entered n e hmem
      omega
    · have := hlater.entered n e hmem
      omega
  · obtain hmark | hmark := List.mem_append.1 hmark
    · exact (h.numbered mark hmark n hnumber).imp_right fun hn => ⟨hn.1, by omega⟩
    · exact (hlater.numbered mark hmark n hnumber).imp_right fun hn => ⟨by omega, hn.2⟩
  -- What is entered in one part has a number that the other part does not reach.
  · have hn := hlater.entered n e hmem
    refine h.filter_about (fun h => ?_) (.inr hn.1)
    have := hcurrent n h
    omega
  · have hn := h.entered n e hmem
    refine hlater.filter_about (fun h => ?_) (.inl hn.2)
    have := hcurrent n h
    omega

/-- One mark that enters no publication, such as that of a subscription, is one more
mark about the publication in progress. -/
theorem mark (w : Watch H) (mark : Mark H) (hregistry : r' = r.after [mark])
    (hnumber : mark.number? = current) (hentered : ∀ n e, mark ≠ .entered n e) :
    Adds current r w r' (w.marked mark) [mark] where
  marks := rfl
  inFlight := rfl
  next := le_rfl
  registry := hregistry
  entered n e hmem := absurd (List.mem_singleton.1 hmem).symm (hentered n e)
  numbered other hmem n hn := by
    rw [List.mem_singleton] at hmem
    subst hmem
    exact .inl (hnumber ▸ hn)
  snapshots := snapshots_of_unentered fun n e hmem =>
    hentered n e (List.mem_singleton.1 hmem).symm

/-- What happens outside of all publications may happen in one. -/
theorem inside (h : Adds none r w r' w' new) (n : Nat) : Adds (some n) r w r' w' new :=
  { h with
    numbered := fun mark hmark k hnumber =>
      .inr ((h.numbered mark hmark k hnumber).resolve_left (by simp)) }

end Adds

/-- A delivery of the publication `n`. -/
structure Delivers (n : Nat) (due : List H) (answer : Except Failure Unit) (r : Registry H)
    (w : Watch H) (r' : Registry H) (w' : Watch H) (new : List (Mark H)) : Prop
    extends Adds (some n) r w r' w' new where
  transcript : Transcript n due answer (new.filter (Mark.about n))

namespace Delivers

variable {n : Nat} {due : List H} {answer : Except Failure Unit}

theorem through (n : Nat) (r : Registry H) (w : Watch H) : Delivers n [] (.ok ()) r w r w [] where
  toAdds := .refl _ r w
  transcript := .through

/-- The call of a handler, from its first mark to its last. Between the two, only marks
about later publications are made. -/
theorem call {handler : H} (result : Except Failure Unit) (hn : n < w.next)
    (h : Adds none r (w.marked (.called n handler)) r' w' new) :
    Adds (some n) r w r' (w'.marked (.ended n handler result))
      (.called n handler :: (new ++ [.ended n handler result])) ∧
    (Mark.called n handler :: (new ++ [.ended n handler result])).filter (Mark.about n) =
      [.called n handler, .ended n handler result] := by
  have hcalled : Adds (some n) r w r (w.marked (.called n handler)) [.called n handler] :=
    .mark w _ rfl rfl (by simp)
  have hended : Adds (some n) r' w' r' (w'.marked (.ended n handler result))
      [.ended n handler result] := .mark w' _ rfl rfl (by simp)
  have hearlier : ∀ k, some n = some k → k < w.next := by
    rintro k ⟨⟩
    exact hn
  constructor
  · have hcall := (hcalled.trans (h.inside n) hearlier).trans hended hearlier
    simpa using hcall
  · have hnone : new.filter (Mark.about n) = [] := h.filter_about (by simp) (.inl hn)
    simp [Mark.about, Mark.number?, hnone]

/-- A handler succeeds, and the others are called: the marks of its call come before all
of theirs. -/
theorem cons {handler : H} (hn : n < w.next)
    (hfirst : Adds none r (w.marked (.called n handler)) r' w' new)
    (h : Delivers n due answer r' (w'.marked (.ended n handler (.ok ()))) r'' w'' later) :
    Delivers n (handler :: due) answer r w r'' w''
      (.called n handler :: (new ++ [.ended n handler (.ok ())]) ++ later) := by
  obtain ⟨hcall, hmarks⟩ := call (.ok ()) hn hfirst
  refine ⟨hcall.trans h.toAdds ?_, ?_⟩
  · rintro k ⟨⟩
    exact hn
  · rw [List.filter_append, hmarks]
    exact .next h.transcript

/-- A handler fails, and that is the end: no mark tells of the handlers behind it. -/
theorem stopped {handler : H} {failure : Failure} (due : List H) (hn : n < w.next)
    (hfirst : Adds none r (w.marked (.called n handler)) r' w' new) :
    Delivers n (handler :: due) (.error failure) r w r'
      (w'.marked (.ended n handler (.error failure)))
      (.called n handler :: (new ++ [.ended n handler (.error failure)])) := by
  obtain ⟨hcall, hmarks⟩ := call (.error failure) hn hfirst
  exact ⟨hcall, hmarks ▸ .stopped handler due failure⟩

/-- The publication that is entered before all other marks has its account, and
so have those in it. -/
theorem snapshots_enclosed {e : Envelope} {inner calls : List (Mark H)} (h : Snapshots r inner)
    (hentered : ∀ k e, .entered k e ∈ inner → k ≠ n)
    (hcalls : inner.filter (Mark.about n) = calls ++ [.left n answer])
    (htranscript : Transcript n (r.matching e.topic) answer calls) :
    Snapshots r (.entered n e :: inner) := by
  intro front k e' back heq
  -- The split is at the first mark, or inside.
  cases front with
  | nil =>
      cases heq
      refine ⟨calls, answer, ?_, htranscript⟩
      rw [List.filter_cons_of_pos (by simp [Mark.about, Mark.number?]), hcalls]
  | cons first front =>
      obtain ⟨rfl, hrest⟩ := List.cons.inj heq
      have hk : k ≠ n := hentered k e' (hrest ▸ by simp)
      rw [List.filter_cons_of_neg (by simpa [Mark.about, Mark.number?] using hk.symm)]
      exact h front k e' back hrest

/-- A whole publication, from the mark that it was entered, with its handlers as they
were then, to the mark that it was left. -/
theorem publication {e : Envelope}
    (h : Delivers w.next (r.matching e.topic) answer r (w.entering e) r' w' new) :
    Adds none r w r' (w'.leaving answer)
      (.entered w.next e :: (new ++ [.left w.next answer])) := by
  have hleaving : w'.leaving answer =
      ⟨w'.marks ++ [.left w.next answer], w.inFlight, w'.next⟩ := by
    rw [Watch.leaving, Watch.noted, h.inFlight]
    rfl
  have hleft : Adds (some w.next) r' w' r' (w'.marked (.left w.next answer))
      [.left w.next answer] := .mark w' _ rfl rfl (by simp)
  have hinner := h.toAdds.trans hleft (by rintro k ⟨⟩; exact Nat.lt_succ_self _)
  have hnext : w.next + 1 ≤ w'.next := hinner.next
  have hentered : ∀ k e', .entered k e' ∈ new ++ [.left w.next answer] →
      w.next + 1 ≤ k ∧ k < w'.next := hinner.entered
  rw [hleaving]
  refine ⟨?_, rfl, Nat.le_of_succ_le hnext, hinner.registry, fun k e' hmem => ?_,
    fun mark hmark k hnumber => .inr ?_, ?_⟩
  · rw [h.marks]
    simp [Watch.entering]
  · obtain heq | hmem := List.mem_cons.1 hmem
    · cases heq
      exact ⟨le_rfl, hnext⟩
    · have hk := hentered k e' hmem
      exact ⟨by omega, hk.2⟩
  · obtain rfl | hmark := List.mem_cons.1 hmark
    · cases hnumber
      exact ⟨le_rfl, hnext⟩
    · obtain heq | hk : _ ∨ w.next + 1 ≤ k ∧ k < w'.next := hinner.numbered mark hmark k hnumber
      · cases heq
        exact ⟨le_rfl, hnext⟩
      · exact ⟨by omega, hk.2⟩
  · refine snapshots_enclosed hinner.snapshots (fun k e' hmem => ?_) ?_ h.transcript
    · have hk := hentered k e' hmem
      omega
    · simp [Mark.about, Mark.number?]

end Delivers

/-! ## Running under a watch -/

variable {name : H → String} {publish : Host.Publisher H σ}
  {publish' : Host.Publisher H (σ × Watch H)} {handling : Handling H σ} {e : Envelope}
  {host host' : Host H σ} {n : Nat} {rest : List Nat}

/-- One way to publish does under a watch what another does without, and calls
the handlers that match at the beginning. -/
structure Follows (publish : Host.Publisher H σ) (publish' : Host.Publisher H (σ × Watch H)) :
    Prop where
  delivers : ∀ {e host answer host'} {w : Watch H} {n rest},
    publish e host = some (answer, host') → w.inFlight = n :: rest → n < w.next →
    ∃ w' new, publish' e (host.watching w) = some (answer, host'.watching w') ∧
      Delivers n (host.registry.matching e.topic) answer host.registry w host'.registry w' new

/-- **An activity under a watch** does what it does without. -/
theorem run_watched (hfollows : Follows publish publish') {x : Activity H σ α} {a : α}
    (h : run name publish x host = some (a, host')) (w : Watch H) :
    ∃ w' new, run name publish' (watched x) (host.watching w) = some (a, host'.watching w') ∧
      Adds none host.registry w host'.registry w' new := by
  induction x generalizing host w with
  | done b =>
      cases h
      exact ⟨w, [], rfl, .refl _ _ _⟩
  | read next ih => exact ih host.state h w
  | write s next ih => exact @ih { host with state := s } h w
  | call c next ih => exact ih (host.faults c.operation) h w
  | log entry next ih => exact @ih { host with log := host.log ++ [entry] } h w
  | subscribe topic handler next ih =>
      have hmarked : Adds none host.registry w (host.subscribe name topic handler).registry
          (w.marked (.subscribed topic handler)) [.subscribed topic handler] :=
        .mark w _ rfl rfl (by simp)
      obtain ⟨w', new, hrun, hadds⟩ := @ih (host.subscribe name topic handler) h
        (w.marked (.subscribed topic handler))
      exact ⟨w', _, hrun, hmarked.trans hadds (by simp)⟩
  | publish e next ih =>
      rw [run] at h
      cases hpublish : publish e host with
      | none =>
          rw [hpublish] at h
          cases h
      | some r =>
          obtain ⟨answer, host₁⟩ := r
          rw [hpublish] at h
          -- The publication is entered and left again before the activity goes on.
          obtain ⟨w₁, delivered, hwatched, hdelivers⟩ :=
            hfollows.delivers hpublish (w := w.entering e) rfl (Nat.lt_succ_self _)
          obtain ⟨w', new, hrun, hadds⟩ := ih answer h (w₁.leaving answer)
          refine ⟨w', _, ?_, (Delivers.publication hdelivers).trans hadds (by simp)⟩
          have hentered : publish' e ⟨host.registry, (host.state, w.entering e), host.log,
              host.faults⟩ = some (answer, host₁.watching w₁) := hwatched
          simp only [watched, run, Host.watching, hentered]
          exact hrun

/-- **One call under a watch**: the handler runs between its two marks. -/
theorem run_handle_watched (hfollows : Follows publish publish') {handler : H}
    {result : Except Failure Unit}
    (h : run name publish (handling.handle handler e) host = some (result, host'))
    {w : Watch H} (hw : w.inFlight = n :: rest) :
    ∃ w' new, run name publish' (handling.watched.handle handler e) (host.watching w) =
        some (result, host'.watching (w'.marked (.ended n handler result))) ∧
      Adds none host.registry (w.marked (.called n handler)) host'.registry w' new := by
  obtain ⟨w', new, hrun, hadds⟩ := run_watched hfollows h (w.marked (.called n handler))
  have hcalled : w.noted (.called · handler) = w.marked (.called n handler) := by
    rw [Watch.noted, hw]
  have hended : w'.noted (.ended · handler result) = w'.marked (.ended n handler result) := by
    have hinFlight : w'.inFlight = n :: rest := hadds.inFlight.trans hw
    rw [Watch.noted, hinFlight]
  refine ⟨w', new, ?_, hadds⟩
  show run name publish' ((watched (handling.handle handler e)).andThen fun result =>
      (note (.ended · handler result)).andThen fun _ => .done result)
    (host.watching (w.noted (.called · handler))) = _
  rw [hcalled, run_andThen, hrun, ← hended]
  rfl

/-- **A delivery under a watch** calls the same handlers in the same order, with the
same answers; the watch only adds its marks. -/
theorem deliver_watched (hfollows : Follows publish publish') {handlers : List H}
    {answer : Except Failure Unit}
    (h : Host.deliver handling.name (fun handler => run name publish (handling.handle handler e)) e
      handlers host = some (answer, host')) {w : Watch H} (hw : w.inFlight = n :: rest)
    (hn : n < w.next) :
    ∃ w' new, Host.deliver handling.name
        (fun handler => run name publish' (handling.watched.handle handler e)) e handlers
        (host.watching w) = some (answer, host'.watching w') ∧
      Delivers n handlers answer host.registry w host'.registry w' new := by
  induction handlers generalizing host w with
  | nil =>
      cases h
      exact ⟨w, [], rfl, .through n _ w⟩
  | cons handler handlers ih =>
      rw [Host.deliver] at h
      cases hcall : run name publish (handling.handle handler e) host with
      | none =>
          rw [hcall] at h
          cases h
      | some r =>
          obtain ⟨result, host₁⟩ := r
          rw [hcall] at h
          obtain ⟨w₁, new, hrun, hadds⟩ := run_handle_watched hfollows hcall hw
          cases result with
          | ok u =>
              obtain ⟨w', later, hrest, hdelivers⟩ :=
                ih h (w := w₁.marked (.ended n handler (.ok ()))) (hadds.inFlight.trans hw)
                  (hn.trans_le hadds.next)
              refine ⟨w', _, ?_, .cons hn hadds hdelivers⟩
              rw [Host.deliver, hrun]
              exact hrest
          | error failure =>
              cases h
              refine ⟨_, _, ?_, .stopped handlers hn hadds⟩
              rw [Host.deliver, hrun]
              rfl

/-- **A publication under a watch** does what it does without. -/
theorem follows_publish (handling : Handling H σ) (depth : Nat) :
    Follows (Host.publish handling depth) (Host.publish handling.watched depth) := by
  induction depth with
  | zero =>
      constructor
      intro e host answer host' w n rest h
      cases h
  | succ depth ih =>
      constructor
      intro e host answer host' w n rest h hw hn
      have hopened : Host.deliver handling.name
          (fun handler => run handling.name (Host.publish handling depth)
            (handling.handle handler e)) e (host.registry.matching e.topic) (host.opening e) =
          some (answer, host') := h
      exact deliver_watched ih hopened hw hn

end SubscriptionBilling.Bus
