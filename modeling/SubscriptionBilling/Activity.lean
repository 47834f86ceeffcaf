import SubscriptionBilling.Log.Entry
import SubscriptionBilling.Operation
/-!
# Activities: what a service does, one effect at a time

An activity is a tree.  It ends with a result, or it has an effect and goes on
according to the answer: reading or replacing the state, calling an operation,
writing to the log, subscribing a handler, or publishing on the bus.  What an
effect means is up to whoever runs the tree; the same service can run on the
bus or against a plan of failures.

Activities form a monad, and `lawful` says that its laws hold.
-/

namespace SubscriptionBilling

/-- An activity over handlers `H` and a state `σ` with a result in `α`.  A
call is answered with a failure, if it is to fail. -/
inductive Activity (H σ α : Type) : Type where
  | done (a : α)
  | read (next : σ → Activity H σ α)
  | write (s : σ) (next : Activity H σ α)
  | call (c : Call) (next : Option Failure → Activity H σ α)
  | log (entry : Log.Entry) (next : Activity H σ α)
  | subscribe (topic : Topic) (handler : H) (next : Activity H σ α)
  | publish (e : Envelope) (next : Except Failure Unit → Activity H σ α)

namespace Activity

variable {H σ α β : Type}

/-- One activity after another. -/
def andThen (f : α → Activity H σ β) : Activity H σ α → Activity H σ β
  | done a => f a
  | read next => read fun s => (next s).andThen f
  | write s next => write s (next.andThen f)
  | call c next => call c fun answer => (next answer).andThen f
  | log entry next => log entry (next.andThen f)
  | subscribe topic handler next => subscribe topic handler (next.andThen f)
  | publish e next => publish e fun answer => (next answer).andThen f

instance : Monad (Activity H σ) where
  pure := done
  bind x f := x.andThen f

theorem andThen_done (x : Activity H σ α) : x.andThen done = x := by
  induction x with
  | done a => rfl
  | read next ih => simp only [andThen]; congr; funext s; exact ih s
  | write s next ih => simp only [andThen, ih]
  | call c next ih => simp only [andThen]; congr; funext a; exact ih a
  | log entry next ih => simp only [andThen, ih]
  | subscribe t h next ih => simp only [andThen, ih]
  | publish e next ih => simp only [andThen]; congr; funext a; exact ih a

theorem andThen_assoc {γ : Type} (x : Activity H σ α) (f : α → Activity H σ β)
    (g : β → Activity H σ γ) :
    (x.andThen f).andThen g = x.andThen fun a => (f a).andThen g := by
  induction x with
  | done a => rfl
  | read next ih => simp only [andThen]; congr; funext s; exact ih s
  | write s next ih => simp only [andThen, ih]
  | call c next ih => simp only [andThen]; congr; funext a; exact ih a
  | log entry next ih => simp only [andThen, ih]
  | subscribe t h next ih => simp only [andThen, ih]
  | publish e next ih => simp only [andThen]; congr; funext a; exact ih a

instance lawful : LawfulMonad (Activity H σ) :=
  LawfulMonad.mk' (Activity H σ) (fun x => andThen_done x) (fun _ _ => rfl)
    (fun x f g => andThen_assoc x f g)

/-- The state. -/
def get : Activity H σ σ := read done

/-- Replaces the state. -/
def set (s : σ) : Activity H σ Unit := write s (done ())

/-- Changes the state. -/
def update (f : σ → σ) : Activity H σ Unit := read fun s => write (f s) (done ())

/-- Whether a call is to fail, and how. -/
def attempt (c : Call) : Activity H σ (Option Failure) := call c done

/-- Writes to the log. -/
def tell (level : Log.Level) (message : String) (fields : List (String × Log.Value)) :
    Activity H σ Unit :=
  log ⟨level, message, fields⟩ (done ())

/-- Subscribes a handler on the bus. -/
def subscribeTo (topic : Topic) (handler : H) : Activity H σ Unit :=
  subscribe topic handler (done ())

/-- Publishes on the bus. -/
def send (e : Envelope) : Activity H σ (Except Failure Unit) := publish e done

end Activity

end SubscriptionBilling
