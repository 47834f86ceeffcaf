import SubscriptionBilling.Failure
import SubscriptionBilling.Json.Schema
/-!
# The life cycle of a subscription

A subscription is active, cancelled or past due, and three actions move it.

|           | cancel    | activate | mark past due |
|-----------|-----------|----------|---------------|
| active    | cancelled | stays    | past due      |
| cancelled | stays     | active   | refused       |
| past due  | cancelled | active   | stays         |

* `Status.apply` is the table, one action at a time;
* `Status.canBecome` says which status may follow which, whatever the action;
* `apply_canBecome` says that the two agree.
-/

namespace SubscriptionBilling

/-- Where a subscription stands. -/
inductive Status where
  | active
  | cancelled
  | pastDue
deriving DecidableEq, Repr, Inhabited

/-- What moves a subscription. -/
inductive Action where
  | cancel
  | activate
  | markPastDue
deriving DecidableEq, Repr, Inhabited

namespace Action

/-- Every action, in the order in which they are listed. -/
def all : List Action := [cancel, activate, markPastDue]

/-- The name of an action. -/
def name : Action → String
  | cancel => "cancel"
  | activate => "activate"
  | markPastDue => "mark_past_due"

/-- The action of a name. -/
def ofName? (s : String) : Option Action := all.find? fun action => action.name == s

/-- An action in a document is its name. -/
def schema : Json.Schema Action := .choice all name

end Action

/-- Why a status cannot be had. -/
inductive StatusError where
  | illegal (before : Status) (action : Action)
  | unknown (token : String)
deriving DecidableEq

namespace Status

/-- Every status, in the order in which they are listed. -/
def all : List Status := [active, cancelled, pastDue]

/-- The word under which a status is kept and shown. -/
def token : Status → String
  | active => "active"
  | cancelled => "cancelled"
  | pastDue => "pastdue"

/-- The name of a status inside a message. -/
def label : Status → String
  | active => "Active"
  | cancelled => "Cancelled"
  | pastDue => "PastDue"

/-- The status of a word. -/
def parse (s : String) : Except StatusError Status :=
  match s with
  | "active" => .ok active
  | "cancelled" => .ok cancelled
  | "pastdue" => .ok pastDue
  | other => .error (.unknown other)

theorem parse_token (s : Status) : parse s.token = .ok s := by
  cases s <;> rfl

/-- No other word is read as a status. -/
theorem parse_eq_ok_iff {word : String} {s : Status} : parse word = .ok s ↔ word = s.token := by
  constructor
  · intro h
    unfold parse at h
    split at h <;> cases h <;> rfl
  · rintro rfl
    exact parse_token s

/-- A status in a document is its word. -/
def schema : Json.Schema Status := .choice all token

/-- Cancelling always leads to the same status. -/
def cancel (_ : Status) : Status := cancelled

/-- Activating always leads to the same status. -/
def activate (_ : Status) : Status := active

/-- A subscription that is cancelled owes nothing and cannot fall behind. -/
def markPastDue : Status → Except StatusError Status
  | active => .ok pastDue
  | pastDue => .ok pastDue
  | cancelled => .error (.illegal cancelled .markPastDue)

/-- What an action makes of a status. -/
def apply (s : Status) : Action → Except StatusError Status
  | .cancel => .ok s.cancel
  | .activate => .ok s.activate
  | .markPastDue => s.markPastDue

/-- One status may follow another; only from cancelled to past due there is no
way. -/
def canBecome : Status → Status → Bool
  | cancelled, pastDue => false
  | _, _ => true

/-- The statuses that may follow, the present one first. -/
def successors : Status → List Status
  | active => [active, cancelled, pastDue]
  | cancelled => [cancelled, active]
  | pastDue => [pastDue, cancelled, active]

/-- Moves to a status that may follow. -/
def become (s target : Status) : Except FieldError Status :=
  if s.canBecome target then .ok target
  else .error (.format "state_transition" s!"Cannot transition from {s.label} to {target.label}")

/-- Nothing but the status itself may follow. -/
def isTerminal (s : Status) : Bool := s.successors.all (· == s)

/-- An action that succeeds leads where the life cycle allows. -/
theorem apply_canBecome {s t : Status} {action : Action} (h : s.apply action = .ok t) :
    s.canBecome t = true := by
  cases s <;> cases action <;> cases h <;> rfl

/-- The listed successors are those that may follow. -/
theorem mem_successors_iff {s t : Status} : t ∈ s.successors ↔ s.canBecome t = true := by
  cases s <;> cases t <;> simp [successors, canBecome]

end Status

namespace StatusError

/-- The wording of a status error. -/
def message : StatusError → String
  | illegal s action =>
    s!"Illegal transition: cannot {action.name} a subscription that is {s.token}"
  | unknown token => s!"Unknown subscription status: '{token}'"

/-- A status error as a failure. -/
def toFailure : StatusError → Failure
  | illegal s action =>
    ((Failure.new .invalidStateTransition (illegal s action).message).withDetail
      "from" s.token).withDetail "action" action.name
  | unknown token =>
    (Failure.new .invalidFormat (unknown token).message).withDetail "status" token

end StatusError

end SubscriptionBilling
