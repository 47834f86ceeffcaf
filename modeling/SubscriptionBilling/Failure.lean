import SubscriptionBilling.Dictionary
/-!
# Failures

The error that crosses every boundary of the billing domain: a code, a message
and named details.  A `FieldError` is the narrower error of a single value; it
becomes a failure by `FieldError.toFailure`.
-/

namespace SubscriptionBilling

/-- What kind of failure it is. -/
inductive Failure.Code where
  | validationFailed
  | invalidFormat
  | customerNotFound
  | subscriptionNotFound
  | invalidStateTransition
  | alreadyExists
  | noHandlerFound
  | handlerFailed
  | serializationError
  | databaseError
  | externalServiceError
  | internalError
deriving DecidableEq

namespace Failure.Code

/-- Every code. -/
def all : List Code :=
  [validationFailed, invalidFormat, customerNotFound, subscriptionNotFound,
    invalidStateTransition, alreadyExists, noHandlerFound, handlerFailed,
    serializationError, databaseError, externalServiceError, internalError]

/-- The name under which a code is shown. -/
def name : Code → String
  | validationFailed => "VALIDATION_FAILED"
  | invalidFormat => "INVALID_FORMAT"
  | customerNotFound => "CUSTOMER_NOT_FOUND"
  | subscriptionNotFound => "SUBSCRIPTION_NOT_FOUND"
  | invalidStateTransition => "INVALID_STATE_TRANSITION"
  | alreadyExists => "ALREADY_EXISTS"
  | noHandlerFound => "NO_HANDLER_FOUND"
  | handlerFailed => "HANDLER_FAILED"
  | serializationError => "SERIALIZATION_ERROR"
  | databaseError => "DATABASE_ERROR"
  | externalServiceError => "EXTERNAL_SERVICE_ERROR"
  | internalError => "INTERNAL_ERROR"

/-- The code of a name. -/
def ofName? (name : String) : Option Code := all.find? fun code => code.name == name

end Failure.Code

/-- A failure of the domain. -/
structure Failure where
  code : Failure.Code
  message : String
  details : Dictionary String
deriving DecidableEq

namespace Failure

/-- A failure without details. -/
def new (code : Code) (message : String) : Failure := ⟨code, message, []⟩

/-- The failure with one more detail, or with another value for it. -/
def withDetail (failure : Failure) (key value : String) : Failure :=
  { failure with details := failure.details.insert key value }

/-- A value of a field was refused. -/
def validation (field message : String) : Failure :=
  (new .validationFailed message).withDetail "field" field

/-- A store failed. -/
def database (message : String) : Failure := new .databaseError message

/-- A failure in one line. -/
def display (failure : Failure) : String := s!"[{failure.code.name}] {failure.message}"

end Failure

/-- What is wrong with the value of a field. -/
inductive FieldError where
  | empty (field : String)
  | format (field reason : String)
deriving DecidableEq

namespace FieldError

/-- The wording of a field error. -/
def message : FieldError → String
  | empty field => s!"Field '{field}' cannot be empty"
  | format field reason => s!"Field '{field}' has invalid format: {reason}"

/-- A field error as a failure. -/
def toFailure : FieldError → Failure
  | empty field => .new .validationFailed (empty field).message
  | format field reason => .new .invalidFormat (format field reason).message

end FieldError

end SubscriptionBilling
