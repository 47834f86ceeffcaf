import SubscriptionBilling.Customer
import SubscriptionBilling.OrderedMap
/-!
# The payment provider's side

Customers are also created at the payment provider, which gives them identifiers
of its own.  A request may carry a key: repeating it gives the account that the
first request created (`Gateway.create`).  The next request can be made to fail
(`Gateway.failNext`).
-/

namespace SubscriptionBilling

/-- What kind of trouble a request met at the provider. -/
inductive GatewayError.Code where
  | networkError
  | authenticationError
  | rateLimitExceeded
  | invalidRequest
  | providerError
deriving DecidableEq

namespace GatewayError.Code

/-- Every code, in the order in which they are listed. -/
def all : List Code :=
  [networkError, authenticationError, rateLimitExceeded, invalidRequest, providerError]

/-- The name of a code. -/
def name : Code → String
  | networkError => "network_error"
  | authenticationError => "authentication_error"
  | rateLimitExceeded => "rate_limit_exceeded"
  | invalidRequest => "invalid_request"
  | providerError => "provider_error"

/-- The code of a name. -/
def ofName? (s : String) : Option Code := all.find? fun code => code.name == s

/-- The same request may succeed later. -/
def isRetryable : Code → Bool
  | networkError => true
  | rateLimitExceeded => true
  | providerError => true
  | authenticationError => false
  | invalidRequest => false

/-- A code in a document is its name. -/
def schema : Json.Schema Code := .choice all name

end GatewayError.Code

/-- A request failed at the provider. -/
structure GatewayError where
  code : GatewayError.Code
  message : String
  retryable : Bool
deriving DecidableEq

namespace GatewayError

/-- An error that can be retried as its code says. -/
def new (code : Code) (message : String) : GatewayError := ⟨code, message, code.isRetryable⟩

/-- An error in one line. -/
def display (e : GatewayError) : String := s!"{e.code.name}: {e.message}"

/-- A gateway error as a failure: the request was wrong, or the provider
failed. -/
def toFailure (e : GatewayError) : Failure :=
  let code : Failure.Code :=
    match e.code with
    | .invalidRequest => .validationFailed
    | _ => .externalServiceError
  (Failure.new code e.display).withDetail "payment_error" e.code.name

end GatewayError

/-- A request to create an account at the provider. -/
structure AccountRequest where
  user : UserId
  email : String
  name : Option String
  key : Option String
deriving DecidableEq

namespace AccountRequest

/-- The key under which all requests for a user are one. -/
def keyFor (user : UserId) : String := "customer-" ++ user.text

/-- Users have keys of their own. -/
theorem keyFor_injective {u v : UserId} (h : keyFor u = keyFor v) : u = v := by
  cases u
  cases v
  exact congrArg UserId.mk (Uuid.text_injective (String.append_right_inj _ |>.mp h))

/-- A request keyed by the user. -/
def forUser (user : UserId) (email : String) (name : Option String) : AccountRequest :=
  ⟨user, email, name, some (keyFor user)⟩

/-- A request in a document. -/
def schema : Json.Schema AccountRequest :=
  .record "CreateCustomerRequest"
    (.cons (.required "user_id" UserId.schema)
      (.cons (.required "email" .string)
        (.cons (.required "name" Json.Schema.string.optional)
          (.cons (.required "idempotency_key" Json.Schema.string.optional) .nil))))
    (fun r => (r.user, r.email, r.name, r.key, ()))
    (fun (user, email, name, key, ()) => ⟨user, email, name, key⟩)

end AccountRequest

/-- A customer as the provider knows it. -/
structure Account where
  id : String
  email : String
  name : Option String
deriving DecidableEq

/-- An account in a document. -/
def Account.schema : Json.Schema Account :=
  .record "ProviderCustomer"
    (.cons (.required "id" .string)
      (.cons (.required "email" .string)
        (.cons (.required "name" Json.Schema.string.optional) .nil)))
    (fun a => (a.id, a.email, a.name, ()))
    (fun (id, email, name, ()) => ⟨id, email, name⟩)

/-- The accounts by the key of the request that created them, or by their own
identifier; the error of the next request, if it is to fail; and the number of
requests so far. -/
structure Gateway where
  accounts : OrderedMap String Account
  nextError : Option GatewayError
  calls : Nat

namespace Gateway

/-- No account and no request yet. -/
def empty : Gateway := ⟨.empty, none, 0⟩

instance : Inhabited Gateway := ⟨empty⟩

/-- The identifier that the provider makes of a new UUID. -/
def accountId (u : Uuid) : String := "cus_" ++ String.ofList u.simple

/-- Makes the next request fail. -/
def failNext (g : Gateway) (error : GatewayError) : Gateway := { g with nextError := some error }

/-- The number of accounts. -/
def size (g : Gateway) : Nat := g.accounts.size

/-- Answers a request, given the identifier of an account it may create. -/
def create (g : Gateway) (freshId : String) (request : AccountRequest) :
    Except GatewayError Account × Gateway :=
  match g.nextError with
  | some error => (.error error, { g with nextError := none, calls := g.calls + 1 })
  | none =>
    let key := request.key.getD freshId
    match g.accounts.find? key with
    | some account => (.ok account, { g with calls := g.calls + 1 })
    | none =>
      let account : Account := ⟨freshId, request.email, request.name⟩
      (.ok account,
        { g with accounts := g.accounts.set key account, calls := g.calls + 1 })

/-- A request with a key opens an account under it and answers with that, or it
opens none. -/
theorem accounts_create (g : Gateway) (freshId : String) {request : AccountRequest} {key : String}
    (hkey : request.key = some key) :
    (g.create freshId request).2.accounts = g.accounts ∨
      g.accounts.find? key = none ∧ ∃ account, account.id = freshId ∧
        (g.create freshId request).1 = .ok account ∧
        (g.create freshId request).2.accounts = g.accounts.set key account := by
  unfold create
  rw [hkey]
  cases g.nextError with
  | some error => exact .inl rfl
  | none =>
      cases hfind : g.accounts.find? key with
      | some account => simp [hfind]
      | none => exact .inr ⟨rfl, ⟨freshId, request.email, request.name⟩, by simp [hfind]⟩

/-- A provider that is not to fail answers with an account, and is not to fail
after that. -/
theorem create_of_nextError {g : Gateway} (h : g.nextError = none) (freshId : String)
    (request : AccountRequest) :
    (∃ account, (g.create freshId request).1 = .ok account) ∧
      (g.create freshId request).2.nextError = none := by
  unfold create
  rw [h]
  cases hfind : g.accounts.find? (request.key.getD freshId) with
  | some account => simp [hfind]
  | none => simp [hfind]

/-- The account in an answer is held under the key of the request. -/
theorem find?_create (g : Gateway) (freshId : String) {request : AccountRequest} {key : String}
    (hkey : request.key = some key) {account : Account}
    (hanswer : (g.create freshId request).1 = .ok account) :
    (g.create freshId request).2.accounts.find? key = some account := by
  unfold create at hanswer ⊢
  rw [hkey] at hanswer ⊢
  cases herror : g.nextError with
  | some error =>
      rw [herror] at hanswer
      cases hanswer
  | none =>
      cases hfind : g.accounts.find? key with
      | some held =>
          simp only [herror, Option.getD_some, hfind, Except.ok.injEq] at hanswer
          simp [hfind, hanswer]
      | none =>
          simp only [herror, Option.getD_some, hfind, Except.ok.injEq] at hanswer
          simp [hfind, hanswer, OrderedMap.find?_set]

end Gateway

end SubscriptionBilling
