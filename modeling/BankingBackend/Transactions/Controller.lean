import BankingBackend.Foundation.Json
import BankingBackend.Http.Gateway
import BankingBackend.Transactions.Guard

/-! # `TransactionsController`

A request to post a transaction, from the idempotency guard over the validation of
its body to the release of what the guard took.
-/

namespace BankingBackend.Transactions.Controller

open Foundation Postgres Redis Common Http Fraud

/-- A request that has passed the other guards. -/
structure Submission where
  route : IdempotencyOperation
  userId : Uuid
  http : HttpRequest := {}
  traceId : Uuid := ⟨0⟩
  body : Option Json

namespace Submission

variable (submission : Submission)

def context : RequestContext := traceIdMiddleware submission.traceId submission.http

/-- A field of the body, if it is a string. -/
def text (name : String) : Option String :=
  (submission.body.bind (·.property name)).bind Json.string?

def amount : Option ℚ :=
  match submission.body.bind (·.property "amount") with
  | some (.number (.finite value)) => some value
  | _ => none

/-- `forbidNonWhitelisted`. -/
def whitelisted (names : List String) : Bool :=
  match submission.body with
  | some (.object fields) => fields.all fun field => names.contains field.1
  | _ => false

end Submission

/-! ## `TransactionsIdempotencyGuard.canActivate` -/

structure TransferUserLock where
  userId : Uuid
  token : Uuid

/-- What the guard leaves on the request for the controller. -/
structure IdempotencyRequest where
  idempotencyKey : Option IdempotencyKey := none
  transferUserLock : Option TransferUserLock := none

def extractReferenceId (request : Submission) : Except HttpException String :=
  guardReferenceId request.http (request.text "referenceId")

def extractOperation (request : Submission) : Except HttpException IdempotencyOperation :=
  match request.text "fromAccountId", request.text "toAccountId" with
  | some _, some _ => pure .transfer
  | some _, none => pure .withdraw
  | none, some _ => pure .deposit
  | none, none => throw (.badRequest "Unable to infer idempotency operation")

/-- The key is set; a transfer takes the lock of its user besides. -/
def acquireTransferUserLock (key : IdempotencyKey) : Handler IdempotencyRequest := do
  let transferLockToken ← issue .randomUUID
  match ← issue (.lockNX key.userId transferLockToken) with
  | none => pure {}
  | some true =>
      pure { idempotencyKey := some key
             transferUserLock := some ⟨key.userId, transferLockToken⟩ }
  | some false =>
      match ← issue (.del key) with
      | none => pure {}
      | some () => throw (.http (.conflict "Another transfer is already in progress"))

/-- The key was set before. -/
def resolveKeyState (key : IdempotencyKey) : Handler IdempotencyRequest := do
  match ← issue (.get key) with
  | none => pure {}
  | some (some .done) => pure { idempotencyKey := some key }
  | some (some .inFlight) => throw (.http (.conflict "Duplicate request in progress"))
  | some none => throw (.http (.conflict "Duplicate request"))

/-- A Redis command that fails lets the request through with nothing. -/
def canActivate (request : Submission) : Handler IdempotencyRequest := do
  if !(← issue .isReady) then pure {}
  else
    let referenceId ← orThrow (extractReferenceId request)
    let operation ← orThrow (extractOperation request)
    let key : IdempotencyKey := { userId := request.userId, operation, referenceId }
    match ← issue (.setNX key) with
    | none => pure {}
    | some true =>
        if operation = .transfer then acquireTransferUserLock key
        else pure { idempotencyKey := some key }
    | some false => resolveKeyState key

def guardKey (request : Submission) : Except HttpException IdempotencyKey := do
  let referenceId ← extractReferenceId request
  let operation ← extractOperation request
  pure { userId := request.userId, operation, referenceId }

theorem extracts_of_guardKey {request : Submission} {key : IdempotencyKey}
    (keyed : guardKey request = .ok key) :
    key.userId = request.userId ∧ extractReferenceId request = .ok key.referenceId ∧
      extractOperation request = .ok key.operation := by
  unfold guardKey at keyed
  cases reference : extractReferenceId request with
  | error exception =>
      rw [reference] at keyed
      cases keyed
  | ok referenceId =>
      cases inferred : extractOperation request with
      | error exception =>
          rw [reference, inferred] at keyed
          cases keyed
      | ok operation =>
          rw [reference, inferred] at keyed
          cases keyed
          exact ⟨rfl, rfl, rfl⟩

theorem canActivate_eq (request : Submission) : canActivate request = (do
    if !(← issue .isReady) then pure {}
    else
      let key ← orThrow (guardKey request)
      match ← issue (.setNX key) with
      | none => pure {}
      | some true =>
          if key.operation = .transfer then acquireTransferUserLock key
          else pure { idempotencyKey := some key }
      | some false => resolveKeyState key) := by
  unfold canActivate guardKey
  refine congrArg (issue .isReady >>= ·) (funext fun ready => ?_)
  cases ready with
  | false => rfl
  | true =>
      cases extractReferenceId request with
      | error exception => rfl
      | ok referenceId => cases extractOperation request <;> rfl

/-! ## The global `ValidationPipe` -/

def validateDeposit (request : Submission) : Option CreateDepositRequestDto :=
  if request.whitelisted ["amount", "referenceId", "toAccountId"] then do
    CreateDepositRequestDto.validate (← request.amount) (← request.text "referenceId")
      (← request.text "toAccountId")
  else none

def validateWithdraw (request : Submission) : Option CreateWithdrawRequestDto :=
  if request.whitelisted ["amount", "referenceId", "fromAccountId"] then do
    CreateWithdrawRequestDto.validate (← request.amount) (← request.text "referenceId")
      (← request.text "fromAccountId")
  else none

def validateTransfer (request : Submission) : Option CreateTransferRequestDto :=
  if request.whitelisted ["amount", "referenceId", "toAccountId", "fromAccountId"] then do
    CreateTransferRequestDto.validate (← request.amount) (← request.text "referenceId")
      (← request.text "toAccountId") (← request.text "fromAccountId")
  else none

/-- The call of the service that the body of the request passes for. -/
def validate (request : Submission) : Option Operation :=
  match request.route with
  | .deposit => (validateDeposit request).map .createDeposit
  | .withdraw => (validateWithdraw request).map .createWithdraw
  | .transfer => (validateTransfer request).map .createTransfer

def validationError : ServiceError := .http (.badRequest "Bad Request Exception")

/-! ## The controller -/

def markIdempotencyKeyDone : Option IdempotencyKey → Handler Unit
  | none => pure ()
  | some key => do
      match ← issue (.setDone key) with
      | some () => pure ()
      | none =>
          let _ ← issue (.del key)
          pure ()

def isConflictException : ServiceError → Bool
  | .http (.conflict _) => true
  | _ => false

def tryDeleteIdempotencyKey (key : Option IdempotencyKey) (err : ServiceError) : Handler Unit :=
  match key with
  | none => pure ()
  | some key =>
      if isConflictException err then pure ()
      else do
        let _ ← issue (.del key)
        pure ()

def releaseTransferUserLock : Option TransferUserLock → Handler Unit
  | none => pure ()
  | some lock => do
      let _ ← issue (.unlock lock.userId lock.token)
      pure ()

def settle (key : Option IdempotencyKey) (service : Service Response) : Handler Response := do
  match ← Program.attempt (serve service) with
  | .ok result =>
      markIdempotencyKeyDone key
      pure result
  | .error err =>
      tryDeleteIdempotencyKey key err
      throw err

def createDeposit (config : FraudConfig) (request : Submission) (req : IdempotencyRequest)
    (dto : CreateDepositRequestDto) : Handler Response :=
  settle req.idempotencyKey
    (handle config ⟨request.userId, request.context, .createDeposit dto⟩)

def createWithdraw (config : FraudConfig) (request : Submission) (req : IdempotencyRequest)
    (dto : CreateWithdrawRequestDto) : Handler Response :=
  settle req.idempotencyKey
    (handle config ⟨request.userId, request.context, .createWithdraw dto⟩)

def createTransfer (config : FraudConfig) (request : Submission) (req : IdempotencyRequest)
    (dto : CreateTransferRequestDto) : Handler Response := do
  let outcome ← Program.attempt (settle req.idempotencyKey
    (handle config ⟨request.userId, request.context, .createTransfer dto⟩))
  releaseTransferUserLock req.transferUserLock
  match outcome with
  | .ok result => pure result
  | .error err => throw err

def postTransaction (config : FraudConfig) (request : Submission) : Handler Response := do
  let req ← canActivate request
  match request.route with
  | .deposit =>
      match validateDeposit request with
      | some dto => createDeposit config request req dto
      | none => throw validationError
  | .withdraw =>
      match validateWithdraw request with
      | some dto => createWithdraw config request req dto
      | none => throw validationError
  | .transfer =>
      match validateTransfer request with
      | some dto => createTransfer config request req dto
      | none => throw validationError

/-! ## The operation of a valid body -/

section Bodies

variable {submission : Submission}

theorem text_of_whitelisted {names : List String} {name : String}
    (whitelisted : submission.whitelisted names = true) (other : name ∉ names) :
    submission.text name = none := by
  unfold Submission.whitelisted at whitelisted
  split at whitelisted
  · rename_i fields body
    have missing : (fields.find? fun field => field.1 == name) = none := by
      rw [List.find?_eq_none]
      intro field member same
      have listed := List.all_eq_true.mp whitelisted field member
      rw [List.contains_iff_mem, eq_of_beq same] at listed
      exact other listed
    simp [Submission.text, body, Json.property, missing]
  · cases whitelisted

theorem validateDeposit_texts {dto : CreateDepositRequestDto}
    (passes : validateDeposit submission = some dto) :
    submission.text "fromAccountId" = none ∧
      submission.text "toAccountId" = some dto.toAccountId ∧
      submission.text "referenceId" = some dto.referenceId := by
  unfold validateDeposit at passes
  split at passes
  · rename_i whitelisted
    rcases Option.bind_eq_some_iff.mp passes with ⟨amount, _, passes⟩
    rcases Option.bind_eq_some_iff.mp passes with ⟨referenceId, reference, passes⟩
    rcases Option.bind_eq_some_iff.mp passes with ⟨toAccountId, toAccount, passes⟩
    unfold CreateDepositRequestDto.validate at passes
    split at passes
    · cases passes
      exact ⟨text_of_whitelisted whitelisted (by decide), toAccount, reference⟩
    · cases passes
  · cases passes

theorem validateWithdraw_texts {dto : CreateWithdrawRequestDto}
    (passes : validateWithdraw submission = some dto) :
    submission.text "fromAccountId" = some dto.fromAccountId ∧
      submission.text "toAccountId" = none ∧
      submission.text "referenceId" = some dto.referenceId := by
  unfold validateWithdraw at passes
  split at passes
  · rename_i whitelisted
    rcases Option.bind_eq_some_iff.mp passes with ⟨amount, _, passes⟩
    rcases Option.bind_eq_some_iff.mp passes with ⟨referenceId, reference, passes⟩
    rcases Option.bind_eq_some_iff.mp passes with ⟨fromAccountId, fromAccount, passes⟩
    unfold CreateWithdrawRequestDto.validate at passes
    split at passes
    · cases passes
      exact ⟨fromAccount, text_of_whitelisted whitelisted (by decide), reference⟩
    · cases passes
  · cases passes

theorem validateTransfer_texts {dto : CreateTransferRequestDto}
    (passes : validateTransfer submission = some dto) :
    submission.text "fromAccountId" = some dto.fromAccountId ∧
      submission.text "toAccountId" = some dto.toAccountId ∧
      submission.text "referenceId" = some dto.referenceId := by
  unfold validateTransfer at passes
  split at passes
  · rcases Option.bind_eq_some_iff.mp passes with ⟨amount, _, passes⟩
    rcases Option.bind_eq_some_iff.mp passes with ⟨referenceId, reference, passes⟩
    rcases Option.bind_eq_some_iff.mp passes with ⟨toAccountId, toAccount, passes⟩
    rcases Option.bind_eq_some_iff.mp passes with ⟨fromAccountId, fromAccount, passes⟩
    unfold CreateTransferRequestDto.validate at passes
    split at passes
    · cases passes
      exact ⟨fromAccount, toAccount, reference⟩
    · cases passes
  · cases passes

/-- The guard infers the operation of the endpoint from a body that the endpoint accepts. -/
theorem extractOperation_of_validate {operation : Operation}
    (passes : validate submission = some operation) :
    extractOperation submission = .ok submission.route := by
  unfold validate at passes
  unfold extractOperation
  cases route : submission.route with
  | deposit =>
      rw [route] at passes
      rcases Option.map_eq_some_iff.mp passes with ⟨dto, valid, _⟩
      rcases validateDeposit_texts valid with ⟨fromText, toText, _⟩
      rw [fromText, toText]
      rfl
  | withdraw =>
      rw [route] at passes
      rcases Option.map_eq_some_iff.mp passes with ⟨dto, valid, _⟩
      rcases validateWithdraw_texts valid with ⟨fromText, toText, _⟩
      rw [fromText, toText]
      rfl
  | transfer =>
      rw [route] at passes
      rcases Option.map_eq_some_iff.mp passes with ⟨dto, valid, _⟩
      rcases validateTransfer_texts valid with ⟨fromText, toText, _⟩
      rw [fromText, toText]
      rfl

end Bodies

end BankingBackend.Transactions.Controller
