import BankingBackend.Accounts.Service
import BankingBackend.Transactions.Service

/-! # The system

Any number of service calls of any users, each a thread, over one database and
one Redis. The idempotency guard in front of the service decides only which calls
begin.
-/

namespace BankingBackend

open Foundation Postgres Redis Common Fraud Transactions Accounts

inductive Operation
  | createDeposit (dto : CreateDepositRequestDto)
  | createWithdraw (dto : CreateWithdrawRequestDto)
  | createTransfer (dto : CreateTransferRequestDto)
  | getAccounts
  | getAccountById (id : String)
  | createAccount (dto : CreateAccountRequestDto)
  | freezeAccount (id : String)
  | unfreezeAccount (id : String)
  | closeAccount (id : String)

structure Request where
  userId : Uuid
  context : RequestContext := {}
  operation : Operation

namespace Request

def params? (request : Request) : Option TransactionParams :=
  match request.operation with
  | .createDeposit dto => some (depositParams request.userId dto)
  | .createWithdraw dto => some (withdrawParams request.userId dto)
  | .createTransfer dto => some (transferParams request.userId dto)
  | _ => none

def amount (request : Request) : ℚ := (request.params?.map TransactionParams.amount).getD 0

theorem amount_eq {request : Request} {params : TransactionParams}
    (asks : request.params? = some params) : request.amount = params.amount := by
  simp [amount, asks]

theorem params?_actor {request : Request} {params : TransactionParams}
    (asks : request.params? = some params) : params.actorCustomerId = request.userId := by
  rcases request with ⟨userId, context, operation⟩
  cases operation <;> cases asks <;> rfl

theorem params?_amountMin {request : Request} {params : TransactionParams}
    (asks : request.params? = some params) : 1 / 100 ≤ params.amount := by
  rcases request with ⟨userId, context, operation⟩
  cases operation <;> cases asks
  · rename_i dto
    exact dto.amountMin
  · rename_i dto
    exact dto.amountMin
  · rename_i dto
    exact dto.amountMin

end Request

inductive Response
  | transaction (dto : TransactionResponseDto)
  | account (dto : AccountResponseDto)
  | accounts (dtos : List AccountResponseDto)
  deriving DecidableEq

def handle (config : FraudConfig) (request : Request) : Service Response :=
  let { userId, context, operation } := request
  match operation with
  | .createDeposit dto => .transaction <$> createDeposit context userId dto
  | .createWithdraw dto => .transaction <$> createWithdraw config context userId dto
  | .createTransfer dto => .transaction <$> createTransfer config context userId dto
  | .getAccounts => .accounts <$> getAccounts userId
  | .getAccountById id => .account <$> getAccountById userId id
  | .createAccount dto => .account <$> createAccount context userId dto
  | .freezeAccount id => .account <$> freezeAccount context userId id
  | .unfreezeAccount id => .account <$> unfreezeAccount context userId id
  | .closeAccount id => .account <$> closeAccount context userId id

abbrev CallResult := Except ServiceError Response

abbrev Configuration (Thread : Type) :=
  Foundation.Configuration interface Thread (World Thread) CallResult

abbrev Label (Thread : Type) := Action Thread Choice Occurrence

section Runs

variable {Thread : Type} [DecidableEq Thread] [Fintype Thread]

def step (current : Configuration Thread) (label : Label Thread) :
    Option (Configuration Thread) :=
  (machine Thread).step current label

def initial (config : FraudConfig) (requests : Thread → Request) (redis : Store) (now : ℕ) :
    Configuration Thread where
  shared := { server := .initial, redis, now }
  program thread := (handle config (requests thread)).run
  begun _ := false

def Reachable (config : FraudConfig) (requests : Thread → Request)
    (current : Configuration Thread) : Prop :=
  ∃ redis now, Run step Unrestricted (initial config requests redis now) current

/-- A step of a call that does not fail, with the identifier of a row it inserts. -/
def act (thread : Thread) (newId : BitVec 128 := 0) : Label Thread :=
  .perform thread { newId := ⟨newId⟩ }

def leadsTo (config : FraudConfig) (requests : Thread → Request) (labels : List (Label Thread))
    (test : Configuration Thread → Bool) : Bool :=
  (execute step (fun _ _ => true) (initial config requests .empty 0) labels).any test

theorem exists_reachable {config : FraudConfig} {requests : Thread → Request}
    {labels : List (Label Thread)} {test : Configuration Thread → Bool}
    (leads : leadsTo config requests labels test = true) :
    ∃ current, Reachable config requests current ∧ test current = true := by
  rcases exists_run_of_execute step (fun _ _ => true) Unrestricted (fun _ _ _ => trivial) leads
    with ⟨current, run, passed⟩
  exact ⟨current, ⟨.empty, 0, run⟩, passed⟩

end Runs

end BankingBackend
