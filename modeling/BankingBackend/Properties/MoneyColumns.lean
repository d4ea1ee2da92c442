import BankingBackend.Calls.Commands
import BankingBackend.Foundation.Monitor
import BankingBackend.Properties.Balances

/-! # Values of the money columns

An amount is stored with the row of its transaction and is added to or taken from a
balance. What is taken always fits; the other two fit as long as there is room for
them.
-/

namespace BankingBackend

open Foundation Foundation.Program Postgres Common Fraud Transactions

/-! ## Values and their columns -/

namespace Postgres.Money

def Fits (value : ℚ) : Prop := (assign? value).isSome = true

theorem fits_iff {value : ℚ} : Fits value ↔ |roundHalfAway (value * 100)| < 10 ^ 18 := by
  unfold Fits assign?
  split
  · rename_i fits
    exact iff_of_true rfl fits
  · rename_i overflows
    exact iff_of_false (by rintro ⟨⟩) overflows

theorem fits_amount {amount : ℚ} (nonneg : 0 ≤ amount) :
    Fits amount ↔ creditCents amount < 10 ^ 18 := by
  rw [fits_iff, ← creditCents, abs_of_nonneg (creditCents_nonneg nonneg)]

theorem fits_credit {balance : Money} {amount : ℚ} (nonneg : 0 ≤ amount) :
    Fits (balance.toRat + amount) ↔ balance.cents + creditCents amount < 10 ^ 18 := by
  have cents : (balance.toRat + amount) * 100 = (balance.cents : ℚ) + amount * 100 := by
    unfold toRat
    ring
  have scaled : 0 ≤ amount * 100 := by positivity
  have upper := roundHalfAway_add_le (n := balance.cents) scaled
  have lower := le_roundHalfAway_add (n := balance.cents) scaled
  have bounds := abs_lt.mp balance.fits
  rw [fits_iff, cents, abs_lt, creditCents]
  constructor
  · intro fits
    by_contra exceeds
    have same := roundHalfAway_add_of_pos (n := balance.cents) scaled (by omega)
    omega
  · intro room
    exact ⟨by omega, by omega⟩

theorem fits_debit {balance : Money} {amount : ℚ} (nonneg : 0 ≤ amount)
    (covered : amount ≤ balance.toRat) : Fits (balance.toRat - amount) := by
  have cents : (balance.toRat - amount) * 100 = (balance.cents : ℚ) - amount * 100 := by
    unfold toRat
    ring
  have coveredCents : amount * 100 ≤ (balance.cents : ℚ) := by
    unfold toRat at covered
    linarith
  have taken := debitCents_nonneg nonneg
  have left := debitCents_le covered
  have bounds := abs_lt.mp balance.fits
  rw [fits_iff, cents, roundHalfAway_sub coveredCents, ← debitCents, abs_lt]
  exact ⟨by omega, by omega⟩

end Postgres.Money

/-! ## What is sent to the columns -/

namespace Postgres

def AccountUpdate.balance? (account : Account) : AccountUpdate → Option ℚ
  | .setStatus _ => none
  | .increment amount => some (account.balance.toRat + amount)
  | .decrement amount => some (account.balance.toRat - amount)

/-- The statement sends the value to a money column, given the rows as the thread sees them. -/
def Statement.Sends {Thread : Type} (server : Server Thread) (thread : Thread) (value : ℚ) :
    Statement → Prop
  | .transactionCreate data => value = data.amount
  | .accountCreate _ _ => value = 0
  | .accountUpdate text data => ∃ id account, Uuid.parse? text = some id ∧
      server.visible thread id = some account ∧ data.balance? account = some value
  | .accountUpdateMany text filter data => ∃ id account, Uuid.parse? text = some id ∧
      server.visible thread id = some account ∧ filter.admits account = true ∧
      data.balance? account = some value
  | _ => False

end Postgres

/-- An amount has room in the column of its row, and what it is added to has room for it. -/
def HasRoom {Thread : Type} (server : Server Thread) (thread : Thread)
    (params : TransactionParams) : Statement → Prop
  | .transactionCreate _ => Money.creditCents params.amount < 10 ^ 18
  | .accountUpdate text _ => ∀ id account, Uuid.parse? text = some id →
      server.visible thread id = some account →
        account.balance.cents + Money.creditCents params.amount < 10 ^ 18
  | _ => True

/-- The code of a value that does not fit its column. -/
def Overflows (error : DatabaseError) : Prop := error.code = some "P2020"

instance (error : DatabaseError) : Decidable (Overflows error) :=
  inferInstanceAs (Decidable (_ = _))

section Definitions

variable {Thread : Type} [DecidableEq Thread] [Fintype Thread]

/-- The database reports an overflow only of a value that does not fit. -/
def Genuine (label : Label Thread) : Prop :=
  ∀ thread choice error, label = .perform thread choice → choice.failure = some error →
    ¬Overflows error

/-- Every amount and every new balance that a deposit, withdrawal or transfer sends to be stored
fits its column, and none of them ends with an overflow, in every run whose steps are allowed. -/
structure MoneyFits (config : FraudConfig) (requests : Thread → Request)
    (condition : Configuration Thread → Label Thread → Prop) : Prop where
  stored : ∀ redis now current,
    Run step (fun between label => Genuine label ∧ condition between label)
      (initial config requests redis now) current →
    ∀ thread params choice statement next value, (requests thread).params? = some params →
      current.program thread = .call (.query statement) next →
      condition current (.perform thread choice) →
      statement.Sends current.shared.server thread value → Money.Fits value
  ended : ∀ redis now current,
    Run step (fun between label => Genuine label ∧ condition between label)
      (initial config requests redis now) current →
    ∀ thread params error, (requests thread).params? = some params →
      current.program thread = .done (.error (.database error)) → ¬Overflows error

def StepHasRoom (requests : Thread → Request) (current : Configuration Thread)
    (label : Label Thread) : Prop :=
  ∀ thread choice params statement next, label = .perform thread choice →
    (requests thread).params? = some params →
    current.program thread = .call (.query statement) next →
    HasRoom current.shared.server thread params statement

end Definitions

/-! ## The statements of a money call -/

/-- The statement stores the amount of the request, or what is left where it is taken. -/
def Postgres.Statement.Stores (params : TransactionParams) : Statement → Prop
  | .transactionCreate data => data.amount = params.amount
  | .accountCreate _ _ => False
  | .accountUpdate _ data => data = .increment params.amount
  | .accountUpdateMany _ filter data =>
      data = .decrement params.amount ∧ filter.balance = some (.gte params.amount)
  | _ => True

section Statements

variable {Thread : Type} {server : Server Thread} {thread : Thread} {params : TransactionParams}
  {statement : Statement}

theorem sends_fit_iff (stores : statement.Stores params) (nonneg : 0 ≤ params.amount) :
    (∀ value, statement.Sends server thread value → Money.Fits value) ↔
      HasRoom server thread params statement := by
  cases statement with
  | transactionCreate data =>
      have amount : data.amount = params.amount := stores
      rw [HasRoom, ← Money.fits_amount nonneg, ← amount]
      exact forall_eq
  | accountCreate customerId currency => exact stores.elim
  | accountUpdate text data =>
      cases stores
      constructor
      · intro fits id account parsed visible
        exact (Money.fits_credit nonneg).mp (fits _ ⟨id, account, parsed, visible, rfl⟩)
      · rintro room value ⟨id, account, parsed, visible, ⟨⟩⟩
        exact (Money.fits_credit nonneg).mpr (room id account parsed visible)
  | accountUpdateMany text filter data =>
      rcases stores with ⟨rfl, covers⟩
      refine iff_of_true ?_ trivial
      rintro value ⟨id, account, parsed, visible, admits, ⟨⟩⟩
      refine Money.fits_debit nonneg ?_
      simp only [AccountFilter.admits, covers, Bool.and_eq_true] at admits
      simpa [BalanceFilter.admits] using admits.2
  | _ => exact iff_of_true (fun _ sends => sends.elim) trivial

end Statements

/-! ## The program of a money call -/

namespace Common.Command

def Stores (params : TransactionParams) : interface.Op → Prop
  | .query statement => statement.Stores params
  | _ => True

def Fitting : (op : interface.Op) → interface.Answer op → Prop
  | .query _, answer => ∀ error, answer = .error error → ¬Overflows error
  | _, _ => True

end Common.Command

/-- The database reports no overflow. -/
def storingMonitor (params : TransactionParams) : Monitor interface Unit where
  permits _ op := Command.Stores params op
  moves _ op answer _ := Command.Fitting op answer

def NoOverflow {α : Type} (result : Except ServiceError α) : Prop :=
  ∀ error, result = .error (.database error) → ¬Overflows error

section Programs

variable {params : TransactionParams} {α β : Type} {program : Service α}

def StoresOnly (params : TransactionParams) (program : Service α) : Prop :=
  (storingMonitor params).Obeys (fun result _ => NoOverflow result) program ()

theorem storesOnly_pure (value : α) : StoresOnly params (pure value : Service α) :=
  Monitor.Obeys.pure (by rintro _ ⟨⟩)

theorem storesOnly_throw (exception : HttpException) :
    StoresOnly params (throw (.http exception) : Service α) :=
  Monitor.Obeys.throw (by rintro _ ⟨⟩)

theorem storesOnly_rethrow {error : ServiceError}
    (sound : NoOverflow (.error error : Except ServiceError α)) :
    StoresOnly params (throw error : Service α) := Monitor.Obeys.throw sound

theorem StoresOnly.bind {next : α → Service β} (first : StoresOnly params program)
    (rest : ∀ value, StoresOnly params (next value)) : StoresOnly params (program >>= next) := by
  refine Monitor.Obeys.bind first ?_ fun value _ _ => rest value
  intro error _ sound database same
  cases same
  exact sound database rfl

theorem StoresOnly.map {convert : α → β} (first : StoresOnly params program) :
    StoresOnly params (convert <$> program) := by
  refine Monitor.Obeys.map first ?_ ?_
  · intro error _ sound database same
    cases same
    exact sound database rfl
  · rintro value _ _ database ⟨⟩

theorem StoresOnly.tryCatch {handler : ServiceError → Service α}
    (first : StoresOnly params program)
    (handles : ∀ error, NoOverflow (.error error : Except ServiceError α) →
      StoresOnly params (handler error)) :
    StoresOnly params (tryCatch program handler) :=
  Monitor.Obeys.tryCatch first (fun _ _ sound => sound) fun error _ sound => handles error sound

theorem storesOnly_request {command : Command} (stores : Command.Stores params command) :
    StoresOnly params (request command) := by
  refine ⟨stores, ?_⟩
  rintro answer _ _ database ⟨⟩

theorem storesOnly_query {statement : Statement} (stores : statement.Stores params) :
    StoresOnly params (query statement) := by
  refine ⟨stores, ?_⟩
  intro answer _ fitting
  cases answer with
  | ok value => rintro database ⟨⟩
  | error error =>
      rintro database ⟨⟩
      exact fitting error rfl

theorem StoresOnly.transaction (body : StoresOnly params program) :
    StoresOnly params (transaction program) := by
  refine (storesOnly_query (by trivial)).bind fun _ => ?_
  refine Monitor.Obeys.attempt body ?_
  intro outcome _ sound
  cases outcome with
  | ok value => exact (storesOnly_query (by trivial)).bind fun _ => storesOnly_pure value
  | error error =>
      have rolls : StoresOnly params (query .rollback) := storesOnly_query (by trivial)
      exact Monitor.Obeys.attempt rolls fun _ _ _ => storesOnly_rethrow (by
        rintro database ⟨⟩
        exact sound database rfl)

/-! ### Around the transactions -/

theorem storesOnly_findExisting (userId : Uuid) (type : TransactionType) (referenceId : String) :
    StoresOnly params (findExisting userId type referenceId) := storesOnly_query (by trivial)

theorem storesOnly_resolveExistingOrThrow (existing : Option Transaction)
    (type : TransactionType) : StoresOnly params (resolveExistingOrThrow existing type) := by
  unfold resolveExistingOrThrow
  cases existing with
  | none => exact storesOnly_pure none
  | some row =>
      simp only
      split
      · exact storesOnly_pure _
      · split
        · exact storesOnly_throw _
        · exact storesOnly_pure _

theorem storesOnly_fallbackOrThrow {error : ServiceError}
    (sound : NoOverflow (.error error : Except ServiceError TransactionResponseDto))
    (userId : Uuid) (referenceId : String) (type : TransactionType) :
    StoresOnly params (fallbackOrThrow error userId referenceId type) := by
  refine StoresOnly.bind ?_ fun fallback => ?_
  · unfold resolveP2002Fallback
    split
    · exact storesOnly_pure _
    · refine (storesOnly_findExisting _ _ _).bind fun existing => ?_
      cases existing with
      | none => exact storesOnly_pure _
      | some byRef =>
          simp only
          split
          · exact storesOnly_pure _
          · split
            · exact storesOnly_throw _
            · split
              · exact storesOnly_throw _
              · exact storesOnly_throw _
  · cases fallback with
    | some fallback => exact storesOnly_pure fallback
    | none => exact storesOnly_rethrow sound

theorem storesOnly_recordRejection (context : RequestContext) (reason : Option String) :
    StoresOnly params (recordRejection context params reason) := by
  have inserts : StoresOnly params (do
      let rejectedTransaction ← createRejectedTransaction params reason
      createFailedFraudEvent context params rejectedTransaction.id reason) :=
    (storesOnly_query (by rfl)).bind fun _ => storesOnly_query (by trivial)
  exact inserts.transaction.bind fun _ => storesOnly_throw _

theorem storesOnly_releaseReservation (rule : DailyLimitRule) (userId : Uuid)
    (referenceId : String) : StoresOnly params (rule.releaseReservation userId referenceId) :=
  (storesOnly_request (by trivial)).bind fun _ => (storesOnly_request (by trivial)).bind fun _ =>
    storesOnly_pure ()

theorem storesOnly_evaluate (rule : DailyLimitRule) (userId : Uuid) (referenceId : String)
    (amount : ℚ) : StoresOnly params (rule.evaluate userId referenceId amount) := by
  refine (storesOnly_request (by trivial)).bind fun now => ?_
  refine (storesOnly_request (by trivial)).bind fun (allowed : Option Bool) => ?_
  cases allowed with
  | some allowed => exact storesOnly_pure _
  | none =>
      refine StoresOnly.tryCatch ?_ fun _ _ => storesOnly_pure _
      exact (storesOnly_request (by trivial)).bind fun _ =>
        (storesOnly_query (by trivial)).bind fun _ => storesOnly_pure _

theorem storesOnly_evaluateRules {Input : Type} {input : Input}
    {rules : List (Input → Service RuleResult)}
    (stores : ∀ rule ∈ rules, StoresOnly params (rule input)) :
    StoresOnly params (evaluateRules input rules) := by
  induction rules with
  | nil => exact storesOnly_pure _
  | cons rule rules induction =>
      have others := induction fun other member => stores other (List.mem_cons_of_mem _ member)
      refine (stores rule List.mem_cons_self).bind fun result => ?_
      cases result with
      | none => exact others
      | some decided =>
          simp only
          split
          · exact storesOnly_pure _
          · exact others

theorem storesOnly_evaluateWithdraw (config : FraudConfig) (input : WithdrawFraudCheckInput) :
    StoresOnly params (evaluateWithdraw config input) := by
  refine storesOnly_evaluateRules fun rule member => ?_
  simp only [withdrawRules, List.mem_cons, List.not_mem_nil, or_false] at member
  rcases member with rfl | rfl
  · exact storesOnly_pure _
  · exact storesOnly_evaluate _ _ _ _

theorem storesOnly_evaluateTransfer (config : FraudConfig) (input : TransferFraudCheckInput) :
    StoresOnly params (evaluateTransfer config input) := by
  refine storesOnly_evaluateRules fun rule member => ?_
  simp only [transferRules, List.mem_cons, List.not_mem_nil, or_false] at member
  rcases member with rfl | rfl | rfl | rfl
  · exact storesOnly_pure _
  · exact storesOnly_pure _
  · refine (storesOnly_request (by trivial)).bind fun (ready : Bool) => ?_
    cases ready with
    | false => exact storesOnly_pure _
    | true =>
        refine (storesOnly_request (by trivial)).bind fun now => ?_
        refine (storesOnly_request (by trivial)).bind fun (count : Option ℕ) => ?_
        cases count with
        | none => exact storesOnly_pure _
        | some count => exact storesOnly_pure _
  · exact storesOnly_evaluate _ _ _ _

/-! ### Transaction bodies -/

theorem storesOnly_getAccountOrThrow (text : String) :
    StoresOnly params (getAccountOrThrow text) := by
  refine (storesOnly_query (by trivial)).bind fun account => ?_
  cases account with
  | some account => exact storesOnly_pure account
  | none => exact storesOnly_throw _

theorem storesOnly_ensureOwnedByUserOrThrow (accountCustomerId userId : Uuid) :
    StoresOnly params (ensureOwnedByUserOrThrow accountCustomerId userId) := by
  unfold ensureOwnedByUserOrThrow
  split
  · exact storesOnly_throw _
  · exact storesOnly_pure _

theorem storesOnly_ensureActiveOrThrow (status : AccountStatus) (message : String) :
    StoresOnly params (ensureActiveOrThrow status message) := by
  unfold ensureActiveOrThrow
  split
  · exact storesOnly_throw _
  · exact storesOnly_pure _

theorem storesOnly_debit (accountId message : String) {next : Service β}
    (rest : StoresOnly params next) :
    StoresOnly params (do
      let count ← decrementBalance accountId params.amount
      if count ≠ 1 then throw (.http (.badRequest message)) else next) := by
  have covers : (Statement.accountUpdateMany accountId { balance := some (.gte params.amount) }
      (.decrement params.amount)).Stores params := ⟨rfl, rfl⟩
  refine (storesOnly_query covers).bind fun (count : ℕ) => ?_
  by_cases short : count ≠ 1
  · rw [if_pos short]
    exact storesOnly_throw _
  · rw [if_neg short]
    exact rest

theorem storesOnly_completion (context : RequestContext) (id : Uuid) :
    StoresOnly params (do
      let completedTransaction ← markCompleted id
      createCompletedEvent context params completedTransaction.id
      pure (Transactions.toResponseDto completedTransaction)) :=
  (storesOnly_query (by trivial)).bind fun _ => (storesOnly_query (by trivial)).bind fun _ =>
    storesOnly_pure _

theorem storesOnly_depositBody (context : RequestContext) (userId : Uuid)
    (dto : CreateDepositRequestDto) :
    StoresOnly (depositParams userId dto) (depositBody context userId dto) := by
  refine (storesOnly_getAccountOrThrow _).bind fun account => ?_
  refine (storesOnly_ensureOwnedByUserOrThrow _ _).bind fun _ => ?_
  refine (storesOnly_ensureActiveOrThrow _ _).bind fun _ => ?_
  refine (storesOnly_query (by rfl)).bind fun created => ?_
  refine (storesOnly_query (by rfl)).bind fun _ => ?_
  exact storesOnly_completion context _

theorem storesOnly_withdrawBody (context : RequestContext) (userId : Uuid)
    (dto : CreateWithdrawRequestDto) :
    StoresOnly (withdrawParams userId dto) (withdrawBody context userId dto) := by
  refine (storesOnly_getAccountOrThrow _).bind fun account => ?_
  refine (storesOnly_ensureOwnedByUserOrThrow _ _).bind fun _ => ?_
  refine (storesOnly_ensureActiveOrThrow _ _).bind fun _ => ?_
  refine (storesOnly_query (by rfl)).bind fun created => ?_
  exact storesOnly_debit _ _ (storesOnly_completion context _)

theorem storesOnly_moveMoney (userId : Uuid) (dto : CreateTransferRequestDto)
    (accountId : String) : StoresOnly (transferParams userId dto) (moveMoney dto accountId) := by
  unfold moveMoney
  split
  · exact storesOnly_debit _ _ (storesOnly_pure ())
  · exact storesOnly_query (by rfl)

theorem storesOnly_transferBody (context : RequestContext) (userId : Uuid)
    (dto : CreateTransferRequestDto) :
    StoresOnly (transferParams userId dto) (transferBody context userId dto) := by
  refine (storesOnly_getAccountOrThrow _).bind fun fromAccount => ?_
  refine (storesOnly_getAccountOrThrow _).bind fun toAccount => ?_
  refine (storesOnly_ensureOwnedByUserOrThrow _ _).bind fun _ => ?_
  refine (storesOnly_ensureActiveOrThrow _ _).bind fun _ => ?_
  refine (storesOnly_ensureActiveOrThrow _ _).bind fun _ => ?_
  refine (storesOnly_query (by rfl)).bind fun created => ?_
  refine (storesOnly_moveMoney userId dto _).bind fun _ => ?_
  refine (storesOnly_moveMoney userId dto _).bind fun _ => ?_
  exact storesOnly_completion context _

theorem storesOnly_transferAttempts (context : RequestContext) (userId : Uuid)
    (dto : CreateTransferRequestDto) (remaining : ℕ) :
    StoresOnly (transferParams userId dto) (transferAttempts context userId dto remaining) := by
  have attempt := (storesOnly_transferBody context userId dto).transaction
  induction remaining with
  | zero => exact attempt
  | succ remaining induction =>
      refine StoresOnly.tryCatch attempt fun error sound => ?_
      split
      · exact induction
      · exact storesOnly_rethrow sound

/-! ### Calls -/

theorem storesOnly_existing {userId : Uuid} {type : TransactionType} {referenceId : String}
    {next : Service TransactionResponseDto} (rest : StoresOnly params next) :
    StoresOnly params (do
      let existing ← findExisting userId type referenceId
      match ← resolveExistingOrThrow existing type with
      | some idempotentResult => pure idempotentResult
      | none => next) := by
  refine (storesOnly_findExisting _ _ _).bind fun existing => ?_
  refine (storesOnly_resolveExistingOrThrow existing type).bind fun resolved => ?_
  cases resolved with
  | some dto => exact storesOnly_pure dto
  | none => exact rest

theorem storesOnly_checked {evaluation : Service FraudDecisionResult} {rule : DailyLimitRule}
    {execution : Service TransactionResponseDto} (context : RequestContext)
    (userId : Uuid) (referenceId : String) (type : TransactionType)
    (evaluates : StoresOnly params evaluation) (executes : StoresOnly params execution) :
    StoresOnly params (tryCatch
      (do
        let preFraudResult ← evaluation
        if preFraudResult.decision = .reject then
          recordRejection context params preFraudResult.reason
        else execution)
      fun err => do
        if err.code ≠ some "P2002" then rule.releaseReservation userId referenceId
        fallbackOrThrow err userId referenceId type) := by
  refine StoresOnly.tryCatch (evaluates.bind fun result => ?_) fun error sound => ?_
  · split
    · exact storesOnly_recordRejection context _
    · exact executes
  · have fallback : StoresOnly params (fallbackOrThrow error userId referenceId type) :=
      storesOnly_fallbackOrThrow sound userId referenceId type
    by_cases other : error.code ≠ some "P2002"
    · rw [if_pos other]
      exact (storesOnly_releaseReservation rule userId referenceId).bind fun _ => fallback
    · rw [if_neg other]
      exact fallback

theorem storesOnly_handle (config : FraudConfig) {request : Request}
    (asks : request.params? = some params) : StoresOnly params (handle config request) := by
  rcases request with ⟨userId, context, operation⟩
  cases operation with
  | createDeposit dto =>
      cases asks
      exact (storesOnly_existing ((storesOnly_depositBody context userId dto).transaction.tryCatch
        fun error sound => storesOnly_fallbackOrThrow sound _ _ _)).map
  | createWithdraw dto =>
      cases asks
      exact (storesOnly_existing (storesOnly_checked context _ _ _
        (storesOnly_evaluateWithdraw config _)
        (storesOnly_withdrawBody context userId dto).transaction)).map
  | createTransfer dto =>
      cases asks
      exact (storesOnly_existing (storesOnly_checked context _ _ _
        (storesOnly_evaluateTransfer config _)
        (storesOnly_transferAttempts context userId dto _))).map
  | getAccounts | getAccountById | createAccount | freezeAccount | unfreezeAccount | closeAccount =>
      cases asks

end Programs

/-! ## Answers of the database -/

section Answers

variable {Thread : Type} [DecidableEq Thread] [Fintype Thread] {server after : Server Thread}
  {thread : Thread} {error : DatabaseError} {newId : Uuid} {now : ℕ}

omit [DecidableEq Thread] [Fintype Thread] in
theorem fits_of_balance {account : Account} {update : AccountUpdate}
    (overflow : update.apply account = none) :
    ∃ value, update.balance? account = some value ∧ ¬Money.Fits value := by
  cases update with
  | setStatus status => cases overflow
  | increment amount | decrement amount =>
      refine ⟨_, rfl, ?_⟩
      rw [AccountUpdate.apply, Option.map_eq_none_iff] at overflow
      rw [Money.Fits, overflow]
      exact Bool.false_ne_true

omit [DecidableEq Thread] [Fintype Thread] in
theorem not_overflows_of_row {data : TransactionData} (fits : Money.Fits data.amount)
    (invalid : data.row newId now = .error error) : ¬Overflows error := by
  unfold TransactionData.row at invalid
  split at invalid
  · cases invalid
  · rename_i assigned
    rw [Money.Fits, assigned] at fits
    cases fits
  · cases invalid
    decide

theorem fits_of_updateAccount {id : Uuid} {filter : AccountFilter} {update : AccountUpdate}
    (overflow : server.updateAccount thread id filter update = .overflow) :
    ∃ account value, server.visible thread id = some account ∧ filter.admits account = true ∧
      update.balance? account = some value ∧ ¬Money.Fits value := by
  unfold Server.updateAccount at overflow
  split at overflow
  · split at overflow
    · split at overflow
      · cases overflow
      · cases overflow
    · cases overflow
  · split at overflow
    · cases overflow
    · rename_i account visible
      split at overflow
      · rename_i admits
        split at overflow
        · cases overflow
        · rename_i applied
          rcases fits_of_balance applied with ⟨value, balance, exceeds⟩
          exact ⟨account, value, visible, admits, balance, exceeds⟩
      · cases overflow

theorem not_overflows_of_fits {statement : Statement}
    (fits : ∀ value, statement.Sends server thread value → Money.Fits value)
    (responded : server.respond thread newId now statement = some (.error error, after)) :
    ¬Overflows error := by
  cases statement with
  | transactionCreate data =>
      simp only [Server.respond, Server.insertTransaction] at responded
      split at responded
      · rename_i invalid row
        cases responded
        exact not_overflows_of_row (fits data.amount rfl) row
      · split at responded
        · cases responded
        · split at responded
          · cases responded
          · split at responded
            · cases responded
              decide
            · split at responded
              · cases responded
              · cases responded
                decide
  | accountUpdate text data =>
      simp only [Server.respond] at responded
      split at responded
      · cases responded
        decide
      · rename_i id parsed
        split at responded
        · cases responded
        · cases responded
          decide
        · rename_i overflow
          rcases fits_of_updateAccount overflow with ⟨account, value, visible, _, balance, exceeds⟩
          exact absurd (fits value ⟨id, account, parsed, visible, balance⟩) exceeds
        · cases responded
  | accountUpdateMany text filter data =>
      simp only [Server.respond] at responded
      split at responded
      · cases responded
        decide
      · rename_i id parsed
        split at responded
        · cases responded
        · cases responded
        · rename_i overflow
          rcases fits_of_updateAccount overflow with
            ⟨account, value, visible, admits, balance, exceeds⟩
          exact absurd (fits value ⟨id, account, parsed, visible, admits, balance⟩) exceeds
        · cases responded
  | begin | commit =>
      simp only [Server.respond] at responded
      split at responded
      · cases responded
      · cases responded
  | rollback | transactionFindFirst | transactionSum | accountFindMany | eventCreate =>
      cases responded
  | transactionUpdate id status =>
      simp only [Server.respond] at responded
      split at responded
      · cases responded
      · cases responded
        decide
  | accountFindUnique text =>
      simp only [Server.respond] at responded
      split at responded
      · cases responded
        decide
      · split at responded
        · cases responded
        · cases responded
  | accountFindFirst text filter =>
      cases text with
      | none => cases responded
      | some text =>
          simp only [Server.respond, Server.findFirstAccount] at responded
          split at responded
          · cases responded
            decide
          · cases responded
  | accountCreate customerId currency =>
      simp only [Server.respond] at responded
      split at responded
      · cases responded
      · split at responded
        · cases responded
        · split at responded
          · cases responded
            decide
          · cases responded
  | auditLogCreate data =>
      simp only [Server.respond] at responded
      split at responded
      · cases responded
        decide
      · cases responded

theorem not_overflows_of_perform {statement : Statement} {failure : Option DatabaseError}
    (fits : ∀ value, statement.Sends server thread value → Money.Fits value)
    (genuine : ∀ reported, failure = some reported → ¬Overflows reported)
    (performed : server.perform thread failure newId now statement = some (.error error, after)) :
    ¬Overflows error := by
  cases failure with
  | none => exact not_overflows_of_fits fits performed
  | some reported =>
      simp only [Server.perform] at performed
      split at performed
      · cases performed
      · cases performed
        exact genuine error rfl

end Answers

/-! ## Runs -/

section Runs

variable {Thread : Type} [DecidableEq Thread] [Fintype Thread] {config : FraudConfig}
  {requests : Thread → Request} {current following : Configuration Thread} {thread : Thread}
  {params : TransactionParams}

/-- What is left of the call stores the amounts of its request and ends without an overflow. -/
def Continues (params : TransactionParams) (program : Program interface CallResult) : Prop :=
  (storingMonitor params).Follows (fun result _ => NoOverflow result) program ()

omit [Fintype Thread] [DecidableEq Thread] in
theorem Continues.fit_iff {statement : Statement} {server : Server Thread}
    {next : Except DatabaseError statement.Result → Program interface CallResult}
    (continues : Continues params (.call (.query statement) next))
    (asks : (requests thread).params? = some params) :
    (∀ value, statement.Sends server thread value → Money.Fits value) ↔
      HasRoom server thread params statement :=
  sends_fit_iff continues.1 (le_trans (by norm_num) (Request.params?_amountMin asks))

theorem Continues.step {label : Label Thread}
    (continues : Continues params (current.program thread))
    (asks : (requests thread).params? = some params) (genuine : Genuine label)
    (room : StepHasRoom requests current label) (taken : step current label = some following) :
    Continues params (following.program thread) := by
  by_cases own : ∃ choice, label = .perform thread choice
  · rcases own with ⟨choice, rfl⟩
    rcases Machine.step_perform taken with ⟨op, next, answer, shared, program, performed, rfl⟩
    rw [program] at continues
    show Continues params (Function.update current.program thread (next answer) thread)
    rw [Function.update_self]
    refine continues.2 answer () ?_
    cases op with
    | query statement =>
        rintro error rfl
        rcases Option.map_eq_some_iff.mp performed with ⟨⟨reply, server⟩, done, same⟩
        cases same
        exact not_overflows_of_perform
          ((continues.fit_iff asks).mpr (room thread choice params statement next rfl asks program))
          (fun reported failed => genuine thread choice reported rfl failed) done
    | _ => trivial
  · rw [Machine.step_other taken fun choice same => own ⟨choice, same⟩]
    exact continues

def AllContinue (requests : Thread → Request) (current : Configuration Thread) : Prop :=
  ∀ thread params, (requests thread).params? = some params →
    Continues params (current.program thread)

theorem continues_of_run {condition : Configuration Thread → Label Thread → Prop}
    {redis : Redis.Store} {now : ℕ}
    (room : ∀ between label,
      Run step (fun between label => Genuine label ∧ condition between label)
        (initial config requests redis now) between →
      AllContinue requests between → condition between label →
      StepHasRoom requests between label)
    (run : Run step (fun between label => Genuine label ∧ condition between label)
      (initial config requests redis now) current) : AllContinue requests current := by
  induction run with
  | start => exact fun thread params asks => storesOnly_handle config asks
  | next label earlier allowed taken continues =>
      exact fun thread params asks => (continues thread params asks).step asks allowed.1
        (room _ label earlier continues allowed.2) taken

def AllHaveRoom (config : FraudConfig) (requests : Thread → Request)
    (condition : Configuration Thread → Label Thread → Prop) : Prop :=
  ∀ redis now current,
    Run step (fun between label => Genuine label ∧ condition between label)
      (initial config requests redis now) current →
    ∀ label, condition current label → StepHasRoom requests current label

end Runs

theorem money_fits_iff {Thread : Type} [DecidableEq Thread] [Fintype Thread]
    (config : FraudConfig) (requests : Thread → Request)
    (condition : Configuration Thread → Label Thread → Prop) :
    MoneyFits config requests condition ↔ AllHaveRoom config requests condition := by
  constructor
  · intro fits
    have room (redis : Redis.Store) (now : ℕ) (between : Configuration Thread)
        (label : Label Thread)
        (run : Run step (fun between label => Genuine label ∧ condition between label)
          (initial config requests redis now) between)
        (continue_ : AllContinue requests between) (allowed : condition between label) :
        StepHasRoom requests between label := by
      rintro thread choice params statement next rfl asks program
      have continues := continue_ thread params asks
      rw [program] at continues
      exact (continues.fit_iff asks).mp fun value sends =>
        fits.stored redis now between run thread params choice statement next value asks program
          allowed sends
    intro redis now current run label allowed
    exact room redis now current label run (continues_of_run (room redis now) run) allowed
  · intro room
    constructor
    · intro redis now current run thread params choice statement next value asks program allowed
        sends
      have continues := continues_of_run
        (fun between label run _ allowed => room redis now between run label allowed) run
        thread params asks
      rw [program] at continues
      have fits := (continues.fit_iff asks).mpr
        (room redis now current run _ allowed thread choice params statement next rfl asks program)
      exact fits value sends
    · intro redis now current run thread params error asks ended
      have continues := continues_of_run
        (fun between label run _ allowed => room redis now between run label allowed) run
        thread params asks
      rw [ended] at continues
      exact continues error rfl

/-! ## A withdrawal beyond the column -/

/-- The daily limit rejects the withdrawal, and its row does not fit. -/
def beyondColumn (_ : Unit) : Request where
  userId := ⟨7⟩
  operation := .createWithdraw
    ((CreateWithdrawRequestDto.validate (10 ^ 16) "withdraw" sampleText).get (by decide +kernel))

def unfailing (_ : Configuration Unit) : Label Unit → Bool
  | .perform _ choice => choice.failure.isNone
  | .environment _ => true

theorem genuine_of_unfailing {current : Configuration Unit} {label : Label Unit}
    (checked : unfailing current label = true) : Genuine label ∧ True := by
  refine ⟨?_, trivial⟩
  rintro thread choice error rfl failed
  rw [unfailing, failed] at checked
  cases checked

def overflowed (program : Program interface CallResult) : Bool :=
  match program with
  | .done (.error (.database error)) => decide (Overflows error)
  | _ => false

private theorem beyondColumn_leads :
    (execute step unfailing (initial {} beyondColumn .empty 0) (List.replicate 6 (act ()))).any
      (fun current => overflowed (current.program ())) = true := by
  decide +kernel

theorem withdraw_beyond_column : ¬MoneyFits {} beyondColumn fun _ _ => True := by
  intro fits
  rcases exists_run_of_execute step unfailing (fun _ label => Genuine label ∧ True)
      (fun _ _ checked => genuine_of_unfailing checked) beyondColumn_leads with
    ⟨current, run, overflow⟩
  unfold overflowed at overflow
  split at overflow
  · rename_i error ended
    exact fits.ended _ _ current run () _ error rfl ended (of_decide_eq_true overflow)
  · cases overflow

end BankingBackend
