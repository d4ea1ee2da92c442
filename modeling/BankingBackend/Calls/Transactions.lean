import BankingBackend.Calls.Bodies
import BankingBackend.Calls.Fraud

/-! # The transactions service

Every deposit, withdrawal and transfer either returns its committed completed row
or throws without having moved money.
-/

namespace BankingBackend

open Foundation Postgres Redis Common Fraud Transactions

variable {Thread : Type} [DecidableEq Thread] [Fintype Thread]
  {requests : Thread → Request} {thread : Thread} {world : World Thread}
  {context : RequestContext} {params : TransactionParams}

abbrev Concluded (requests : Thread → Request) (thread : Thread) (params : TransactionParams) :
    Except ServiceError TransactionResponseDto → Server Thread → Prop :=
  Ends (Settled params) (Undecided requests thread)

/-! ## Existing rows -/

theorem meets_findExisting (key : TransactionKey) (idle : Idle requests thread world.server) :
    Meets requests thread (findExisting key.actorCustomerId key.type key.referenceId)
      (fun result server => Idle requests thread server ∧
        ∀ row, result = .ok (some row) →
          row ∈ server.database.transactions ∧ row.key = key) world := by
  refine meets_read idle idle_stable (fun _ => rfl)
    (fun _ _ idle => ⟨idle, fun _ absurd => by cases absurd⟩) ?_
  intro server newId now answer after idle responded
  cases responded
  refine ⟨rfl, idle, fun row found => ?_⟩
  have found := Except.ok.inj found
  have test := List.find?_some found
  exact ⟨List.mem_of_find?_eq_some found, by simpa using test⟩

variable (params) in
theorem meets_resolveExistingOrThrow {existing : Option Transaction} {type : TransactionType}
    (idle : Idle requests thread world.server)
    (found : ∀ row, existing = some row →
      row ∈ world.server.database.transactions ∧ row.key = params.key) :
    Meets requests thread (resolveExistingOrThrow existing type)
      (Ends (fun resolved server => match resolved with
          | some response => Settled params response server
          | none => Idle requests thread server) (Undecided requests thread)) world := by
  cases existing with
  | none => exact .pure idle
  | some row =>
      rcases found row rfl with ⟨member, key⟩
      simp only [resolveExistingOrThrow]
      split
      · rename_i completed
        exact .pure ⟨row, member, key, completed, rfl⟩
      · split
        · exact .throw idle.toUndecided
        · exact .pure idle

variable (params) in
theorem meets_fallbackOrThrow {err : ServiceError} (idle : Idle requests thread world.server) :
    Meets requests thread
      (fallbackOrThrow err params.actorCustomerId params.referenceId params.type)
      (Concluded requests thread params) world := by
  have resolves : Meets requests thread
      (resolveP2002Fallback err params.actorCustomerId params.referenceId params.type)
      (Ends (fun resolved server => match resolved with
          | some response => Settled params response server
          | none => Undecided requests thread server) (Undecided requests thread)) world := by
    unfold resolveP2002Fallback
    split
    · exact .pure idle.toUndecided
    · refine (meets_findExisting params.key idle).bind (fun _ _ holds => holds.1.toUndecided) ?_
      rintro existing between ⟨idle, found⟩
      cases existing with
      | none => exact .pure idle.toUndecided
      | some row =>
          rcases found row rfl with ⟨member, key⟩
          simp only
          split
          · rename_i completed
            exact .pure ⟨row, member, key, completed, rfl⟩
          · split
            · exact .throw idle.toUndecided
            · split <;> exact .throw idle.toUndecided
  refine resolves.bind (fun _ _ undecided => undecided) ?_
  rintro fallback between holds
  cases fallback with
  | some response => exact .pure holds
  | none => exact .throw holds

/-! ## Fraud rejections -/

/-- The open transaction holds the rejected row of the request and nothing else. -/
def Rejecting (requests : Thread → Request) (thread : Thread) (params : TransactionParams)
    (server : Server Thread) : Prop :=
  ∃ tx row, Working requests thread tx (fun _ => 0) server ∧
    Rejects (requests thread) tx params row

omit [Fintype Thread] in
theorem Rejecting.commits {server : Server Thread}
    (rejecting : Rejecting requests thread params server) :
    Commits requests thread (Idle requests thread) server := by
  rcases rejecting with ⟨tx, row, working, rejects⟩
  have committable : Committable (requests thread) server.database tx :=
    .reject params row rejects
  have effect : Effect (requests thread) thread server (server.commitTx thread tx) :=
    .commits tx (working.invariant.pending thread tx working.opened) committable
      (.inl working.opened)
  refine ⟨working.toUndecided, tx, working.opened, committable,
    ⟨effect.keeps working.invariant, ?_⟩, Server.commitTx_open tx⟩
  intro commit member own committed committedMember
  rcases List.mem_append.mp member with old | new
  · exact working.unmoved commit old own committed committedMember
  · rcases List.mem_singleton.mp new with rfl
    rw [rejects.transactions] at committedMember
    rcases List.mem_singleton.mp committedMember with rfl
    rw [rejects.rejected]
    decide

theorem meets_recordRejection {reason : Option String}
    (asks : (requests thread).params? = some params)
    (idle : Idle requests thread world.server) :
    Meets requests thread (recordRejection context params reason)
      (fun result server => (∃ error, result = .error error) ∧ Idle requests thread server)
      world := by
  have commits : Meets requests thread
      (transaction do
        let rejectedTransaction ← createRejectedTransaction params reason
        createFailedFraudEvent context params rejectedTransaction.id reason)
      (Ends (fun _ => Idle requests thread) (Idle requests thread)) world := by
    have stable : ∀ _ : Unit, Stable requests thread (Rejecting requests thread params) := by
      rintro _ before after rely ⟨tx, row, working, rejects⟩
      exact ⟨tx, row, working_stable before after rely working, rejects⟩
    refine meets_transaction idle stable (fun _ _ rejecting => rejecting.commits) ?_
    intro world working
    refine (meets_transactionCreate working).bind (fun _ _ undecided => undecided) ?_
    rintro row between ⟨⟨id, now, valid⟩, working⟩
    rcases rowOf_data valid with ⟨rowOf, rejected, decision⟩
    refine EnsuresResult.mono (meets_eventCreate working) ?_
    intro result final holds
    cases result with
    | error error => exact holds
    | ok value =>
        rcases holds with ⟨event, type, payload, working⟩
        exact ⟨_, row, working, asks, rowOf, rejected, decision, rfl,
          ⟨event, rfl, rowOf.announces type payload⟩, rfl, rfl⟩
  refine commits.bind (fun error _ idle => ⟨⟨error, rfl⟩, idle⟩) ?_
  intro _ between idle
  exact .throw ⟨⟨_, rfl⟩, idle⟩

/-! ## Calls -/

theorem meets_moneyTransaction {body : Service TransactionResponseDto}
    (idle : Idle requests thread world.server)
    (meets : ∀ world : World Thread, Working requests thread .empty (fun _ => 0) world.server →
      Meets requests thread body
        (Ends (Ready requests thread params) (Undecided requests thread)) world) :
    Meets requests thread (transaction body)
      (Ends (Settled params) (Idle requests thread)) world :=
  meets_transaction idle (fun _ => ready_stable) (fun _ _ ready => ready.commits) meets

variable (params) in
theorem meets_existingOr {rest : Service TransactionResponseDto}
    (idle : Idle requests thread world.server)
    (meets : ∀ world : World Thread, Idle requests thread world.server →
      Meets requests thread rest (Concluded requests thread params) world) :
    Meets requests thread
      (do
        let existing ← findExisting params.actorCustomerId params.type params.referenceId
        match ← resolveExistingOrThrow existing params.type with
        | some idempotentResult => pure idempotentResult
        | none => rest)
      (Concluded requests thread params) world := by
  refine (meets_findExisting params.key idle).bind (fun _ _ holds => holds.1.toUndecided) ?_
  rintro existing between ⟨idle, found⟩
  refine (meets_resolveExistingOrThrow params idle
    (fun row equal => found row (congrArg Except.ok equal))).bind (fun _ _ undecided => undecided)
    ?_
  intro resolved between holds
  cases resolved with
  | some response => exact .pure holds
  | none => exact meets between holds

theorem meets_createDeposit {userId : Uuid} {dto : CreateDepositRequestDto}
    (asks : (requests thread).params? = some (depositParams userId dto))
    (idle : Idle requests thread world.server) :
    Meets requests thread (createDeposit context userId dto)
      (Concluded requests thread (depositParams userId dto)) world := by
  refine meets_existingOr (depositParams userId dto) idle fun world idle => ?_
  exact EnsuresResult.tryCatch
    (meets_moneyTransaction idle fun _ working => meets_depositBody asks working)
    (fun _ _ settled => settled)
    fun _ _ idle => meets_fallbackOrThrow (depositParams userId dto) idle

variable (params) in
/-- What a call with a fraud check does in its `try` and `catch` blocks. -/
theorem meets_checked {evaluation : Service FraudDecisionResult} {release : Service Unit}
    {approved : FraudDecisionResult → Prop} {execution : Service TransactionResponseDto}
    (asks : (requests thread).params? = some params)
    (evaluates : ∀ world : World Thread, Idle requests thread world.server →
      Passes requests thread evaluation approved world)
    (releases : ∀ world : World Thread, Idle requests thread world.server →
      Passes requests thread release (fun _ => True) world)
    (executes : ∀ result, approved result → result.decision ≠ .reject → ∀ world : World Thread,
      Idle requests thread world.server →
      Meets requests thread execution
        (Ends (Settled params) (Idle requests thread)) world)
    (idle : Idle requests thread world.server) :
    Meets requests thread
      (tryCatch
        (do
          let preFraudResult ← evaluation
          if preFraudResult.decision = .reject then
            recordRejection context params preFraudResult.reason
          else execution)
        fun err => do
          if err.code ≠ some "P2002" then release
          fallbackOrThrow err params.actorCustomerId params.referenceId params.type)
      (Concluded requests thread params) world := by
  have tried : Meets requests thread
      (do
        let preFraudResult ← evaluation
        if preFraudResult.decision = .reject then
          recordRejection context params preFraudResult.reason
        else execution)
      (Ends (Settled params) (Idle requests thread)) world := by
    refine (evaluates world idle).bind fun result between isApproved idle => ?_
    by_cases rejected : result.decision = .reject
    · rw [if_pos rejected]
      refine EnsuresResult.mono (meets_recordRejection asks idle) ?_
      rintro _ final ⟨⟨error, rfl⟩, idle⟩
      exact idle
    · rw [if_neg rejected]
      exact executes result isApproved rejected between idle
  refine tried.tryCatch (fun _ _ settled => settled) fun err between idle => ?_
  by_cases conflict : err.code ≠ some "P2002"
  · rw [if_pos conflict]
    exact (releases between idle).bind fun _ _ _ idle => meets_fallbackOrThrow params idle
  · rw [if_neg conflict]
    exact meets_fallbackOrThrow params idle

omit [DecidableEq Thread] [Fintype Thread] in
theorem counts_own (asks : (requests thread).params? = some params) (dayBucket : ℕ) :
    (requests thread).Counts ⟨params.type, params.actorCustomerId, dayBucket⟩ :=
  ⟨params, asks, rfl, rfl⟩

theorem meets_createWithdraw {config : FraudConfig} {userId : Uuid}
    {dto : CreateWithdrawRequestDto}
    (asks : (requests thread).params? = some (withdrawParams userId dto))
    (idle : Idle requests thread world.server) :
    Meets requests thread (createWithdraw config context userId dto)
      (Concluded requests thread (withdrawParams userId dto)) world := by
  refine meets_existingOr (withdrawParams userId dto) idle fun world idle => ?_
  exact meets_checked (withdrawParams userId dto) asks
    (fun _ idle => passes_evaluateWithdraw (counts_own asks) idle)
    (fun _ idle => passes_releaseReservation (counts_own asks) idle)
    (fun _ _ _ _ idle => meets_moneyTransaction idle fun _ working =>
      meets_withdrawBody asks working) idle

theorem meets_transferAttempts {userId : Uuid} {dto : CreateTransferRequestDto}
    (asks : (requests thread).params? = some (transferParams userId dto))
    (apart : dto.fromAccountId ≠ dto.toAccountId) (remaining : ℕ)
    (idle : Idle requests thread world.server) :
    Meets requests thread (transferAttempts context userId dto remaining)
      (Ends (Settled (transferParams userId dto)) (Idle requests thread)) world := by
  have attempt : ∀ world : World Thread, Idle requests thread world.server →
      Meets requests thread (transaction (transferBody context userId dto))
        (Ends (Settled (transferParams userId dto)) (Idle requests thread)) world :=
    fun _ idle => meets_moneyTransaction idle fun _ working =>
      meets_transferBody asks apart working
  induction remaining generalizing world with
  | zero => exact attempt world idle
  | succ remaining induction =>
      refine EnsuresResult.tryCatch (attempt world idle) (fun _ _ settled => settled) ?_
      intro err between idle
      by_cases retryable : isRetryableTransactionError err = true
      · rw [if_pos retryable]
        exact induction idle
      · rw [if_neg retryable]
        exact .throw idle

theorem meets_createTransfer {config : FraudConfig} {userId : Uuid}
    {dto : CreateTransferRequestDto}
    (asks : (requests thread).params? = some (transferParams userId dto))
    (idle : Idle requests thread world.server) :
    Meets requests thread (createTransfer config context userId dto)
      (Concluded requests thread (transferParams userId dto)) world := by
  refine meets_existingOr (transferParams userId dto) idle fun world idle => ?_
  exact meets_checked (transferParams userId dto) asks
    (fun _ idle => passes_evaluateTransfer (counts_own asks) idle)
    (fun _ idle => passes_releaseReservation (counts_own asks) idle)
    (fun _ apart approved _ idle =>
      meets_transferAttempts asks (apart approved) (transferRetryAttempts - 1) idle) idle

end BankingBackend
