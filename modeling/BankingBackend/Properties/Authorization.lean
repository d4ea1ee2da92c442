import BankingBackend.Properties.Conservation

/-! # Authorization -/

namespace BankingBackend

open Foundation Postgres Redis Common Fraud Transactions Accounts

/-- The accounts whose balance a response shows. -/
def Response.shown : Response → List AccountResponseDto
  | .transaction _ => []
  | .account dto => [dto]
  | .accounts dtos => dtos

structure Authorized {Thread : Type} [DecidableEq Thread] [Fintype Thread]
    (config : FraudConfig) (requests : Thread → Request) : Prop where
  /-- An account keeps its customer. -/
  owners : ∀ current label following, Reachable config requests current →
    step current label = some following →
    ∀ id account, current.shared.server.database.account? id = some account →
      ∃ kept, following.shared.server.database.account? id = some kept ∧
        kept.customerId = account.customerId
  /-- Completed deposits go to, and completed withdrawals and transfers come from, an
  account of their actor. -/
  rows : ∀ current, Reachable config requests current →
    ∀ row ∈ current.shared.server.database.transactions, row.status = .completed →
      ∃ account, current.shared.server.database.account? account.id = some account ∧
        account.customerId = row.actorCustomerId ∧
        (if row.type = .deposit then row.toAccountId else row.fromAccountId) = some account.id
  /-- No step of a call takes money from, or changes the status of, the account of
  another customer. -/
  foreign : ∀ current thread choice following, Reachable config requests current →
    step current (.perform thread choice) = some following →
    ∀ id account, current.shared.server.database.account? id = some account →
      account.customerId ≠ (requests thread).userId →
      ∃ kept, following.shared.server.database.account? id = some kept ∧
        kept.status = account.status ∧ account.balance.cents ≤ kept.balance.cents
  /-- A response shows the balances of the caller's own accounts only. -/
  shown : ∀ current thread response, Reachable config requests current →
    current.program thread = .done (.ok response) → ∀ dto ∈ response.shown,
      Owns current.shared.server.database (requests thread).userId dto.id

section Runs

variable {Thread : Type} [DecidableEq Thread] [Fintype Thread]

omit [Fintype Thread] in
private theorem foreign_kept {requests : Thread → Request} {thread : Thread}
    {before after : Server Thread} (effect : Effect (requests thread) thread before after)
    (invariant : Invariant requests before) {id : Uuid} {account : Account}
    (found : before.database.account? id = some account)
    (foreign : account.customerId ≠ (requests thread).userId) :
    ∃ kept, after.database.account? id = some kept ∧ kept.status = account.status ∧
      account.balance.cents ≤ kept.balance.cents := by
  have held : (ledgerOf requests before).holdings id = some (holdingOf account) := by
    simp [ledgerOf, found]
  have respected : ∃ holding, (ledgerOf requests after).holdings id = some holding ∧
      holding.status = account.status ∧ account.balance.cents ≤ holding.cents := by
    rcases effect.ledger invariant with same | step
    · exact ⟨holdingOf account, by rw [same, held], rfl, le_rfl⟩
    · rcases step.respects held foreign with ⟨holding, keptHeld, _, status, cents⟩
      exact ⟨holding, keptHeld, status, cents⟩
  rcases respected with ⟨holding, keptHeld, status, cents⟩
  rcases Option.map_eq_some_iff.mp keptHeld with ⟨kept, keptFound, rfl⟩
  exact ⟨kept, keptFound, status, cents⟩

theorem authorization (config : FraudConfig) (requests : Thread → Request) :
    Authorized config requests where
  owners current label following reachable taken id account found := by
    rcases reachable.step_cases taken with same | ⟨thread, choice, _, effect⟩
    · exact ⟨account, by rw [same, found], rfl⟩
    · rcases effect.persists reachable.invariant found with ⟨kept, keptFound, owner, _⟩
      exact ⟨kept, keptFound, owner⟩
  rows current reachable row member completed := by
    have invariant := reachable.invariant
    rw [invariant.rows] at member
    rcases List.mem_map.mp member with ⟨record, recordMember, rfl⟩
    rcases invariant.sound.owned record recordMember completed with
      ⟨id, holding, owned, held, owner⟩
    rcases Option.map_eq_some_iff.mp held with ⟨account, found, rfl⟩
    have same := Database.account?_id found
    refine ⟨account, same ▸ found, owner, ?_⟩
    rw [same, ← owned]
    unfold Record.ownedAccount
    cases record.row.type <;> rfl
  foreign current thread choice following reachable taken _ _ found foreign :=
    foreign_kept (reachable.effect taken) reachable.invariant found foreign
  shown current thread response reachable ended dto member := by
    have answers : Answers (requests thread) response current.shared.server :=
      reachable.ended ended
    unfold Answers at answers
    split at answers
    · cases member
    · rcases List.mem_singleton.mp member with rfl
      exact answers
    · exact answers dto member
    · exact answers.elim

end Runs

/-! ## Transfers to the same account -/

/-- The two texts of a transfer are equal whenever they denote one account. -/
def SpelledAlike (request : Request) : Prop :=
  ∀ dto, request.operation = .createTransfer dto →
    Uuid.parse? dto.fromAccountId = Uuid.parse? dto.toAccountId →
    dto.fromAccountId = dto.toAccountId

section Runs

variable {Thread : Type} [DecidableEq Thread] [Fintype Thread]
  {config : FraudConfig} {requests : Thread → Request} {current : Configuration Thread}

/-- The fraud rule compares texts, so it excludes a transfer to the same account
when no account is spelled in two ways. -/
theorem no_self_transfer (reachable : Reachable config requests current)
    (alike : ∀ thread, SpelledAlike (requests thread)) :
    ∀ row ∈ current.shared.server.database.transactions, row.status = .completed →
      row.type = .transfer → row.fromAccountId ≠ row.toAccountId := by
  refine reachable.posted fun thread tx params row posts transfer same => ?_
  have type : params.type = .transfer := posts.rowOf.type.symm.trans transfer
  have apart := posts.apart type
  have texts : parseOptional params.fromAccountId = parseOptional params.toAccountId := by
    rw [posts.rowOf.fromAccount, posts.rowOf.toAccount, same]
  have asks := posts.asks
  have alikeHere := alike thread
  rcases shape : requests thread with ⟨userId, context, operation⟩
  rw [shape] at asks alikeHere
  cases operation <;> cases asks
  · cases type
  · cases type
  · rename_i dto
    have values : Uuid.parse? dto.fromAccountId = Uuid.parse? dto.toAccountId :=
      Option.map_injective (Option.some_injective _) texts
    exact apart (congrArg some (alikeHere dto rfl values))

end Runs

/-! ### An account in two letter cases -/

def upperText : String := "3F2504E0-4F89-41D3-9A0C-0305E82C3301"

/-- A transfer from an account to itself, spelled in lower and in upper case. -/
def selfTransfer : Operation :=
  .createTransfer
    ((CreateTransferRequestDto.validate 3 "transfer" upperText sampleText).get (by decide +kernel))

def selfTransferRequests : Fin 3 → Request
  | 0 => { userId := ⟨7⟩, operation := .createAccount ⟨.USD⟩ }
  | 1 => { userId := ⟨7⟩, operation := sampleDeposit }
  | 2 => { userId := ⟨7⟩, operation := selfTransfer }

def selfTransferRun : List (Label (Fin 3)) :=
  [act 0, act 0 sampleId, act 0] ++ List.replicate 8 (act 1) ++ List.replicate 15 (act 2 1)

private theorem selfTransfer_leads : leadsTo {} selfTransferRequests selfTransferRun
    (fun current => current.shared.server.database.transactions.any fun row =>
      row.status == .completed && row.type == .transfer &&
        row.fromAccountId == row.toAccountId) = true := by decide +kernel

theorem selfTransfer_completes : ∃ current, Reachable {} selfTransferRequests current ∧
    ∃ row ∈ current.shared.server.database.transactions, row.status = .completed ∧
      row.type = .transfer ∧ row.fromAccountId = row.toAccountId := by
  rcases exists_reachable selfTransfer_leads with ⟨current, reachable, passed⟩
  rcases List.any_eq_true.mp passed with ⟨row, member, same⟩
  simp only [Bool.and_eq_true, beq_iff_eq] at same
  exact ⟨current, reachable, row, member, same.1.1, same.1.2, same.2⟩

private theorem exchange_alike (thread : Fin 4) : SpelledAlike (exchangeRequests thread) := by
  intro dto transfer
  match thread with
  | 0 => cases transfer
  | 1 => cases transfer
  | 2 => cases transfer
  | 3 =>
      cases transfer
      exact fun equal => absurd equal (by decide +kernel)

private theorem exchange_transfers : leadsTo {} exchangeRequests exchangeRun
    (fun current => current.shared.server.database.transactions.any fun row =>
      row.status == .completed && row.type == .transfer) = true := by decide +kernel

theorem no_self_transfer_exchange : ∃ current, Reachable {} exchangeRequests current ∧
    (∃ row ∈ current.shared.server.database.transactions,
      row.status = .completed ∧ row.type = .transfer) ∧
    ∀ row ∈ current.shared.server.database.transactions, row.status = .completed →
      row.type = .transfer → row.fromAccountId ≠ row.toAccountId := by
  rcases exists_reachable exchange_transfers with ⟨current, reachable, passed⟩
  rcases List.any_eq_true.mp passed with ⟨row, member, same⟩
  simp only [Bool.and_eq_true, beq_iff_eq] at same
  exact ⟨current, reachable, ⟨row, member, same⟩, no_self_transfer reachable exchange_alike⟩

end BankingBackend
