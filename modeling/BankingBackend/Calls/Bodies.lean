import BankingBackend.Calls.Working

/-! # The transaction bodies

Each of the three bodies moves its money and completes its row, or throws with
its transaction still undecided.
-/

namespace BankingBackend

open Foundation Postgres Common Transactions

variable {Thread : Type} [DecidableEq Thread] [Fintype Thread]
  {requests : Thread → Request} {thread : Thread} {tx : Tx} {delta : Uuid → ℤ}
  {world : World Thread} {context : RequestContext} {params : TransactionParams}

/-- The response is the committed completed row of the request. -/
def Settled (params : TransactionParams) (response : TransactionResponseDto)
    (server : Server Thread) : Prop :=
  ∃ row ∈ server.database.transactions, row.key = params.key ∧ row.status = .completed ∧
    response = Transactions.toResponseDto row

def Ready (requests : Thread → Request) (thread : Thread) (params : TransactionParams)
    (response : TransactionResponseDto) (server : Server Thread) : Prop :=
  ∃ tx row, Working requests thread tx (Record.mk row params.amount).entry.effect server ∧
    Posts (requests thread) tx params row ∧ response = Transactions.toResponseDto row

omit [DecidableEq Thread] [Fintype Thread] in
theorem ready_stable {response : TransactionResponseDto} :
    Stable requests thread (Ready requests thread params response) := by
  rintro before after rely ⟨tx, row, working, posts, answers⟩
  exact ⟨tx, row, working_stable before after rely working, posts, answers⟩

omit [Fintype Thread] in
theorem Ready.commits {response : TransactionResponseDto} {server : Server Thread}
    (ready : Ready requests thread params response server) :
    Commits requests thread (Settled params response) server := by
  rcases ready with ⟨tx, row, working, posts, answers⟩
  refine ⟨working.toUndecided, tx, working.opened,
    .post params row posts working.versions working.reads, row, ?_, posts.rowOf.key,
    posts.completed, answers⟩
  simp [Tx.applyTo, posts.transactions]

variable (params) in
theorem meets_completion {row : Transaction}
    (working : Working requests thread tx (Record.mk row params.amount).entry.effect world.server)
    (moves : Moves (requests thread) tx params row) (transactions : tx.transactions = [row])
    (events : tx.events = []) :
    Meets requests thread
      (do
        let completedTransaction ← markCompleted row.id
        createCompletedEvent context params completedTransaction.id
        pure (Transactions.toResponseDto completedTransaction))
      (Ends (Ready requests thread params) (Undecided requests thread)) world := by
  refine (meets_markCompleted working).bind (fun _ _ undecided => undecided) ?_
  rintro completed between ⟨⟨found, member, same, rfl⟩, working⟩
  rw [transactions, List.mem_singleton] at member
  subst member
  refine (meets_eventCreate working).bind (fun _ _ undecided => undecided) ?_
  rintro _ between ⟨event, type, payload, working⟩
  refine .pure ⟨_, { found with status := .completed }, working, ⟨?_, rfl, ?_, event, ?_, ?_⟩, rfl⟩
  · exact ⟨moves.asks, moves.rowOf.complete, moves.created, moves.parties, moves.written,
      moves.owned, moves.apart⟩
  · simp [Tx.setStatus, Tx.insertEvent, transactions]
  · simp [Tx.setStatus, Tx.insertEvent, events]
  · exact moves.rowOf.complete.announces type payload

/-! ## Deposit -/

theorem meets_depositBody {userId : Uuid} {dto : CreateDepositRequestDto}
    (asks : (requests thread).params? = some (depositParams userId dto))
    (working : Working requests thread .empty (fun _ => 0) world.server) :
    Meets requests thread (depositBody context userId dto)
      (Ends (Ready requests thread (depositParams userId dto)) (Undecided requests thread)) world := by
  have nonneg : 0 ≤ dto.amount := le_trans (by norm_num) dto.amountMin
  have actor : userId = (requests thread).userId := Request.params?_actor asks
  refine (meets_getAccountOrThrow working rfl).bind (fun _ _ undecided => undecided) ?_
  rintro account between ⟨parsed, working⟩
  refine (meets_ensureOwnedByUserOrThrow working).bind (fun _ _ undecided => undecided) ?_
  rintro _ between ⟨owned, working⟩
  refine (meets_ensureActiveOrThrow working).bind (fun _ _ undecided => undecided) ?_
  rintro _ between ⟨active, working⟩
  refine (meets_transactionCreate working).bind (fun _ _ undecided => undecided) ?_
  rintro row between ⟨⟨id, now, valid⟩, working⟩
  have rowOf := (rowOf_data valid).1
  refine (meets_incrementBalance nonneg working).bind (fun _ _ undecided => undecided) ?_
  rintro _ between ⟨written, parsedWritten, working⟩
  have same : written.id = account.id := Option.some.inj (parsedWritten.symm.trans parsed)
  have credited : row.toAccountId = some account.id := rowOf.to_some rfl parsed
  have debited : row.fromAccountId = none := rowOf.from_none rfl
  have effect : (fun key => 0 + if key = written.id then Money.creditCents dto.amount else 0) =
      (Record.mk row dto.amount).entry.effect := by
    funext key
    simp [Record.entry, Entry.effect, credited, debited, same, eq_comm]
  rw [effect] at working
  refine meets_completion (depositParams userId dto) working ?_ rfl rfl
  refine ⟨asks, rowOf, rfl, ?_, ?_, ?_, fun absurd => by cases absurd⟩
  · intro id party
    rw [credited, debited] at party
    exact ⟨account, List.mem_singleton_self account, by simpa using party, active⟩
  · intro id locked
    by_cases equal : id = written.id
    · exact .inr (by rw [credited, equal, same])
    · simp [Tx.empty, Tx.read, Tx.insertTransaction, Tx.writeAccount, equal] at locked
  · refine ⟨account, List.mem_singleton_self account, ?_, owned.trans actor⟩
    simp [Record.ownedAccount, rowOf.type, depositParams, credited]

/-! ## Withdraw -/

theorem meets_withdrawBody {userId : Uuid} {dto : CreateWithdrawRequestDto}
    (asks : (requests thread).params? = some (withdrawParams userId dto))
    (working : Working requests thread .empty (fun _ => 0) world.server) :
    Meets requests thread (withdrawBody context userId dto)
      (Ends (Ready requests thread (withdrawParams userId dto)) (Undecided requests thread)) world := by
  have actor : userId = (requests thread).userId := Request.params?_actor asks
  refine (meets_getAccountOrThrow working rfl).bind (fun _ _ undecided => undecided) ?_
  rintro account between ⟨parsed, working⟩
  refine (meets_ensureOwnedByUserOrThrow working).bind (fun _ _ undecided => undecided) ?_
  rintro _ between ⟨owned, working⟩
  refine (meets_ensureActiveOrThrow working).bind (fun _ _ undecided => undecided) ?_
  rintro _ between ⟨active, working⟩
  refine (meets_transactionCreate working).bind (fun _ _ undecided => undecided) ?_
  rintro row between ⟨⟨id, now, valid⟩, working⟩
  have rowOf := (rowOf_data valid).1
  refine (meets_decrementBalance working).bind (fun _ _ undecided => undecided) ?_
  rintro count between ⟨undecided, decremented⟩
  by_cases one : count = 1
  · rw [if_neg (not_not.mpr one)]
    rcases decremented one with ⟨written, parsedWritten, working⟩
    have same : written.id = account.id := Option.some.inj (parsedWritten.symm.trans parsed)
    have debited : row.fromAccountId = some account.id := rowOf.from_some rfl parsed
    have credited : row.toAccountId = none := rowOf.to_none rfl
    have effect :
        (fun key => 0 + if key = written.id then -Money.debitCents dto.amount else 0) =
          (Record.mk row dto.amount).entry.effect := by
      funext key
      by_cases equal : account.id = key <;>
        simp [Record.entry, Entry.effect, credited, debited, same, equal, eq_comm (a := key)]
    rw [effect] at working
    refine meets_completion (withdrawParams userId dto) working ?_ rfl rfl
    refine ⟨asks, rowOf, rfl, ?_, ?_, ?_, fun absurd => by cases absurd⟩
    · intro id party
      rw [credited, debited] at party
      exact ⟨account, List.mem_singleton_self account, by simpa using party, active⟩
    · intro id locked
      by_cases equal : id = written.id
      · exact .inl (by rw [debited, equal, same])
      · simp [Tx.empty, Tx.read, Tx.insertTransaction, Tx.writeAccount, equal] at locked
    · refine ⟨account, List.mem_singleton_self account, ?_, owned.trans actor⟩
      simp [Record.ownedAccount, rowOf.type, withdrawParams, debited]
  · rw [if_pos one]
    exact .throw undecided

/-! ## Transfer -/

/-- What one turn of the loop adds to the account it is about. -/
def turnCents (dto : CreateTransferRequestDto) (text : String) : ℤ :=
  if text = dto.fromAccountId then -Money.debitCents dto.amount
  else Money.creditCents dto.amount

theorem meets_moveMoney {dto : CreateTransferRequestDto} {text : String}
    (named : text = dto.fromAccountId ∨ text = dto.toAccountId)
    (working : Working requests thread tx delta world.server) :
    Meets requests thread (moveMoney dto text)
      (Ends (fun _ server => ∃ written, Uuid.parse? text = some written.id ∧
          Working requests thread (tx.writeAccount written)
            (fun key => delta key + if key = written.id then turnCents dto text else 0) server)
        (Undecided requests thread)) world := by
  have nonneg : 0 ≤ dto.amount := le_trans (by norm_num) dto.amountMin
  unfold moveMoney
  by_cases debit : text = dto.fromAccountId
  · rw [if_pos debit]
    refine (meets_decrementBalance working).bind (fun _ _ undecided => undecided) ?_
    rintro count between ⟨undecided, decremented⟩
    by_cases one : count = 1
    · rw [if_neg (not_not.mpr one)]
      rcases decremented one with ⟨written, parsed, working⟩
      exact .pure ⟨written, debit ▸ parsed, by simpa [turnCents, debit] using working⟩
    · rw [if_pos one]
      exact .throw undecided
  · rw [if_neg debit]
    have credit := named.resolve_left debit
    refine EnsuresResult.mono (meets_incrementBalance nonneg working) ?_
    intro result final holds
    cases result with
    | ok value =>
        rcases holds with ⟨written, parsed, working⟩
        exact ⟨written, credit ▸ parsed, by simpa [turnCents, debit] using working⟩
    | error error => exact holds

theorem lockOrder_cases (dto : CreateTransferRequestDto) :
    lockOrder dto = (dto.fromAccountId, dto.toAccountId) ∨
      lockOrder dto = (dto.toAccountId, dto.fromAccountId) := by
  unfold lockOrder
  split
  · exact .inl rfl
  · exact .inr rfl

omit [DecidableEq Thread] [Fintype Thread] in
/-- In either order the two turns make the entry of the transfer. -/
theorem transfer_effect {dto : CreateTransferRequestDto} {row : Transaction}
    {fromId toId : Uuid} (apart : dto.fromAccountId ≠ dto.toAccountId)
    (debited : row.fromAccountId = some fromId) (credited : row.toAccountId = some toId)
    (key : Uuid) :
    (if key = fromId then turnCents dto dto.fromAccountId else 0) +
        (if key = toId then turnCents dto dto.toAccountId else 0) =
      (Record.mk row dto.amount).entry.effect key := by
  simp only [Record.entry, Entry.effect, credited, debited, turnCents, if_true,
    if_neg (Ne.symm apart), Option.some.injEq, eq_comm (a := key)]
  split <;> split <;> omega

theorem meets_transferBody {userId : Uuid} {dto : CreateTransferRequestDto}
    (asks : (requests thread).params? = some (transferParams userId dto))
    (apart : dto.fromAccountId ≠ dto.toAccountId)
    (working : Working requests thread .empty (fun _ => 0) world.server) :
    Meets requests thread (transferBody context userId dto)
      (Ends (Ready requests thread (transferParams userId dto)) (Undecided requests thread)) world := by
  have actor : userId = (requests thread).userId := Request.params?_actor asks
  refine (meets_getAccountOrThrow working rfl).bind (fun _ _ undecided => undecided) ?_
  rintro fromAccount between ⟨fromParsed, working⟩
  refine (meets_getAccountOrThrow working rfl).bind (fun _ _ undecided => undecided) ?_
  rintro toAccount between ⟨toParsed, working⟩
  refine (meets_ensureOwnedByUserOrThrow working).bind (fun _ _ undecided => undecided) ?_
  rintro _ between ⟨owned, working⟩
  refine (meets_ensureActiveOrThrow working).bind (fun _ _ undecided => undecided) ?_
  rintro _ between ⟨fromActive, working⟩
  refine (meets_ensureActiveOrThrow working).bind (fun _ _ undecided => undecided) ?_
  rintro _ between ⟨toActive, working⟩
  refine (meets_transactionCreate working).bind (fun _ _ undecided => undecided) ?_
  rintro row between ⟨⟨id, now, valid⟩, working⟩
  have rowOf := (rowOf_data valid).1
  have debited : row.fromAccountId = some fromAccount.id := rowOf.from_some rfl fromParsed
  have credited : row.toAccountId = some toAccount.id := rowOf.to_some rfl toParsed
  have order := lockOrder_cases dto
  refine (meets_moveMoney (by rcases order with order | order <;> simp [order]) working).bind
    (fun _ _ undecided => undecided) ?_
  rintro _ between ⟨first, firstParsed, working⟩
  refine (meets_moveMoney (by rcases order with order | order <;> simp [order]) working).bind
    (fun _ _ undecided => undecided) ?_
  rintro _ between ⟨second, secondParsed, working⟩
  -- The two rows written are those of the two accounts, in one order or the other.
  have rows : (fun key => 0 + (if key = first.id then turnCents dto (lockOrder dto).1 else 0) +
        if key = second.id then turnCents dto (lockOrder dto).2 else 0) =
        (Record.mk row dto.amount).entry.effect ∧
      ∀ id, id = first.id ∨ id = second.id → id = fromAccount.id ∨ id = toAccount.id := by
    rcases order with order | order
    · rw [order] at firstParsed secondParsed ⊢
      have firstSame := Option.some.inj (firstParsed.symm.trans fromParsed)
      have secondSame := Option.some.inj (secondParsed.symm.trans toParsed)
      refine ⟨funext fun key => ?_, fun id written => by rwa [firstSame, secondSame] at written⟩
      rw [zero_add, firstSame, secondSame, transfer_effect apart debited credited]
    · rw [order] at firstParsed secondParsed ⊢
      have firstSame := Option.some.inj (firstParsed.symm.trans toParsed)
      have secondSame := Option.some.inj (secondParsed.symm.trans fromParsed)
      refine ⟨funext fun key => ?_, fun id written => by
        rw [firstSame, secondSame] at written
        exact written.symm⟩
      rw [zero_add, firstSame, secondSame, add_comm, transfer_effect apart debited credited]
  rw [rows.1] at working
  refine meets_completion (transferParams userId dto) working ?_ rfl rfl
  refine ⟨asks, rowOf, rfl, ?_, ?_, ?_, fun _ same => apart (Option.some.inj same)⟩
  · intro id party
    rw [credited, debited] at party
    rcases party with party | party
    · exact ⟨fromAccount, by simp [Tx.empty, Tx.read, Tx.insertTransaction, Tx.writeAccount],
        Option.some.inj party, fromActive⟩
    · exact ⟨toAccount, by simp [Tx.empty, Tx.read, Tx.insertTransaction, Tx.writeAccount],
        Option.some.inj party, toActive⟩
  · intro id locked
    have written : id = first.id ∨ id = second.id := by
      by_contra neither
      rw [not_or] at neither
      simp [Tx.empty, Tx.read, Tx.insertTransaction, Tx.writeAccount, neither] at locked
    rw [credited, debited]
    exact (rows.2 id written).imp (congrArg some ·.symm) (congrArg some ·.symm)
  · refine ⟨fromAccount, by simp [Tx.empty, Tx.read, Tx.insertTransaction, Tx.writeAccount],
      ?_, owned.trans actor⟩
    simp [Record.ownedAccount, rowOf.type, transferParams, debited]

end BankingBackend
