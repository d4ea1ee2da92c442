import BankingBackend.Calls.Interleaving

/-! # Money moves exactly once

Whatever the interleaving, the retries and the failing statements, a request moves
its money in one step together with its completed row, or not at all.
-/

namespace BankingBackend

open Foundation Postgres Common Fraud Transactions

/-! ## Single steps -/

/-- Neither a balance nor the completed rows change. -/
structure LeavesMoney (before after : Database) : Prop where
  cents : ∀ id, after.cents id = before.cents id
  rows : ∃ rows, after.transactions = before.transactions ++ rows ∧
    ∀ row ∈ rows, row.status ≠ .completed

/-- One completed row is added, and with it the credit and the debit of its
request are applied, to the accounts the row names. -/
structure MovesMoney (params : TransactionParams) (row : Transaction)
    (before after : Database) : Prop where
  rows : after.transactions = before.transactions ++ [row]
  completed : row.status = .completed
  describes : RowOf params row
  cents : ∀ id, after.cents id = before.cents id +
    ((if row.toAccountId = some id then Money.creditCents params.amount else 0) -
      if row.fromAccountId = some id then Money.debitCents params.amount else 0)

section Steps

variable {Thread : Type} [DecidableEq Thread] {requests : Thread → Request} {thread : Thread}
  {before after : Server Thread}

theorem LeavesMoney.refl (database : Database) : LeavesMoney database database where
  cents _ := rfl
  rows := ⟨[], by simp, fun _ member => by cases member⟩

theorem Effect.money (effect : Effect (requests thread) thread before after) :
    LeavesMoney before.database after.database ∨
      ∃ params row, (requests thread).params? = some params ∧
        MovesMoney params row before.database after.database ∧
        ∃ commit ∈ after.log, commit.thread = thread ∧ row ∈ commit.tx.transactions := by
  cases effect with
  | unchanged => exact .inl (.refl _)
  | works => exact .inl (.refl _)
  | commits tx pending committable =>
      rcases committable.moves pending.keepsIds with ⟨cents, rows⟩ | ⟨params, row, posts, cents⟩
      · exact .inl ⟨cents, tx.transactions, rfl, rows⟩
      · refine .inr ⟨params, row, posts.asks, ⟨?_, posts.completed, posts.rowOf, cents⟩,
          ⟨thread, tx⟩, by simp, rfl, by simp [posts.transactions]⟩
        simp [Tx.applyTo, posts.transactions]

theorem Effect.log (effect : Effect (requests thread) thread before after)
    {commit : Commit Thread} (member : commit ∈ before.log) : commit ∈ after.log := by
  cases effect with
  | unchanged => exact member
  | works => exact member
  | commits tx => exact List.mem_append_left _ member

end Steps

/-! ## Runs -/

section Runs

variable {Thread : Type} [DecidableEq Thread] [Fintype Thread]
  {config : FraudConfig} {requests : Thread → Request}
  {current following : Configuration Thread}

theorem Reachable.log (reachable : Reachable config requests current)
    (run : Run step Unrestricted current following) {commit : Commit Thread}
    (member : commit ∈ current.shared.server.log) : commit ∈ following.shared.server.log := by
  have grows : Reachable config requests following ∧ commit ∈ following.shared.server.log := by
    refine run.invariant
      (fun between =>
        Reachable config requests between ∧ commit ∈ between.shared.server.log)
      ⟨reachable, member⟩ ?_
    rintro between label next ⟨reachable, member⟩ _ taken
    refine ⟨reachable.next taken, ?_⟩
    rcases reachable.step_cases taken with same | ⟨thread, choice, _, effect⟩
    · rwa [same]
    · exact effect.log member
  exact grows.2

structure ExactlyOnce (config : FraudConfig) (requests : Thread → Request) : Prop where
  /-- At most one row per customer, type and reference. -/
  oneRow : ∀ current, Reachable config requests current →
    (current.shared.server.database.transactions.map Transaction.key).Nodup
  /-- Balances change only together with a new completed row of the acting call. -/
  onlyRows : ∀ current label following, Reachable config requests current →
    step current label = some following →
    LeavesMoney current.shared.server.database following.shared.server.database ∨
      ∃ thread choice params row, label = .perform thread choice ∧
        (requests thread).params? = some params ∧
        MovesMoney params row current.shared.server.database following.shared.server.database
  /-- No step of a call that throws has moved money. -/
  throwsUnmoved : ∀ current thread choice following final error,
    Reachable config requests current → step current (.perform thread choice) = some following →
    Run step Unrestricted following final → final.program thread = .done (.error error) →
    LeavesMoney current.shared.server.database following.shared.server.database
  /-- A returned transaction is the one completed row of its request. -/
  returnsRow : ∀ current thread params response, Reachable config requests current →
    (requests thread).params? = some params → current.program thread = .done (.ok response) →
    ∃ row ∈ current.shared.server.database.transactions, row.key = params.key ∧
      row.status = .completed ∧ response = .transaction (Transactions.toResponseDto row)

theorem exactly_once (config : FraudConfig) (requests : Thread → Request) :
    ExactlyOnce config requests where
  oneRow current reachable := reachable.invariant.keys
  onlyRows current label following reachable taken := by
    rcases reachable.step_cases taken with same | ⟨thread, choice, performed, effect⟩
    · exact .inl (same ▸ .refl _)
    · rcases effect.money with leaves | ⟨params, row, asks, moves, _⟩
      · exact .inl leaves
      · exact .inr ⟨thread, choice, params, row, performed, asks, moves⟩
  throwsUnmoved current thread choice following final error reachable taken run ended := by
    rcases (reachable.effect taken).money with leaves | ⟨params, row, _, moves, commit, member,
      own, rowMember⟩
    · exact leaves
    · have reachableNext := reachable.next taken
      have undecided : Undecided requests thread final.shared.server :=
        (reachableNext.runs run).ended ended
      have logged := reachableNext.log run member
      exact absurd moves.completed (undecided.unmoved commit logged own row rowMember)
  returnsRow current thread params response reachable asks ended := by
    have answers : Answers (requests thread) response current.shared.server :=
      reachable.ended ended
    unfold Answers at answers
    rw [asks] at answers
    cases response with
    | transaction dto =>
        rcases answers with ⟨row, member, key, completed, returned⟩
        exact ⟨row, member, key, completed, by rw [returned]⟩
    | account dto => exact answers.elim
    | accounts dtos => exact answers.elim

end Runs

end BankingBackend
