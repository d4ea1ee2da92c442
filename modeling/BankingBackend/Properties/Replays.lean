import BankingBackend.Calls.Journaling
import BankingBackend.Foundation.Execution

/-! # Repeated requests

Every committed row is decided, so a request whose row is committed is answered from
the row, as the call was that committed it, and changes nothing.
-/

namespace BankingBackend

open Foundation Foundation.Program Postgres Common Fraud Transactions

/-- Run on its own with statements that do not fail, the program gives the answer and leaves
the state alone. -/
def AnswersWith {Thread α : Type} [DecidableEq Thread] [Fintype Thread] (world : World Thread)
    (program : Service α) (answer : Except ServiceError α) : Prop :=
  ∀ thread result final, ExecutesResult ((machine Thread).perform thread)
    (fun _ choice => choice.failure = none) program world result final ↔
      result = answer ∧ final = world

/-- Whatever is asked again is answered as it was the first time. -/
structure ReplaysStable {Thread : Type} [DecidableEq Thread] [Fintype Thread]
    (config : FraudConfig) (requests : Thread → Request) : Prop where
  decided : ∀ current, Reachable config requests current →
    ∀ row ∈ current.shared.server.database.transactions, Decided row
  /-- The check in front of the transaction never falls through on a committed row. -/
  resolves : ∀ current, Reachable config requests current →
    ∀ row ∈ current.shared.server.database.transactions,
      AnswersWith current.shared
        (do
          let existing ← findExisting row.actorCustomerId row.type row.referenceId
          resolveExistingOrThrow existing row.type) (some <$> replay row)
  /-- The fallback behind the transaction gives the same answer. -/
  fallsBack : ∀ current, Reachable config requests current →
    ∀ row ∈ current.shared.server.database.transactions, ∀ err : ServiceError,
      err.code = some "P2002" → AnswersWith current.shared
        (resolveP2002Fallback err row.actorCustomerId row.referenceId row.type)
        (some <$> replay row)
  /-- So did the call that committed the row. -/
  first : ∀ current, Reachable config requests current →
    ∀ commit ∈ current.shared.server.log, ∀ row ∈ commit.tx.transactions, ∀ result,
      current.program commit.thread = .done result → result = .transaction <$> replay row
  /-- A call that begins when its row is committed changes nothing, and gives the answer
  unless its lookup fails. -/
  later : ∀ current, Reachable config requests current →
    ∀ row ∈ current.shared.server.database.transactions, ∀ thread params,
      (requests thread).params? = some params → row.key = params.key →
      current.program thread = (handle config (requests thread)).run →
      ∀ final, Run step Unrestricted current final →
        (∀ choice following, step final (.perform thread choice) = some following →
          following.shared = final.shared ∧ ∃ result, following.program thread = .done result ∧
            (choice.failure = none → result = .transaction <$> replay row)) ∧
        ∀ result, final.program thread = .done result →
          result = .transaction <$> replay row ∨ ∃ error, result = .error (.database error)

/-! ## The two case analyses -/

section Rows

variable {row : Transaction}

theorem resolveExistingOrThrow_decided (decided : Decided row) :
    (resolveExistingOrThrow (some row) row.type).run = .done (some <$> replay row) := by
  rcases decided with completed | ⟨rejected, decision⟩
  · simp [resolveExistingOrThrow, replay, completed]
  · simp [resolveExistingOrThrow, replay, rejected, isFraudRejection, decision]

theorem resolveP2002Fallback_decided (decided : Decided row) {err : ServiceError}
    (conflict : err.code = some "P2002") (userId : Uuid) (referenceId : String) :
    ∃ next, (resolveP2002Fallback err userId referenceId row.type).run = .call
        (.query (.transactionFindFirst ⟨userId, row.type, referenceId⟩)) next ∧
      next (.ok (some row)) = .done (some <$> replay row) := by
  unfold resolveP2002Fallback
  rw [if_neg (not_not.mpr conflict)]
  refine ⟨_, rfl, ?_⟩
  change (if row.status = .completed then pure (some (Transactions.toResponseDto row))
    else if isFraudRejection row then
      throw (.http (.badRequest (getFraudRejectionMessage row.type row.fraudReason)))
    else if row.status = .pending then
      throw (.http (.conflict "Transaction request is still in progress"))
    else throw (.http (.badRequest "Transaction request could not be processed")) :
      Service (Option TransactionResponseDto)).run = _
  rcases decided with completed | ⟨rejected, decision⟩
  · simp [replay, completed]
  · simp [replay, rejected, isFraudRejection, decision]

end Rows

/-! ## Looking the row up -/

section Lookups

variable {Thread : Type} [DecidableEq Thread] [Fintype Thread] {config : FraudConfig}
  {requests : Thread → Request} {current following final : Configuration Thread} {thread : Thread}
  {row : Transaction}

theorem perform_lookup {world after : World Thread} {key : TransactionKey} {choice : Choice}
    {answer : Except DatabaseError (Option Transaction)}
    (found : world.server.database.transactions.find? (·.key == key) = some row)
    (performed : world.perform thread (.query (.transactionFindFirst key)) choice =
      some (answer, after)) :
    after = world ∧ (answer = .ok (some row) ∨
      choice.failure ≠ none ∧ ∃ error, answer = .error error) := by
  rcases Option.map_eq_some_iff.mp performed with ⟨⟨reply, server⟩, done, equal⟩
  cases equal
  unfold Server.perform at done
  split at done
  · cases done
    exact ⟨rfl, .inl (congrArg Except.ok found)⟩
  · rename_i error failure
    split at done
    · cases done
    · cases done
      exact ⟨rfl, .inr ⟨by rw [failure]; rintro ⟨⟩, error, rfl⟩⟩

theorem answersWith_lookup {α : Type} {world : World Thread} {program : Service α}
    {key : TransactionKey} {answer : Except ServiceError α}
    {next : Except DatabaseError (Option Transaction) → Program interface (Except ServiceError α)}
    (found : world.server.database.transactions.find? (·.key == key) = some row)
    (lookup : program.run = .call (.query (.transactionFindFirst key)) next)
    (answered : next (.ok (some row)) = .done answer) : AnswersWith world program answer := by
  intro thread result final
  unfold ExecutesResult
  rw [lookup]
  constructor
  · intro executes
    cases executes with
    | call choice permits performed rest =>
        rcases perform_lookup found performed with ⟨rfl, rfl | ⟨fails, _⟩⟩
        · rw [answered] at rest
          cases rest
          exact ⟨rfl, rfl⟩
        · exact absurd permits fails
  · rintro ⟨rfl, rfl⟩
    have answers : final.perform thread (.query (.transactionFindFirst key)) {} =
        some (.ok (some row), final) := by
      simp only [World.perform, Server.perform, Server.respond, found, Option.map_some]
    refine .call {} rfl answers ?_
    rw [answered]
    exact .done _ _

/-! ## A later call -/

def resume (rest : Service TransactionResponseDto) :
    Option TransactionResponseDto → Service TransactionResponseDto
  | some idempotentResult => pure idempotentResult
  | none => rest

def lookUp (params : TransactionParams) (rest : Service TransactionResponseDto) :
    Service Response :=
  Response.transaction <$> do
    let existing ← findExisting params.actorCustomerId params.type params.referenceId
    resolveExistingOrThrow existing params.type >>= resume rest

theorem lookUp_run (params : TransactionParams) (rest : Service TransactionResponseDto) :
    ∃ next, (lookUp params rest).run = .call (.query (.transactionFindFirst params.key)) next ∧
      (∀ row, Decided row → row.key = params.key →
        next (.ok (some row)) = .done (.transaction <$> replay row)) ∧
      ∀ error, next (.error error) = .done (.error (.database error)) := by
  refine ⟨_, rfl, fun row decided same => ?_, fun error => rfl⟩
  have type : row.type = params.type := congrArg TransactionKey.type same
  have resolved : resolveExistingOrThrow (some row) params.type =
      ExceptT.mk (.done (some <$> replay row)) := type ▸ resolveExistingOrThrow_decided decided
  change (Response.transaction <$>
    (resolveExistingOrThrow (some row) params.type >>= resume rest) : Service Response).run = _
  rw [resolved]
  cases replay row <;> rfl

/-- Every money call first looks its transaction up, and ends with the answer for a row that
is decided. -/
theorem handle_lookup (config : FraudConfig) {request : Request} {params : TransactionParams}
    (asks : request.params? = some params) :
    ∃ next, (handle config request).run = .call (.query (.transactionFindFirst params.key)) next ∧
      (∀ row, Decided row → row.key = params.key →
        next (.ok (some row)) = .done (.transaction <$> replay row)) ∧
      ∀ error, next (.error error) = .done (.error (.database error)) := by
  rcases request with ⟨userId, context, operation⟩
  cases operation with
  | createDeposit dto =>
      cases asks
      exact lookUp_run _ _
  | createWithdraw dto =>
      cases asks
      exact lookUp_run _ _
  | createTransfer dto =>
      cases asks
      exact lookUp_run _ _
  | _ => cases asks

/-- A call whose row is committed has not begun, or has ended with the answer or the failure of
its lookup. -/
def Replaying (config : FraudConfig) (requests : Thread → Request) (thread : Thread)
    (row : Transaction) (current : Configuration Thread) : Prop :=
  current.program thread = (handle config (requests thread)).run ∨
    current.program thread = .done (.transaction <$> replay row) ∨
      ∃ error, current.program thread = .done (.error (.database error))

section Later

variable {params : TransactionParams} (asks : (requests thread).params? = some params)
  (same : row.key = params.key)
include asks same

theorem Reachable.replays (reachable : Reachable config requests current)
    (member : row ∈ current.shared.server.database.transactions)
    (begins : current.program thread = (handle config (requests thread)).run) {choice : Choice}
    (taken : step current (.perform thread choice) = some following) :
    following.shared = current.shared ∧
      (following.program thread = .done (.transaction <$> replay row) ∨
        choice.failure ≠ none ∧ ∃ error, following.program thread =
          .done (.error (.database error))) := by
  rcases handle_lookup config asks with ⟨next, lookup, answers, fails⟩
  rw [← same] at lookup
  rcases Machine.step_perform taken with ⟨op, rest, answer, shared, program, performed, rfl⟩
  rw [begins, lookup] at program
  cases program
  have answered := answers row (reachable.decided member) same
  rcases perform_lookup (reachable.found member) performed with ⟨rfl, rfl | ⟨failed, error, rfl⟩⟩
  · exact ⟨rfl, .inl (by simp [answered])⟩
  · exact ⟨rfl, .inr ⟨failed, error, by simp [fails]⟩⟩

theorem Reachable.replaying (reachable : Reachable config requests current)
    (member : row ∈ current.shared.server.database.transactions)
    (begins : current.program thread = (handle config (requests thread)).run)
    (run : Run step Unrestricted current final) :
    Reachable config requests final ∧ row ∈ final.shared.server.database.transactions ∧
      Replaying config requests thread row final := by
  refine run.invariant (fun between => Reachable config requests between ∧
    row ∈ between.shared.server.database.transactions ∧
    Replaying config requests thread row between) ⟨reachable, member, .inl begins⟩ ?_
  rintro between label next ⟨reachable, member, replaying⟩ _ taken
  have kept : row ∈ next.shared.server.database.transactions := by
    rcases reachable.step_cases taken with unchanged | ⟨other, choice, _, effect⟩
    · rwa [unchanged]
    · exact effect.rows member
  refine ⟨reachable.next taken, kept, ?_⟩
  rcases replaying with begins | ended | ⟨error, ended⟩
  · by_cases own : ∃ choice, label = .perform thread choice
    · rcases own with ⟨choice, rfl⟩
      rcases (reachable.replays asks same member begins taken).2 with ended | ⟨_, ended⟩
      · exact .inr (.inl ended)
      · exact .inr (.inr ended)
    · exact .inl ((Machine.step_other taken fun choice equal => own ⟨choice, equal⟩).trans begins)
  · exact .inr (.inl (Machine.step_done taken ended))
  · exact .inr (.inr ⟨error, Machine.step_done taken ended⟩)

end Later

/-- Every request is answered the same each time it is made, and changes nothing after the
first. -/
theorem replays_stable (config : FraudConfig) (requests : Thread → Request) :
    ReplaysStable config requests where
  decided current reachable row member := reachable.decided member
  resolves current reachable row member :=
    answersWith_lookup (reachable.found member) rfl
      (resolveExistingOrThrow_decided (reachable.decided member))
  fallsBack current reachable row member err conflict := by
    rcases resolveP2002Fallback_decided (reachable.decided member) conflict row.actorCustomerId
      row.referenceId with ⟨next, lookup, answered⟩
    exact answersWith_lookup (reachable.found member) lookup answered
  first current reachable commit member row rowMember result ended :=
    reachable.accounted ended member rfl rowMember
  later current reachable row member thread params asks same begins final run := by
    rcases reachable.replaying asks same member begins run with ⟨reached, kept, replaying⟩
    refine ⟨fun choice following taken => ?_, fun result ended => ?_⟩
    · rcases replaying with begins | ended | ⟨error, ended⟩
      · rcases reached.replays asks same kept begins taken with ⟨unchanged, answered⟩
        refine ⟨unchanged, ?_⟩
        rcases answered with ended | ⟨failed, error, ended⟩
        · exact ⟨_, ended, fun _ => rfl⟩
        · exact ⟨_, ended, fun succeeded => absurd succeeded failed⟩
      · exact (Machine.not_step_done ended taken).elim
      · exact (Machine.not_step_done ended taken).elim
    · rcases replaying with begins | answered | ⟨error, failed⟩
      · rcases handle_lookup config asks with ⟨next, lookup, _⟩
        rw [begins, lookup] at ended
        cases ended
      · rw [answered] at ended
        cases ended
        exact .inl rfl
      · rw [failed] at ended
        cases ended
        exact .inr ⟨error, rfl⟩

end Lookups

end BankingBackend
