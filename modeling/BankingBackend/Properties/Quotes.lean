import BankingBackend.Calls.Events
import BankingBackend.Properties.Correspondence

/-! # What an event quotes

An event is written for the request of its call, in the transaction that commits the
row of that request. So it quotes the row, its amount and its accounts included.
-/

namespace BankingBackend

open Foundation Postgres Common Fraud Transactions

/-- The event tells of the row and quotes what it says. -/
structure Quotes (row : Transaction) (event : Event) : Prop where
  told : Told row event
  amount : Money.assign? event.payload.metadata.amount = some row.amount
  positive : 0 < event.payload.metadata.amount
  fromAccountId : parseOptional event.payload.metadata.fromAccountId = some row.fromAccountId
  toAccountId : parseOptional event.payload.metadata.toAccountId = some row.toAccountId
  reasonCode : event.payload.reasonCode =
    if row.status = .completed then none else some "FRAUD_REJECTED"

theorem Quotes.names {row : Transaction} {event : Event} (quotes : Quotes row event) :
    event.payload.actorId = row.actorCustomerId ∧ event.payload.resourceId = row.id ∧
      event.payload.metadata.transactionType = row.type := by
  cases quotes.told with
  | completed status announces =>
      exact ⟨announces.actorId, announces.resourceId, announces.transactionType⟩
  | rejected status announces =>
      exact ⟨announces.actorId, announces.resourceId, announces.transactionType⟩

section Steps

variable {request : Request} {params : TransactionParams} {row : Transaction} {event : Event}

theorem Written.quotes (written : Written request event.payload)
    (asks : request.params? = some params) (rowOf : RowOf params row) (told : Told row event) :
    Quotes row event := by
  have outcome : (event.payload.outcome = .success ↔ row.status = .completed) := by
    cases told with
    | completed status announces => simp [status, announces.outcome]
    | rejected status announces => simp [status, announces.outcome]
  have positive : 0 < params.amount := by
    have minimum := Request.params?_amountMin asks
    linarith
  generalize shape : event.payload = payload at written
  rw [shape] at outcome
  cases written with
  | completed asked resourceId =>
      cases asks.symm.trans asked
      have completed : row.status = .completed := outcome.mp rfl
      constructor
      · exact told
      · rw [shape]
        exact rowOf.amount
      · rw [shape]
        exact positive
      · rw [shape]
        exact rowOf.fromAccount
      · rw [shape]
        exact rowOf.toAccount
      · rw [shape, if_pos completed]
        rfl
  | rejected asked resourceId reason =>
      cases asks.symm.trans asked
      have uncompleted : row.status ≠ .completed := fun completed => by
        cases outcome.mpr completed
      constructor
      · exact told
      · rw [shape]
        exact rowOf.amount
      · rw [shape]
        exact positive
      · rw [shape]
        exact rowOf.fromAccount
      · rw [shape]
        exact rowOf.toAccount
      · rw [shape, if_neg uncompleted]
        rfl

theorem Committable.quotes {database : Database} {tx : Tx}
    (committable : Committable request database tx)
    (written : ∀ event ∈ tx.events, Written request event.payload) :
    List.Forall₂ Quotes tx.transactions tx.events := by
  cases committable with
  | post params row posts versions reads =>
      rcases posts.events with ⟨event, events, announces⟩
      rw [posts.transactions, events]
      rw [events] at written
      have told : Told row event := .completed posts.completed announces
      exact .cons ((written event (.head _)).quotes posts.asks posts.rowOf told) .nil
  | reject params row rejects =>
      rcases rejects.events with ⟨event, events, announces⟩
      rw [rejects.transactions, events]
      rw [events] at written
      have told : Told row event := .rejected rejects.rejected announces
      exact .cons ((written event (.head _)).quotes rejects.asks rejects.rowOf told) .nil
  | openAccount id currency createdAt fresh contents =>
      rw [contents]
      exact .nil
  | setStatus account status found owned notClosed emptied contents =>
      rw [contents]
      exact .nil
  | audit unwritten created transactions events =>
      rw [transactions, events]
      exact .nil

end Steps

/-! ## Open transactions -/

def Authored {Thread : Type} (requests : Thread → Request) (server : Server Thread) : Prop :=
  ∀ thread tx, server.open_ thread = some tx → ∀ event ∈ tx.events,
    Written (requests thread) event.payload

section Authored

variable {Thread : Type} [DecidableEq Thread] {requests : Thread → Request}
  {server after : Server Thread} {thread : Thread}

theorem Authored.setOpen (authored : Authored requests server) {tx : Option Tx}
    (own : ∀ current, tx = some current → ∀ event ∈ current.events,
      Written (requests thread) event.payload) :
    Authored requests (server.setOpen thread tx) := by
  intro other current opened
  by_cases same : other = thread
  · subst same
    rw [Server.setOpen_open] at opened
    exact own current opened
  · rw [Server.setOpen_other same] at opened
    exact authored other current opened

theorem Authored.commitTx (authored : Authored requests server) (tx : Tx) :
    Authored requests (server.commitTx thread tx) := by
  intro other current opened
  by_cases same : other = thread
  · subst same
    rw [Server.commitTx_open] at opened
    cases opened
  · rw [Server.commitTx_other same] at opened
    exact authored other current opened

theorem Authored.performs (authored : Authored requests server) {statement : Statement}
    {answer : Except DatabaseError statement.Result}
    (announces : Announcing (requests thread) (.query statement))
    (performs : Server.Performs server thread statement answer after) :
    Authored requests after := by
  cases performs with
  | same => exact authored
  | begins =>
      apply authored.setOpen
      rintro _ ⟨⟩ event member
      cases member
  | commits _ tx => exact authored.commitTx tx
  | closes =>
      apply authored.setOpen
      rintro _ ⟨⟩
  | writes change writes =>
      cases opened : server.open_ thread with
      | none =>
          rw [Server.write_closed opened]
          exact authored.commitTx _
      | some tx =>
          rw [Server.write_open opened]
          apply authored.setOpen
          rintro _ ⟨⟩ event member
          cases writes with
          | eventCreate data =>
              rcases List.mem_append.mp member with old | new
              · exact authored thread tx opened event old
              · rw [List.mem_singleton.mp new]
                exact announces data rfl
          | _ => exact authored thread tx opened event member

theorem Authored.perform [Fintype Thread] {command : Command} {choice : Choice}
    {before following : World Thread} {answer : command.Answer}
    (authored : Authored requests before.server)
    (announces : Announcing (requests thread) command)
    (performed : before.perform thread command choice = some (answer, following)) :
    Authored requests following.server := by
  by_cases statement : ∃ statement, command = .query statement
  · rcases statement with ⟨statement, rfl⟩
    rcases Option.map_eq_some_iff.mp performed with ⟨⟨reply, server⟩, done, equal⟩
    cases equal
    exact authored.performs announces (Server.perform_performs done)
  · rw [perform_server (fun query same => statement ⟨query, same⟩) performed]
    exact authored

end Authored

/-! ## Every interleaving -/

section Runs

variable {Thread : Type} [DecidableEq Thread] [Fintype Thread] {config : FraudConfig}
  {requests : Thread → Request} {current : Configuration Thread}

omit [Fintype Thread] in
theorem Effect.quotes {thread : Thread} {before after : Server Thread}
    (effect : Effect (requests thread) thread before after) (authored : Authored requests before)
    (quotes : List.Forall₂ Quotes before.database.transactions before.database.events) :
    List.Forall₂ Quotes after.database.transactions after.database.events := by
  cases effect with
  | unchanged => exact quotes
  | works => exact quotes
  | commits tx pending committable own =>
      apply List.rel_append quotes
      rcases own with opened | moneyless
      · exact committable.quotes (authored thread tx opened)
      · have told := committable.told
        rw [moneyless, List.forall₂_nil_left_iff] at told
        show List.Forall₂ Quotes tx.transactions tx.events
        rw [moneyless, told]
        exact .nil

theorem Reachable.authored (reachable : Reachable config requests current) :
    Authored requests current.shared.server := by
  rcases reachable with ⟨redis, now, run⟩
  have everywhere : (∀ thread, (current.program thread).Only (Issued (requests thread))) ∧
      Authored requests current.shared.server := by
    refine run.invariant (fun between =>
      (∀ thread, (between.program thread).Only (Issued (requests thread))) ∧
        Authored requests between.shared.server)
      ⟨fun thread => issued_handle config (requests thread), fun _ _ opened => by cases opened⟩ ?_
    rintro between label following ⟨only, authored⟩ _ taken
    refine ⟨Machine.only_step taken only, ?_⟩
    cases label with
    | environment event =>
        rwa [step_environment_server taken]
    | perform thread choice =>
        rcases Machine.step_perform taken with
          ⟨command, next, answer, shared, program, performed, rfl⟩
        have issued := only thread
        rw [program] at issued
        exact authored.perform issued.1.announcing performed
  exact everywhere.2

theorem Reachable.quotes (reachable : Reachable config requests current) :
    List.Forall₂ Quotes current.shared.server.database.transactions
      current.shared.server.database.events := by
  rcases reachable with ⟨redis, now, run⟩
  have everywhere : Reachable config requests current ∧
      List.Forall₂ Quotes current.shared.server.database.transactions
        current.shared.server.database.events := by
    refine run.invariant (fun between => Reachable config requests between ∧
      List.Forall₂ Quotes between.shared.server.database.transactions
        between.shared.server.database.events) ⟨⟨redis, now, .start⟩, .nil⟩ ?_
    rintro between label following ⟨reachable, quotes⟩ _ taken
    refine ⟨reachable.next taken, ?_⟩
    rcases reachable.step_cases taken with same | ⟨thread, choice, _, effect⟩
    · rwa [same]
    · exact effect.quotes reachable.authored quotes
  exact everywhere.2

theorem Reachable.quoted {event : Event} (reachable : Reachable config requests current)
    (member : event ∈ current.shared.server.database.events) :
    ∃ row ∈ current.shared.server.database.transactions, Quotes row event := by
  have quotes := reachable.quotes
  rcases List.mem_iff_get.mp member with ⟨index, rfl⟩
  have within : index.val < current.shared.server.database.transactions.length := by
    rw [quotes.length_eq]
    exact index.isLt
  exact ⟨_, List.getElem_mem within, quotes.get within index.isLt⟩

end Runs

end BankingBackend
