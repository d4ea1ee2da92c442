import BankingBackend.Calls.Interleaving
import BankingBackend.Foundation.Matching

/-! # The outbox tells of every transaction

A transaction that commits a row commits one event with it, and none without.
-/

namespace BankingBackend

open Foundation Postgres Common Fraud Transactions

/-- The row has been settled, and the event announces how. -/
inductive Told (row : Transaction) (event : Event) : Prop
  | completed (status : row.status = .completed)
      (announces : Announces .transactionCompleted .success row event)
  | rejected (status : row.status = .rejected)
      (announces : Announces .transactionFailed .failure row event)

theorem Told.completed_iff {row : Transaction} {event : Event} (told : Told row event) :
    row.status = .completed ↔ event.type = .transactionCompleted := by
  cases told with
  | completed status announces => simp [status, announces.type]
  | rejected status announces => simp [status, announces.type]

theorem Told.rejected_iff {row : Transaction} {event : Event} (told : Told row event) :
    row.status = .rejected ↔ event.type = .transactionFailed := by
  cases told with
  | completed status announces => simp [status, announces.type]
  | rejected status announces => simp [status, announces.type]

/-! ## Committed rows and events -/

/-- Row by row, the events tell of the transactions. -/
structure Corresponds (database : Database) : Prop where
  ids : (database.transactions.map Transaction.id).Nodup
  told : List.Forall₂ Told database.transactions database.events

section Steps

variable {request : Request} {database : Database} {tx : Tx}

theorem Committable.told (committable : Committable request database tx) :
    List.Forall₂ Told tx.transactions tx.events := by
  cases committable with
  | post params row posts versions reads =>
      rcases posts.events with ⟨event, events, announces⟩
      rw [posts.transactions, events]
      exact .cons (.completed posts.completed announces) .nil
  | reject params row rejects =>
      rcases rejects.events with ⟨event, events, announces⟩
      rw [rejects.transactions, events]
      exact .cons (.rejected rejects.rejected announces) .nil
  | openAccount id currency createdAt fresh contents =>
      rw [contents]
      exact .nil
  | setStatus account status found owned notClosed emptied contents =>
      rw [contents]
      exact .nil
  | audit unwritten created transactions events =>
      rw [transactions, events]
      exact .nil

theorem Committable.ids (committable : Committable request database tx) :
    (tx.transactions.map Transaction.id).Nodup := by
  cases committable with
  | post params row posts versions reads =>
      rw [posts.transactions]
      exact List.nodup_singleton _
  | reject params row rejects =>
      rw [rejects.transactions]
      exact List.nodup_singleton _
  | openAccount id currency createdAt fresh contents =>
      rw [contents]
      exact List.nodup_nil
  | setStatus account status found owned notClosed emptied contents =>
      rw [contents]
      exact List.nodup_nil
  | audit unwritten created transactions events =>
      rw [transactions]
      exact List.nodup_nil

variable {Thread : Type} [DecidableEq Thread] {thread : Thread} {before after : Server Thread}

theorem Effect.corresponds (effect : Effect request thread before after)
    (corresponds : Corresponds before.database) : Corresponds after.database := by
  cases effect with
  | unchanged => exact corresponds
  | works => exact corresponds
  | commits tx pending committable =>
      refine ⟨?_, List.rel_append corresponds.told committable.told⟩
      show ((before.database.transactions ++ tx.transactions).map Transaction.id).Nodup
      rw [List.map_append, List.nodup_append]
      refine ⟨corresponds.ids, committable.ids, fun id listed other new same => ?_⟩
      rcases List.mem_map.mp listed with ⟨committed, committedMember, rfl⟩
      rcases List.mem_map.mp new with ⟨row, member, rfl⟩
      exact (pending.fresh row member committed committedMember).id same.symm

end Steps

section Runs

variable {Thread : Type} [DecidableEq Thread] [Fintype Thread] {config : FraudConfig}
  {requests : Thread → Request} {current : Configuration Thread}

theorem Reachable.corresponds (reachable : Reachable config requests current) :
    Corresponds current.shared.server.database := by
  rcases reachable with ⟨redis, now, run⟩
  have everywhere : Reachable config requests current ∧
      Corresponds current.shared.server.database := by
    refine run.invariant
      (fun between => Reachable config requests between ∧
        Corresponds between.shared.server.database)
      ⟨⟨redis, now, .start⟩, List.nodup_nil, .nil⟩ ?_
    rintro between label next ⟨reachable, corresponds⟩ _ taken
    refine ⟨reachable.next taken, ?_⟩
    rcases reachable.step_cases taken with same | ⟨thread, choice, _, effect⟩
    · rwa [same]
    · exact effect.corresponds corresponds
  exact everywhere.2

/-! ## The correspondence -/

/-- Equality of `payload.resourceId` with `id` is a bijection between the rows with the
status and the events of the type, and the event agrees with its row. -/
def Matched (status : TransactionStatus) (type : EventType) (outcome : Outcome)
    (database : Database) : Prop :=
  Matching (Announces type outcome) Transaction.id (fun event : Event => event.payload.resourceId)
    (database.transactions.filter fun row => row.status = status)
    (database.events.filter fun event => event.type = type)

structure OutboxCorrespondence (config : FraudConfig) (requests : Thread → Request) : Prop where
  completed : ∀ current, Reachable config requests current →
    Matched .completed .transactionCompleted .success current.shared.server.database
  rejected : ∀ current, Reachable config requests current →
    Matched .rejected .transactionFailed .failure current.shared.server.database

theorem Corresponds.matched {database : Database} (corresponds : Corresponds database)
    {status : TransactionStatus} {type : EventType} {outcome : Outcome}
    (tells : ∀ row event, Told row event → (row.status = status ↔ event.type = type))
    (announces : ∀ row event, Told row event → row.status = status →
      Announces type outcome row event) : Matched status type outcome database := by
  have told : List.Forall₂ Told (database.transactions.filter fun row => row.status = status)
      (database.events.filter fun event => event.type = type) :=
    List.rel_filter (fun row event told => by simpa using tells row event told) corresponds.told
  have settled := (List.forall₂_and_left (p := fun row : Transaction => row.status = status) _ _).mpr
    ⟨fun row member => of_decide_eq_true (List.mem_filter.mp member).2, told⟩
  exact matching_of_forall₂ (settled.imp fun row event both => announces row event both.2 both.1)
    (fun _ _ announces => announces.resourceId)
    (corresponds.ids.sublist (List.filter_sublist.map _))

theorem outbox_correspondence (config : FraudConfig) (requests : Thread → Request) :
    OutboxCorrespondence config requests where
  completed current reachable := by
    refine reachable.corresponds.matched (fun _ _ told => told.completed_iff) ?_
    rintro row event (⟨_, announces⟩ | ⟨status, _⟩) completed
    · exact announces
    · cases status.symm.trans completed
  rejected current reachable := by
    refine reachable.corresponds.matched (fun _ _ told => told.rejected_iff) ?_
    rintro row event (⟨status, _⟩ | ⟨_, announces⟩) rejected
    · cases status.symm.trans rejected
    · exact announces

end Runs

end BankingBackend
