import BankingBackend.Calls.Invariant

/-! # Statements of a call

What a call knows between its statements, and what each statement makes of it
whatever the other calls do meanwhile.
-/

namespace BankingBackend

open Foundation Postgres Redis Common Transactions

section Stages

variable {Thread : Type} (requests : Thread → Request) (thread : Thread)

def Unmoved (server : Server Thread) : Prop :=
  ∀ commit ∈ server.log, commit.thread = thread →
    ∀ row ∈ commit.tx.transactions, row.status ≠ .completed

structure Undecided (server : Server Thread) : Prop where
  invariant : Invariant requests server
  unmoved : Unmoved thread server

structure Idle (server : Server Thread) : Prop extends Undecided requests thread server where
  closed : server.open_ thread = none

structure Working (tx : Tx) (delta : Uuid → ℤ) (server : Server Thread) : Prop
    extends Undecided requests thread server where
  opened : server.open_ thread = some tx
  versions : Versions server.database tx delta
  reads : ∀ account ∈ tx.reads, Owns server.database account.customerId account.id

def Stable (stage : Server Thread → Prop) : Prop :=
  ∀ before after, Rely requests thread before after → stage before → stage after

/-- What holds at the end when the program returns and when it throws. -/
def Ends {α : Type} (returns : α → Server Thread → Prop) (throws : Server Thread → Prop)
    (result : Except ServiceError α) (server : Server Thread) : Prop :=
  match result with
  | .ok value => returns value server
  | .error _ => throws server

/-- What the program ends with, when it starts in `world`. -/
abbrev Meets {α : Type} [DecidableEq Thread] [Fintype Thread] (program : Service α)
    (post : Except ServiceError α → Server Thread → Prop) (world : World Thread) : Prop :=
  EnsuresResult ((machine Thread).perform thread)
    (fun before after => Rely requests thread before.server after.server)
    (Guarantee (requests thread) thread) program
    (fun result final => post result final.server) world

variable {requests thread}

theorem undecided_stable : Stable requests thread (Undecided requests thread) := by
  intro before after rely undecided
  refine ⟨rely.invariant undecided.invariant, ?_⟩
  intro commit member own
  exact undecided.unmoved commit (rely.commits commit member own) own

theorem idle_stable : Stable requests thread (Idle requests thread) := by
  intro before after rely idle
  exact ⟨undecided_stable before after rely idle.toUndecided, rely.own.trans idle.closed⟩

theorem working_stable {tx : Tx} {delta : Uuid → ℤ} :
    Stable requests thread (Working requests thread tx delta) := by
  intro before after rely working
  refine ⟨undecided_stable before after rely working.toUndecided,
    rely.own.trans working.opened, ?_, ?_⟩
  · intro id
    have version := working.versions id
    cases written : tx.accounts id with
    | none => rwa [written] at version
    | some account =>
        rw [written] at version
        rcases version with ⟨committed, found, shape, cents, nonneg⟩
        exact ⟨committed, rely.locked tx id committed working.opened (by simp [written]) found,
          shape, cents, nonneg⟩
  · intro account member
    exact rely.owners _ _ (working.reads account member)

end Stages

/-! ## Issuing a statement -/

section Issuing

variable {Thread : Type} [DecidableEq Thread] [Fintype Thread]
  {requests : Thread → Request} {thread : Thread} {world : World Thread}

def thrown {α : Type} (answer : Except DatabaseError α) : Except ServiceError α :=
  answer.mapError ServiceError.database

theorem meets_query {statement : Statement} {stage : Server Thread → Prop}
    {post : Except ServiceError statement.Result → Server Thread → Prop}
    (holds : stage world.server) (stable : Stable requests thread stage)
    (performs : ∀ server failure newId now answer after, stage server →
      server.perform thread failure newId now statement = some (answer, after) →
      Effect (requests thread) thread server after ∧ post (thrown answer) after) :
    Meets requests thread (query statement) post world := by
  intro before interference choice answer after performed
  have there := stable _ _ interference holds
  rcases Option.map_eq_some_iff.mp performed with ⟨⟨reply, server⟩, done, equal⟩
  cases equal
  have effect := performs before.server _ _ _ _ _ there done
  refine ⟨⟨effect.1, fun _ _ => rfl, rfl⟩, ?_⟩
  cases answer with
  | ok value => exact effect.2
  | error error => exact effect.2

theorem meets_statement {statement : Statement} {stage : Server Thread → Prop}
    {post : Except ServiceError statement.Result → Server Thread → Prop}
    (holds : stage world.server) (stable : Stable requests thread stage)
    (remains : ∀ server : Server Thread, server.abandon thread statement = server)
    (fails : ∀ server error, stage server → post (.error error) server)
    (responds : ∀ server newId now answer after, stage server →
      server.respond thread newId now statement = some (answer, after) →
      Effect (requests thread) thread server after ∧ post (thrown answer) after) :
    Meets requests thread (query statement) post world := by
  refine meets_query holds stable ?_
  intro server failure newId now answer after there performed
  unfold Server.perform at performed
  split at performed
  · exact responds server newId now answer after there performed
  · split at performed
    · cases performed
    · cases performed
      rw [remains]
      exact ⟨.unchanged, fails server _ there⟩

theorem meets_read {statement : Statement} {stage : Server Thread → Prop}
    {post : Except ServiceError statement.Result → Server Thread → Prop}
    (holds : stage world.server) (stable : Stable requests thread stage)
    (remains : ∀ server : Server Thread, server.abandon thread statement = server)
    (fails : ∀ server error, stage server → post (.error error) server)
    (answers : ∀ server newId now answer after, stage server →
      server.respond thread newId now statement = some (answer, after) →
      after = server ∧ post (thrown answer) server) :
    Meets requests thread (query statement) post world := by
  refine meets_statement holds stable remains fails ?_
  intro server newId now answer after there responded
  rcases answers server newId now answer after there responded with ⟨rfl, holds⟩
  exact ⟨.unchanged, holds⟩

theorem meets_request {command : Command} {stage : Server Thread → Prop}
    (holds : stage world.server) (stable : Stable requests thread stage)
    (harmless : ∀ choice (before : World Thread) answer after,
      before.perform thread command choice = some (answer, after) →
      after.server = before.server ∧ after.now = before.now ∧
        ∀ scope, ¬(requests thread).Counts scope →
          after.redis.daily scope = before.redis.daily scope) :
    Meets requests thread (request command)
      (fun result server => (∃ answer, result = .ok answer) ∧ stage server) world := by
  intro before interference choice answer after performed
  have there := stable _ _ interference holds
  rcases harmless choice before answer after performed with ⟨server, now, daily⟩
  refine ⟨⟨?_, daily, now⟩, ⟨answer, rfl⟩, ?_⟩
  · rw [server]
    exact .unchanged
  · show stage after.server
    rw [server]
    exact there

/-! ## Transactions -/

omit [Fintype Thread] in
theorem Undecided.setOpen {server : Server Thread} (undecided : Undecided requests thread server)
    {tx : Option Tx} (effect : Effect (requests thread) thread server (server.setOpen thread tx)) :
    Undecided requests thread (server.setOpen thread tx) :=
  ⟨effect.keeps undecided.invariant, undecided.unmoved⟩

omit [Fintype Thread] in
theorem effect_close (server : Server Thread) :
    Effect (requests thread) thread server (server.setOpen thread none) :=
  .works none (fun _ absurd => by cases absurd) (fun _ absurd => by cases absurd)

omit [Fintype Thread] in
theorem Undecided.closed {server : Server Thread} (undecided : Undecided requests thread server) :
    Idle requests thread (server.setOpen thread none) :=
  ⟨undecided.setOpen (effect_close server), Server.setOpen_open none⟩

theorem meets_begin (idle : Idle requests thread world.server) :
    Meets requests thread (query .begin)
      (Ends (fun _ => Working requests thread .empty fun _ => 0) (Idle requests thread)) world := by
  refine meets_statement idle idle_stable (fun _ => rfl) (fun _ _ idle => idle) ?_
  intro server newId now answer after idle responded
  simp only [Server.respond, idle.closed] at responded
  cases responded
  have effect : Effect (requests thread) thread server (server.setOpen thread (some .empty)) := by
    refine .works _ ?_ ?_
    · rintro _ ⟨⟩
      exact Server.pending_of_empty rfl rfl
    · rintro _ ⟨⟩ account member
      cases member
  exact ⟨effect, idle.setOpen effect, Server.setOpen_open _, fun _ => rfl,
    fun _ member => by cases member⟩

theorem meets_rollback (undecided : Undecided requests thread world.server) :
    Meets requests thread (query .rollback) (fun _ server => Idle requests thread server) world := by
  refine meets_query undecided undecided_stable ?_
  intro server failure newId now answer after undecided performed
  have closes : after = server.setOpen thread none := by
    unfold Server.perform at performed
    split at performed
    · simp only [Server.respond] at performed
      cases performed
      rfl
    · split at performed
      · cases performed
      · cases performed
        rfl
  subst closes
  exact ⟨effect_close server, undecided.closed⟩

/-- A transaction that its call may commit, and what the commit establishes. -/
structure Commits (requests : Thread → Request) (thread : Thread)
    (committed : Server Thread → Prop) (server : Server Thread) : Prop
    extends Undecided requests thread server where
  ready : ∃ tx, server.open_ thread = some tx ∧
    Committable (requests thread) server.database tx ∧ committed (server.commitTx thread tx)

theorem meets_commit {committed stage : Server Thread → Prop} (holds : stage world.server)
    (stable : Stable requests thread stage)
    (commits : ∀ server, stage server → Commits requests thread committed server) :
    Meets requests thread (query .commit)
      (Ends (fun _ => committed) (Idle requests thread)) world := by
  refine meets_query holds stable ?_
  intro server failure newId now answer after there performed
  have commit := commits server there
  unfold Server.perform at performed
  split at performed
  · rcases commit.ready with ⟨tx, opened, committable, establishes⟩
    simp only [Server.respond, opened] at performed
    cases performed
    exact ⟨.commits tx (commit.invariant.pending thread tx opened) committable (.inl opened),
      establishes⟩
  · split at performed
    · cases performed
    · cases performed
      exact ⟨effect_close server, commit.toUndecided.closed⟩

theorem meets_transaction {α : Type} {program : Service α} {stage : α → Server Thread → Prop}
    {committed : α → Server Thread → Prop} (idle : Idle requests thread world.server)
    (stable : ∀ value, Stable requests thread (stage value))
    (commits : ∀ value server, stage value server →
      Commits requests thread (committed value) server)
    (body : ∀ world : World Thread,
      Working requests thread .empty (fun _ => 0) world.server →
      Meets requests thread program
        (Ends stage (Undecided requests thread)) world) :
    Meets requests thread (transaction program)
      (Ends committed (Idle requests thread)) world := by
  refine (meets_begin idle).bind (fun _ _ idle => idle) fun _ between working => ?_
  refine (body between working).attempt fun outcome between holds => ?_
  cases outcome with
  | ok value =>
      exact (meets_commit holds (stable value) (commits value)).bind (fun _ _ idle => idle)
        fun _ _ established => .pure established
  | error error =>
      exact (meets_rollback holds).attempt fun _ _ idle => .throw idle

end Issuing

end BankingBackend
