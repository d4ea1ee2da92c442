import BankingBackend.Calls.Accounts
import BankingBackend.Calls.Transactions

/-! # Interleavings of calls

The discipline all calls follow, and with it what holds of every reachable
configuration and of every step from one.
-/

namespace BankingBackend

open Foundation Postgres Redis Common Fraud Transactions Accounts

section Calls

variable {Thread : Type} [DecidableEq Thread] [Fintype Thread]
  {config : FraudConfig} {requests : Thread → Request} {thread : Thread}

def Answers (request : Request) (response : Response) (server : Server Thread) : Prop :=
  match request.params?, response with
  | some params, .transaction dto => Settled params dto server
  | none, .account dto => Shown request.userId dto server
  | none, .accounts dtos => ∀ dto ∈ dtos, Shown request.userId dto server
  | _, _ => False

theorem meets_handle {world : World Thread} (idle : Idle requests thread world.server) :
    Meets requests thread (handle config (requests thread))
      (Ends (Answers (requests thread)) (Undecided requests thread)) world := by
  rcases shape : requests thread with ⟨userId, context, operation⟩
  have own : userId = (requests thread).userId := by rw [shape]
  have asks : (requests thread).params? = Request.params? ⟨userId, context, operation⟩ := by
    rw [shape]
  cases operation with
  | createDeposit dto =>
      exact EnsuresResult.map (meets_createDeposit asks idle) (fun _ _ undecided => undecided)
        fun _ _ settled => settled
  | createWithdraw dto =>
      exact EnsuresResult.map (meets_createWithdraw asks idle) (fun _ _ undecided => undecided)
        fun _ _ settled => settled
  | createTransfer dto =>
      exact EnsuresResult.map (meets_createTransfer asks idle) (fun _ _ undecided => undecided)
        fun _ _ settled => settled
  | getAccounts =>
      exact EnsuresResult.map (meets_getAccounts idle) (fun _ _ undecided => undecided)
        fun _ _ shown => shown
  | getAccountById id =>
      exact EnsuresResult.map (meets_getAccountById idle) (fun _ _ undecided => undecided)
        fun _ _ shown => shown
  | createAccount dto =>
      exact EnsuresResult.map (meets_createAccount own idle) (fun _ _ undecided => undecided)
        fun _ _ shown => shown
  | freezeAccount id =>
      exact EnsuresResult.map (meets_changeStatus changesOpen_freeze own idle)
        (fun _ _ undecided => undecided) fun _ _ shown => shown
  | unfreezeAccount id =>
      exact EnsuresResult.map (meets_changeStatus changesOpen_unfreeze own idle)
        (fun _ _ undecided => undecided) fun _ _ shown => shown
  | closeAccount id =>
      exact EnsuresResult.map (meets_changeStatus changesOpen_close own idle)
        (fun _ _ undecided => undecided) fun _ _ shown => shown

omit [DecidableEq Thread] [Fintype Thread] in
theorem answers_stable {response : Response} :
    Stable requests thread (Answers (requests thread) response) := by
  intro before after rely answers
  unfold Answers at answers ⊢
  split at answers
  · rcases answers with ⟨row, member, settled⟩
    exact ⟨row, rely.rows row member, settled⟩
  · exact rely.owners _ _ answers
  · exact fun dto member => rely.owners _ _ (answers dto member)
  · exact answers

omit [DecidableEq Thread] [Fintype Thread] in
theorem ends_stable {result : CallResult} :
    Stable requests thread fun server =>
      Ends (Answers (requests thread)) (Undecided requests thread) result server := by
  cases result with
  | ok response => exact answers_stable
  | error error => exact undecided_stable

omit [DecidableEq Thread] [Fintype Thread] in
/-- Time passes and keys expire without touching the database. -/
theorem environment_server {world after : World Thread} {event : Occurrence}
    (happened : world.environment event = some after) : after.server = world.server := by
  cases event with
  | tick now =>
      simp only [World.environment] at happened
      split at happened
      · cases happened
        rfl
      · cases happened
  | expire expiry =>
      cases happened
      rfl

def discipline (config : FraudConfig) (requests : Thread → Request) :
    Discipline (machine Thread) CallResult where
  start thread := (handle config (requests thread)).run
  allowed := Unrestricted
  invariant world := Invariant requests world.server
  rely thread before after := Rely requests thread before.server after.server
  guarantee thread := Guarantee (requests thread) thread
  ready thread world := Idle requests thread world.server
  post thread result world :=
    Ends (Answers (requests thread)) (Undecided requests thread) result world.server
  rely_refl thread world := .refl world.server
  rely_trans _ _ _ _ first second := first.trans second
  begins _ ready := meets_handle ready
  keeps invariant guarantee := guarantee.server.keeps invariant
  interference different _ _ _ _ invariant guarantee := guarantee.server.rely invariant different
  ready_stable different invariant guarantee ready :=
    idle_stable _ _ (guarantee.server.rely invariant different) ready
  post_stable different invariant guarantee post :=
    ends_stable _ _ (guarantee.server.rely invariant different) post
  environment := by
    intro current event after _ invariant happened
    rw [environment_server happened]
    exact ⟨invariant, fun thread => ⟨.refl _, id, fun _ => id⟩⟩

end Calls

/-- A row that no call will change. -/
def Decided (row : Transaction) : Prop :=
  row.status = .completed ∨ row.status = .rejected ∧ row.fraudDecision = some .reject

/-! ## Reachable configurations -/

section Reachable

variable {Thread : Type} [DecidableEq Thread] [Fintype Thread]
  {config : FraudConfig} {requests : Thread → Request}
  {current following : Configuration Thread} {thread : Thread}

omit [DecidableEq Thread] [Fintype Thread] in
theorem invariant_initial : Invariant requests .initial where
  accountIds := .nil
  rows := rfl
  sound := Ledger.sound_empty
  pending _ _ absurd := by cases absurd

theorem sound_initial (redis : Store) (now : ℕ) :
    (discipline config requests).Sound (initial config requests redis now) :=
  ⟨invariant_initial, fun _ => .waiting rfl rfl
    ⟨⟨invariant_initial, fun _ absurd => by cases absurd⟩, rfl⟩⟩

theorem Reachable.sound (reachable : Reachable config requests current) :
    (discipline config requests).Sound current := by
  rcases reachable with ⟨redis, now, run⟩
  exact (sound_initial redis now).run run

theorem Reachable.invariant (reachable : Reachable config requests current) :
    Invariant requests current.shared.server := reachable.sound.1

theorem Reachable.next {label : Label Thread} (reachable : Reachable config requests current)
    (taken : step current label = some following) : Reachable config requests following := by
  rcases reachable with ⟨redis, now, run⟩
  exact ⟨redis, now, .next label run trivial taken⟩

theorem Reachable.runs (reachable : Reachable config requests current)
    (run : Run step Unrestricted current following) : Reachable config requests following := by
  rcases reachable with ⟨redis, now, first⟩
  exact ⟨redis, now, first.trans run⟩

theorem Reachable.effect {choice : Choice} (reachable : Reachable config requests current)
    (taken : step current (.perform thread choice) = some following) :
    Effect (requests thread) thread current.shared.server following.shared.server :=
  (reachable.sound.acts taken).1.server

theorem step_environment_server {event : Occurrence}
    (taken : step current (.environment event) = some following) :
    following.shared.server = current.shared.server := by
  rcases Machine.step_environment taken with ⟨shared, happened, rfl⟩
  exact environment_server happened

theorem Reachable.step_cases {label : Label Thread} (reachable : Reachable config requests current)
    (taken : step current label = some following) :
    following.shared.server = current.shared.server ∨
      ∃ thread choice, label = .perform thread choice ∧
        Effect (requests thread) thread current.shared.server following.shared.server := by
  cases label with
  | perform thread choice => exact .inr ⟨thread, choice, rfl, reachable.effect taken⟩
  | environment event => exact .inl (step_environment_server taken)

/-- Every commit was one that its call may make. -/
theorem Reachable.logged (reachable : Reachable config requests current) :
    ∀ commit ∈ current.shared.server.log,
      ∃ database, Committable (requests commit.thread) database commit.tx := by
  rcases reachable with ⟨redis, now, run⟩
  have everywhere : Reachable config requests current ∧ ∀ commit ∈ current.shared.server.log,
      ∃ database, Committable (requests commit.thread) database commit.tx := by
    refine run.invariant (fun between => Reachable config requests between ∧
      ∀ commit ∈ between.shared.server.log,
        ∃ database, Committable (requests commit.thread) database commit.tx)
      ⟨⟨redis, now, .start⟩, fun _ absurd => by cases absurd⟩ ?_
    rintro between label next ⟨reachable, logged⟩ _ taken
    refine ⟨reachable.next taken, fun commit member => ?_⟩
    rcases reachable.step_cases taken with same | ⟨thread, choice, _, effect⟩
    · exact logged commit (same ▸ member)
    · rcases effect.logged member with old | ⟨rfl, committable⟩
      · exact logged commit old
      · exact ⟨_, committable⟩
  exact everywhere.2

/-- What holds of every row a transaction may post holds of every completed row. -/
theorem Reachable.posted {holds : Transaction → Prop}
    (posts : ∀ thread tx params row, Posts (requests thread) tx params row → holds row)
    (reachable : Reachable config requests current) :
    ∀ row ∈ current.shared.server.database.transactions, row.status = .completed → holds row := by
  rcases reachable with ⟨redis, now, run⟩
  have everywhere : Reachable config requests current ∧
      ∀ row ∈ current.shared.server.database.transactions,
        row.status = .completed → holds row := by
    refine run.invariant
      (fun between => Reachable config requests between ∧
        ∀ row ∈ between.shared.server.database.transactions, row.status = .completed → holds row)
      ⟨⟨redis, now, .start⟩, fun row absurd => by cases absurd⟩ ?_
    rintro between label next ⟨reachable, rows⟩ _ taken
    refine ⟨reachable.next taken, ?_⟩
    rcases reachable.step_cases taken with same | ⟨thread, choice, _, effect⟩
    · rwa [same]
    · intro row member completed
      rcases effect.new_row member with old | ⟨tx, params, posted⟩
      · exact rows row old completed
      · exact posts thread tx params row (posted completed)
  exact everywhere.2

theorem Reachable.decided {row : Transaction} (reachable : Reachable config requests current)
    (member : row ∈ current.shared.server.database.transactions) : Decided row := by
  rw [reachable.invariant.rows] at member
  rcases List.mem_map.mp member with ⟨record, listed, rfl⟩
  exact (reachable.invariant.sound.valid record listed).settled

theorem Reachable.found {row : Transaction} (reachable : Reachable config requests current)
    (member : row ∈ current.shared.server.database.transactions) :
    current.shared.server.database.transactions.find? (·.key == row.key) = some row :=
  find?_of_nodup_map reachable.invariant.keys member

theorem Reachable.ended {result : CallResult} (reachable : Reachable config requests current)
    (ended : current.program thread = .done result) :
    Ends (Answers (requests thread)) (Undecided requests thread) result current.shared.server :=
  reachable.sound.post ended

end Reachable

end BankingBackend
