import BankingBackend.Calls.Journaling
import BankingBackend.Properties.Balances

/-! # Recorded rejections

A fraud rejection is written before any account has been looked at. It is recorded
and reported exactly when the accounts that the request names exist and its amount
fits the column.
-/

namespace BankingBackend

open Foundation Foundation.Program Postgres Common Fraud Transactions

/-! ## What is recorded -/

/-- The row of a rejection satisfies the foreign keys and fits its columns. -/
structure Recordable (params : TransactionParams) (database : Database) : Prop where
  accounts : ∀ text, params.fromAccountId = some text ∨ params.toAccountId = some text →
    ∃ id, Uuid.parse? text = some id ∧ (database.account? id).isSome
  amount : |roundHalfAway (params.amount * 100)| < 10 ^ 18

/-- The call has thrown the message of the reason, and has committed one rejected row and one
event with it, and nothing else. -/
structure Recorded {Thread : Type} [DecidableEq Thread] (thread : Thread)
    (params : TransactionParams) (reason : Option String) (result : CallResult)
    (server : Server Thread) : Prop where
  throws : result =
    .error (.http (.badRequest (getFraudRejectionMessage params.type reason)))
  committed : ∃ tx row event, server.log.filter (·.thread = thread) = [⟨thread, tx⟩] ∧
    tx.transactions = [row] ∧ RowOf params row ∧ row.status = .rejected ∧
    row.fraudDecision = some .reject ∧ row.fraudReason = reason ∧
    tx.events = [event] ∧ Announces .transactionFailed .failure row event ∧
    tx.accounts = (fun _ => none) ∧ tx.createdAccounts = []

/-- What is left of a money call whose evaluation has returned a rejection. -/
inductive JustRejected (config : FraudConfig) (request : Request) (reason : Option String) :
    TransactionParams → Program interface CallResult → Prop
  | withdraw (dto : CreateWithdrawRequestDto) (asks : request.operation = .createWithdraw dto) :
      JustRejected config request reason (withdrawParams request.userId dto)
        (Response.transaction <$> tryCatch
          (recordRejection request.context (withdrawParams request.userId dto) reason)
          fun err => do
            if err.code ≠ some "P2002" then
              releaseWithdrawDailyReservation config (withdrawCheckInput request.userId dto)
            fallbackOrThrow err request.userId dto.referenceId .withdraw).run
  | transfer (dto : CreateTransferRequestDto) (asks : request.operation = .createTransfer dto) :
      JustRejected config request reason (transferParams request.userId dto)
        (Response.transaction <$> tryCatch
          (recordRejection request.context (transferParams request.userId dto) reason)
          fun err => do
            if err.code ≠ some "P2002" then
              releaseTransferDailyReservation config (transferCheckInput request.userId dto)
            fallbackOrThrow err request.userId dto.referenceId .transfer).run

/-- The database answers the call, and no other call has committed a row of its reference. -/
def Unrivalled {Thread : Type} (thread : Thread) (params : TransactionParams)
    (current : Configuration Thread) (label : Label Thread) : Prop :=
  ∀ choice, label = .perform thread choice → choice.failure = none ∧
    ∀ commit ∈ current.shared.server.log, commit.thread ≠ thread →
      ∀ row ∈ commit.tx.transactions, row.key ≠ params.key

/-! ## The program of a rejection -/

namespace Common.Command

def Records (data : TransactionData) (journal : Journal) : interface.Op → Prop
  | .query .begin => journal = .empty
  | .query (.transactionCreate inserted) => inserted = data ∧ journal = Writing []
  | .query (.eventCreate _) => True
  | .query .commit => journal.open_.isSome
  | op => Command.Asks op

def Succeeds : (op : interface.Op) → interface.Answer op → Prop
  | .query _, answer => answer.isOk = true
  | _, _ => True

end Common.Command

/-- The journal of a rejection whose statements succeed. -/
def recordingMonitor (data : TransactionData) : Monitor interface Journal where
  permits := Command.Records data
  moves journal op answer following :=
    journalMonitor.moves journal op answer following ∧ Command.Succeeds op answer

section Programs

variable {data : TransactionData} {journal : Journal}

theorem recording_query {statement : Statement} {post : Except ServiceError statement.Result →
      Journal → Prop} (records : Command.Records data journal (.query statement))
    (answers : ∀ value, statement.Tells journal (.ok value) →
      post (.ok value) (statement.journal journal (.ok value))) :
    (recordingMonitor data).Obeys post (query statement) journal := by
  refine ⟨records, ?_⟩
  rintro answer _ ⟨⟨rfl, tells⟩, succeeds⟩
  cases answer with
  | ok value => exact answers value tells
  | error error => cases succeeds

theorem records_asks {op : interface.Op} (asks : Command.Asks op) :
    Command.Records data journal op := by
  cases op with
  | query statement =>
      cases statement with
      | transactionFindFirst | transactionSum => exact asks
      | _ => exact asks.elim
  | _ => exact asks

theorem recording_releaseReservation (rule : DailyLimitRule) (userId : Uuid)
    (referenceId : String) :
    (recordingMonitor data).Obeys (fun result final => result = .ok () ∧ final = journal)
      (rule.releaseReservation userId referenceId) journal :=
  (journal_releaseReservation rule userId referenceId).refine
    (issues_releaseReservation (fun _ asks => asks) rule userId referenceId)
    (fun _ _ asks => records_asks asks) fun _ _ _ _ moves => moves.1

variable (context : RequestContext) (params : TransactionParams) (reason : Option String)

def RecordsRow (data : TransactionData) (exception : HttpException)
    (result : Except ServiceError TransactionResponseDto) (journal : Journal) : Prop :=
  result = .error (.http exception) ∧
    ∃ row, journal = ⟨none, [[row]]⟩ ∧ ∃ id now, data.row id now = .ok row

theorem recording_recordRejection :
    (recordingMonitor (params.data .rejected (some .reject) reason)).Obeys
      (RecordsRow (params.data .rejected (some .reject) reason)
        (.badRequest (getFraudRejectionMessage params.type reason)))
      (recordRejection context params reason) .empty := by
  have creates : (recordingMonitor (params.data .rejected (some .reject) reason)).Obeys
      (fun result final => ∃ row, result = .ok row ∧ final = Writing [row] ∧
        ∃ id now, (params.data .rejected (some .reject) reason).row id now = .ok row)
      (createRejectedTransaction params reason) (Writing []) :=
    recording_query ⟨rfl, rfl⟩ fun row valid => ⟨row, rfl, rfl, valid⟩
  have inserts : (recordingMonitor (params.data .rejected (some .reject) reason)).Obeys
      (fun result final => result = .ok () ∧ ∃ row, final = Writing [row] ∧
        ∃ id now, (params.data .rejected (some .reject) reason).row id now = .ok row)
      (do
        let rejectedTransaction ← createRejectedTransaction params reason
        createFailedFraudEvent context params rejectedTransaction.id reason) (Writing []) := by
    refine Monitor.Obeys.bind creates (by rintro _ _ ⟨_, ⟨⟩, _⟩) ?_
    rintro row _ ⟨_, ⟨⟩, rfl, valid⟩
    exact recording_query trivial fun _ _ => ⟨rfl, row, rfl, valid⟩
  have opens : (recordingMonitor (params.data .rejected (some .reject) reason)).Obeys
      (fun result final => result = .ok () ∧ final = Writing []) (query .begin) .empty :=
    recording_query rfl fun _ _ => ⟨rfl, rfl⟩
  have commits (row : Transaction) :
      (recordingMonitor (params.data .rejected (some .reject) reason)).Obeys
        (fun result final => result = .ok () ∧ final = ⟨none, [[row]]⟩) (query .commit)
        (Writing [row]) := recording_query rfl fun _ _ => ⟨rfl, rfl⟩
  have transacts : (recordingMonitor (params.data .rejected (some .reject) reason)).Obeys
      (fun result final => result = .ok () ∧ ∃ row, final = ⟨none, [[row]]⟩ ∧
        ∃ id now, (params.data .rejected (some .reject) reason).row id now = .ok row)
      (transaction do
        let rejectedTransaction ← createRejectedTransaction params reason
        createFailedFraudEvent context params rejectedTransaction.id reason) .empty := by
    refine Monitor.Obeys.bind opens (by rintro _ _ ⟨⟨⟩, _⟩) ?_
    rintro _ _ ⟨_, rfl⟩
    refine Monitor.Obeys.attempt inserts ?_
    rintro _ _ ⟨rfl, row, rfl, valid⟩
    refine Monitor.Obeys.bind (commits row) (by rintro _ _ ⟨⟨⟩, _⟩) ?_
    rintro _ _ ⟨_, rfl⟩
    exact .pure ⟨rfl, row, rfl, valid⟩
  refine Monitor.Obeys.bind transacts (by rintro _ _ ⟨⟨⟩, _⟩) ?_
  rintro _ _ ⟨_, row, rfl, valid⟩
  exact .throw ⟨rfl, row, rfl, valid⟩

theorem recording_checked {rule : DailyLimitRule} {userId : Uuid} {referenceId : String} :
    (recordingMonitor (params.data .rejected (some .reject) reason)).Obeys
      (RecordsRow (params.data .rejected (some .reject) reason)
        (.badRequest (getFraudRejectionMessage params.type reason)))
      (tryCatch (recordRejection context params reason) fun err => do
        if err.code ≠ some "P2002" then rule.releaseReservation userId referenceId
        fallbackOrThrow err params.actorCustomerId params.referenceId params.type) .empty := by
  refine Monitor.Obeys.tryCatch (recording_recordRejection context params reason)
    (by rintro _ _ ⟨⟨⟩, _⟩) ?_
  rintro _ final ⟨⟨⟩, recorded⟩
  rw [if_pos (by rintro ⟨⟩), fallbackOrThrow_http]
  refine Monitor.Obeys.bind (recording_releaseReservation rule userId referenceId)
    (by rintro _ _ ⟨⟨⟩, _⟩) ?_
  rintro _ _ ⟨_, rfl⟩
  exact .throw ⟨rfl, recorded⟩

end Programs

/-! ## Its statements succeed -/

section Statements

variable {Thread : Type} [DecidableEq Thread] [Fintype Thread] {thread other : Thread}
  {server after : Server Thread} {params : TransactionParams} {journal : Journal}

omit [DecidableEq Thread] [Fintype Thread] in
theorem parseOptional_of_exists {named : Option String} {database : Database}
    (accounts : ∀ text, named = some text →
      ∃ id, Uuid.parse? text = some id ∧ (database.account? id).isSome) :
    ∃ parsed, parseOptional named = some parsed ∧
      ∀ id, parsed = some id → (database.account? id).isSome := by
  cases named with
  | none => exact ⟨none, rfl, by rintro _ ⟨⟩⟩
  | some text =>
      rcases accounts text rfl with ⟨id, parsed, found⟩
      refine ⟨some id, by simp [parseOptional, parsed], ?_⟩
      rintro _ ⟨⟩
      exact found

omit [DecidableEq Thread] [Fintype Thread] in
theorem Recordable.row {database : Database} (recordable : Recordable params database)
    (status : TransactionStatus) (decision : Option Postgres.FraudDecision)
    (reason : Option String) (id : Uuid) (now : ℕ) :
    ∃ row, (params.data status decision reason).row id now = .ok row ∧
      database.References row := by
  rcases parseOptional_of_exists (fun text named => recordable.accounts text (.inl named)) with
    ⟨fromAccountId, fromParsed, debited⟩
  rcases parseOptional_of_exists (fun text named => recordable.accounts text (.inr named)) with
    ⟨toAccountId, toParsed, credited⟩
  have assigned : Money.assign? params.amount = some ⟨_, recordable.amount⟩ :=
    dif_pos recordable.amount
  obtain ⟨row, valid⟩ : ∃ row, (params.data status decision reason).row id now = .ok row := by
    simp [TransactionData.row, TransactionParams.data, fromParsed, toParsed, assigned]
  refine ⟨row, valid, ?_⟩
  have rowOf := (rowOf_data valid).1
  rintro id (named | named)
  · exact debited id ((Option.some.inj (fromParsed.symm.trans rowOf.fromAccount)).trans named)
  · exact credited id ((Option.some.inj (toParsed.symm.trans rowOf.toAccount)).trans named)

omit [DecidableEq Thread] [Fintype Thread] in
theorem referenced_of_exists {id : Option Uuid}
    (accounts : ∀ key, id = some key → (server.database.account? key).isSome) :
    server.referenced thread id = true := by
  cases id with
  | none => rfl
  | some key =>
      show (server.visible thread key).isSome = true
      rw [visible_isSome]
      exact accounts key rfl

/-- The first row of its reference is inserted when it is recordable. -/
theorem insertTransaction_succeeds (recordable : Recordable params server.database)
    {status : TransactionStatus} {decision : Option Postgres.FraudDecision}
    {reason : Option String} {id : Uuid} {now : ℕ} {answer : Except DatabaseError Transaction}
    (unused : ∀ row ∈ server.database.transactions, row.key ≠ params.key)
    (unwritten : ∀ tx, server.open_ thread = some tx → tx.transactions = [])
    (inserted : server.insertTransaction thread (params.data status decision reason) id now =
      some (answer, after)) : answer.isOk = true := by
  rcases recordable.row status decision reason id now with ⟨row, valid, references⟩
  have key : row.key = params.key := (rowOf_data valid).1.key
  have committed : server.database.transactions.any (·.key == row.key) = false := by
    rw [List.any_eq_false]
    intro old member
    simpa [key] using unused old member
  have own : (server.open_ thread).any (·.holdsKey row.key) = false := by
    cases opened : server.open_ thread with
    | none => rfl
    | some tx => simp [Tx.holdsKey, unwritten tx opened]
  unfold Server.insertTransaction at inserted
  rw [valid] at inserted
  simp only at inserted
  split at inserted
  · cases inserted
  · split at inserted
    · cases inserted
    · rw [committed, own, referenced_of_exists fun id named => references id (.inl named),
        referenced_of_exists fun id named => references id (.inr named)] at inserted
      cases inserted
      rfl

/-- The step of the call does not fail, and only the call itself has committed rows of its
reference. -/
structure Alone (thread : Thread) (params : TransactionParams) (choice : Choice)
    (world : World Thread) : Prop where
  succeeds : choice.failure = none
  own : ∀ row ∈ world.server.database.transactions, row.key = params.key →
    ∃ commit ∈ world.server.log, commit.thread = thread ∧ row ∈ commit.tx.transactions

theorem succeeds_of_records {decision : Option Postgres.FraudDecision} {reason : Option String}
    {status : TransactionStatus} {choice : Choice} {world following : World Thread} {op : Command}
    {answer : op.Answer} (journals : Journals thread journal world.server)
    (recordable : Recordable params world.server.database)
    (records : Command.Records (params.data status decision reason) journal op)
    (alone : Alone thread params choice world)
    (performed : world.perform thread op choice = some (answer, following)) :
    Command.Succeeds op answer := by
  cases op with
  | query statement =>
      rcases Option.map_eq_some_iff.mp performed with ⟨⟨reply, server⟩, done, equal⟩
      cases equal
      simp only [Server.perform, alone.succeeds] at done
      show answer.isOk = true
      cases statement with
      | begin =>
          simp only [Server.respond] at done
          split at done
          · cases done
          · cases done
            rfl
      | commit =>
          simp only [Server.respond] at done
          split at done
          · cases done
            rfl
          · cases done
      | transactionCreate data =>
          rcases records with ⟨rfl, rfl⟩
          refine insertTransaction_succeeds recordable ?_ ?_ done
          · intro row member same
            rcases alone.own row member same with ⟨commit, logged, own, _⟩
            have listed : commit ∈ world.server.log.filter (·.thread = thread) :=
              List.mem_filter.mpr ⟨logged, by simpa using own⟩
            have none := journals.commits
            rw [List.map_eq_nil_iff] at none
            rw [none] at listed
            cases listed
          · intro tx opened
            have same := journals.opened
            rw [opened] at same
            exact Option.some.inj same
      | eventCreate | transactionFindFirst | transactionSum =>
          cases done
          rfl
      | _ => exact records.elim
  | _ => trivial

end Statements

/-! ## Every interleaving -/

section Runs

variable {Thread : Type} [DecidableEq Thread] [Fintype Thread] {config : FraudConfig}
  {requests : Thread → Request} {thread : Thread} {params : TransactionParams}
  {reason : Option String} {evaluated final : Configuration Thread} {result : CallResult}

theorem Recordable.performs {world after : World Thread} {command : Command} {choice : Choice}
    {answer : command.Answer} (recordable : Recordable params world.server.database)
    (pending : world.server.AllPending)
    (performed : world.perform thread command choice = some (answer, after)) :
    Recordable params after.server.database := by
  refine ⟨fun text named => ?_, recordable.amount⟩
  rcases recordable.accounts text named with ⟨id, parsed, found⟩
  refine ⟨id, parsed, ?_⟩
  rcases perform_cases performed with ⟨_, same⟩ | ⟨statement, reply, rfl, performs⟩
  · rwa [same]
  · exact performs.persists pending found

theorem recordingMonitor_mirrors (status : TransactionStatus)
    (decision : Option Postgres.FraudDecision) :
    Monitor.Mirrors (recordingMonitor (params.data status decision reason)) (machine Thread) thread
      (Alone thread params)
      (fun journal world => Journals thread journal world.server ∧
        Recordable params world.server.database) where
  acts := by
    rintro journal op choice before answer after ⟨journals, recordable⟩ records alone performed
    have begins : journalMonitor.permits journal op := by
      rintro rfl
      exact records
    rcases journalMonitor_reflects.acts journals begins performed with ⟨following, moves, kept⟩
    exact ⟨following, ⟨moves, succeeds_of_records journals recordable records alone performed⟩,
      kept, recordable.performs journals.pending performed⟩
  others := by
    rintro other journal op choice before answer after different ⟨journals, recordable⟩ performed
    exact ⟨journalMonitor_reflects.others different journals performed,
      recordable.performs journals.pending performed⟩
  environment := by
    rintro journal event before after ⟨journals, recordable⟩ happened
    exact ⟨journalMonitor_reflects.environment journals happened,
      environment_server happened ▸ recordable⟩

omit [DecidableEq Thread] [Fintype Thread] in
theorem JustRejected.follows {program : Program interface CallResult}
    (rejected : JustRejected config (requests thread) reason params program) :
    (∃ next, program = .call (.query .begin) next) ∧
    (requests thread).params? = some params ∧
    (recordingMonitor (params.data .rejected (some .reject) reason)).Follows
      (fun result final => result =
          .error (.http (.badRequest (getFraudRejectionMessage params.type reason))) ∧
        ∃ row, final = ⟨none, [[row]]⟩ ∧
          ∃ id now, (params.data .rejected (some .reject) reason).row id now = .ok row)
      program .empty := by
  have responds {program : Service TransactionResponseDto}
      (obeys : (recordingMonitor (params.data .rejected (some .reject) reason)).Obeys
        (RecordsRow (params.data .rejected (some .reject) reason)
          (.badRequest (getFraudRejectionMessage params.type reason))) program .empty) :
      (recordingMonitor (params.data .rejected (some .reject) reason)).Obeys
        (fun result final => result =
            .error (.http (.badRequest (getFraudRejectionMessage params.type reason))) ∧
          ∃ row, final = ⟨none, [[row]]⟩ ∧
            ∃ id now, (params.data .rejected (some .reject) reason).row id now = .ok row)
        (Response.transaction <$> program) .empty := by
    refine Monitor.Obeys.map obeys ?_ (by rintro _ _ ⟨⟨⟩, _⟩)
    rintro _ final ⟨⟨⟩, recorded⟩
    exact ⟨rfl, recorded⟩
  cases rejected with
  | withdraw dto asks =>
      exact ⟨⟨_, rfl⟩, by simp [Request.params?, asks],
        responds (recording_checked _ _ _)⟩
  | transfer dto asks =>
      exact ⟨⟨_, rfl⟩, by simp [Request.params?, asks],
        responds (recording_checked _ _ _)⟩

theorem Reachable.alone {current : Configuration Thread} {choice : Choice}
    (reachable : Reachable config requests current)
    (unrivalled : Unrivalled thread params current (.perform thread choice)) :
    Alone thread params choice current.shared := by
  rcases unrivalled choice rfl with ⟨succeeds, others⟩
  refine ⟨succeeds, fun row member same => ?_⟩
  rcases reachable.invariant.logged member with ⟨commit, logged, written⟩
  refine ⟨commit, logged, ?_, written⟩
  by_contra different
  exact others commit logged different row written same

theorem Reachable.along {start : Configuration Thread} {allowed : Configuration Thread →
      Label Thread → Prop} (reachable : Reachable config requests start)
    (run : Run step allowed start final) :
    Run step (fun between label => allowed between label ∧ Reachable config requests between)
      start final := by
  have kept : Run step (fun between label => allowed between label ∧
      Reachable config requests between) start final ∧ Reachable config requests final := by
    refine run.invariant (fun current => Run step (fun between label => allowed between label ∧
      Reachable config requests between) start current ∧ Reachable config requests current)
      ⟨.start, reachable⟩ ?_
    rintro current label next ⟨reached, reachable⟩ allows taken
    exact ⟨.next label reached ⟨allows, reachable⟩ taken, reachable.next taken⟩
  exact kept.1

theorem recorded_of_recordable (reachable : Reachable config requests evaluated)
    (rejected : JustRejected config (requests thread) reason params (evaluated.program thread))
    (run : Run step (Unrivalled thread params) evaluated final)
    (ended : final.program thread = .done result)
    (recordable : Recordable params evaluated.shared.server.database) :
    Recorded thread params reason result final.shared.server := by
  rcases rejected.follows with ⟨⟨next, begins⟩, asks, follows⟩
  rcases reachable.journals thread with ⟨journal, journals, journaled⟩
  rw [begins] at journaled
  rcases journaled.1 rfl with rfl
  have start : Monitor.Tracked (recordingMonitor (params.data .rejected (some .reject) reason))
      (fun journal world => Journals thread journal world.server ∧
        Recordable params world.server.database) _ thread evaluated :=
    ⟨.empty, ⟨journals, recordable⟩, follows⟩
  rcases start.run (recordingMonitor_mirrors .rejected (some .reject))
    (fun between choice allows => allows.2.alone allows.1) (reachable.along run) with
    ⟨last, ⟨journals, _⟩, follows⟩
  rw [ended] at follows
  rcases follows with ⟨throws, row, rfl, id, now, valid⟩
  rcases List.map_eq_singleton_iff.mp journals.commits with ⟨commit, own, written⟩
  have listed : commit ∈ final.shared.server.log.filter (·.thread = thread) := by simp [own]
  rcases List.mem_filter.mp listed with ⟨logged, same⟩
  have reached : Reachable config requests final := reachable.runs run.unrestricted
  rcases reached.logged commit logged with ⟨database, committable⟩
  rcases committable.row (written ▸ List.mem_singleton_self row) with ⟨_, _, posts | rejects⟩
  · have status := posts.completed
    rw [(rowOf_data valid).2.1] at status
    cases status
  · rcases rejects.events with ⟨event, events, announces⟩
    have reasoned : row.fraudReason = reason := by
      rcases TransactionData.row_ok valid with ⟨_, _, _, _, _, _, rfl⟩
      rfl
    rcases commit with ⟨author, tx⟩
    rcases (show author = thread by simpa using same) with rfl
    exact ⟨throws, tx, row, event, own, written, (rowOf_data valid).1, rejects.rejected,
      rejects.decision, reasoned, events, announces, rejects.unwritten, rejects.created⟩

theorem Recorded.recordable (reachable : Reachable config requests final)
    (recorded : Recorded thread params reason result final.shared.server) :
    Recordable params final.shared.server.database := by
  rcases recorded.committed with ⟨tx, row, event, own, written, rowOf, _⟩
  rcases reachable.journals thread with ⟨journal, journals, _⟩
  have commits : journal.commits = [[row]] := by
    rw [← journals.commits, own, List.map_singleton, written]
  have references : final.shared.server.database.References row :=
    journals.references row (by simp [Journal.rows, commits])
  have exists_ {text : String} {named : Option Uuid}
      (parsed : parseOptional (some text) = some named)
      (account : ∀ id, named = some id → (final.shared.server.database.account? id).isSome) :
      ∃ id, Uuid.parse? text = some id ∧ (final.shared.server.database.account? id).isSome := by
    rcases Option.map_eq_some_iff.mp parsed with ⟨id, value, rfl⟩
    exact ⟨id, value, account id rfl⟩
  refine ⟨?_, Money.assign?_cents rowOf.amount ▸ row.amount.fits⟩
  rintro text (named | named)
  · exact exists_ (named ▸ rowOf.fromAccount) fun id debited => references id (.inl debited)
  · exact exists_ (named ▸ rowOf.toAccount) fun id credited => references id (.inr credited)

/-- A rejection is recorded and reported exactly when its row can be inserted. -/
theorem rejection_recorded (reachable : Reachable config requests evaluated)
    (rejected : JustRejected config (requests thread) reason params (evaluated.program thread))
    (run : Run step (Unrivalled thread params) evaluated final)
    (ended : final.program thread = .done result)
    (settled : Recordable params final.shared.server.database →
      Recordable params evaluated.shared.server.database) :
    Recorded thread params reason result final.shared.server ↔
      Recordable params evaluated.shared.server.database := by
  refine ⟨fun recorded => settled ?_, recorded_of_recordable reachable rejected run ended⟩
  exact recorded.recordable (reachable.runs run.unrestricted)

end Runs

/-! ### A withdrawal above the limit -/

/-- A withdrawal above the limit for one withdrawal is rejected by its first rule. -/
theorem exceeding_rejected {config : FraudConfig} {request : Request}
    {dto : CreateWithdrawRequestDto} (asks : request.operation = .createWithdraw dto)
    (exceeds : config.withdrawMaxAmount < dto.amount) :
    ∃ next, (handle config request).run = .call (.query (.transactionFindFirst
        ⟨request.userId, .withdraw, dto.referenceId⟩)) next ∧
      JustRejected config request (some "WITHDRAW_AMOUNT_EXCEEDED")
        (withdrawParams request.userId dto) (next (.ok none)) := by
  rcases request with ⟨userId, context, operation⟩
  cases asks
  refine ⟨_, rfl, ?_⟩
  have evaluates : evaluateWithdraw config (withdrawCheckInput userId dto) =
      pure ⟨.reject, some "WITHDRAW_AMOUNT_EXCEEDED"⟩ := by
    simp only [evaluateWithdraw, withdrawRules, evaluateRules, withdrawAmountExceededRule,
      withdrawCheckInput, gt_iff_lt, if_pos exceeds]
    rfl
  change JustRejected config _ _ _ (Response.transaction <$> tryCatch
    (do
      let preFraudResult ← evaluateWithdraw config (withdrawCheckInput userId dto)
      if preFraudResult.decision = .reject then
        recordRejection context (withdrawParams userId dto) preFraudResult.reason
      else transaction (withdrawBody context userId dto) : Service TransactionResponseDto) _).run
  rw [evaluates]
  exact .withdraw dto rfl

def exceedingDto : CreateWithdrawRequestDto :=
  (CreateWithdrawRequestDto.validate 60000 "withdraw" sampleText).get (by decide +kernel)

/-- The customer opens an account, and withdraws 60000.00 from the account of that text. -/
def exceedingRequests : Fin 2 → Request
  | 0 => { userId := ⟨7⟩, operation := .createAccount ⟨.USD⟩ }
  | 1 => { userId := ⟨7⟩, operation := .createWithdraw exceedingDto }

def unrivalled? {Thread : Type} [DecidableEq Thread] (thread : Thread) (key : TransactionKey)
    (current : Configuration Thread) : Label Thread → Bool
  | .perform acting choice => acting != thread || choice.failure.isNone &&
      current.shared.server.log.all fun commit => commit.thread == thread ||
        commit.tx.transactions.all fun row => row.key != key
  | .environment _ => true

theorem unrivalled_sound {Thread : Type} [DecidableEq Thread] {thread : Thread}
    {params : TransactionParams} {current : Configuration Thread} {label : Label Thread}
    (checked : unrivalled? thread params.key current label = true) :
    Unrivalled thread params current label := by
  rintro choice rfl
  simp only [unrivalled?, bne_self_eq_false, Bool.false_or, Bool.and_eq_true,
    Option.isNone_iff_eq_none, List.all_eq_true, Bool.or_eq_true, beq_iff_eq, bne_iff_ne] at checked
  exact ⟨checked.1, fun commit logged different row written =>
    (checked.2 commit logged).resolve_left different row written⟩

def thrownError (program : Program interface CallResult) : Option ServiceError :=
  match program with
  | .done (.error error) => some error
  | _ => none

theorem thrownError_eq {program : Program interface CallResult} {error : ServiceError}
    (threw : thrownError program = some error) : program = .done (.error error) := by
  unfold thrownError at threw
  split at threw
  · cases threw
    rfl
  · cases threw

def isOpening (_ : Configuration (Fin 2)) : Label (Fin 2) → Bool
  | .perform acting _ => acting == 0
  | .environment _ => true

/-- The steps of the other call, the lookup of the withdrawal and its further steps. -/
def exceedingLeads (opening : List (Label (Fin 2))) (steps : ℕ)
    (test : Configuration (Fin 2) → Configuration (Fin 2) → Bool) : Bool :=
  (execute step isOpening (initial {} exceedingRequests .empty 0) opening).any fun opened =>
    opened.shared.server.database.transactions.isEmpty &&
      (step opened (act 1)).any fun evaluated =>
        (execute step (unrivalled? 1 (withdrawParams ⟨7⟩ exceedingDto).key) evaluated
          (List.replicate steps (act 1))).any (test evaluated)

theorem exists_exceeding {opening : List (Label (Fin 2))} {steps : ℕ}
    {test : Configuration (Fin 2) → Configuration (Fin 2) → Bool}
    (leads : exceedingLeads opening steps test = true) :
    ∃ evaluated final, Reachable {} exceedingRequests evaluated ∧
      JustRejected {} (exceedingRequests 1) (some "WITHDRAW_AMOUNT_EXCEEDED")
        (withdrawParams ⟨7⟩ exceedingDto) (evaluated.program 1) ∧
      Run step (Unrivalled 1 (withdrawParams ⟨7⟩ exceedingDto)) evaluated final ∧
      test evaluated final = true := by
  rcases (Option.any_eq_true _ _).mp leads with ⟨opened, opens, checked⟩
  rw [Bool.and_eq_true, List.isEmpty_iff] at checked
  rcases checked with ⟨unused, leads⟩
  rcases (Option.any_eq_true _ _).mp leads with ⟨evaluated, taken, leads⟩
  have opening : Run step (fun current label => isOpening current label = true)
      (initial {} exceedingRequests .empty 0) opened :=
    run_of_execute step isOpening (fun _ _ checked => checked) opens
  have reachable : Reachable {} exceedingRequests opened := ⟨.empty, 0, opening.unrestricted⟩
  have waiting : opened.program 1 = (handle {} (exceedingRequests 1)).run := by
    refine opening.invariant (fun between => between.program 1 = (handle {} (exceedingRequests 1)).run)
      rfl fun between label next waiting checked taken => ?_
    refine (Machine.step_other taken fun choice same => ?_).trans waiting
    subst same
    cases checked
  have exceeds : ({} : FraudConfig).withdrawMaxAmount < exceedingDto.amount := by decide +kernel
  have asks : (exceedingRequests 1).operation = .createWithdraw exceedingDto := rfl
  rcases exceeding_rejected asks exceeds with ⟨next, lookup, rejected⟩
  rcases exists_run_of_execute step _ (Unrivalled 1 (withdrawParams ⟨7⟩ exceedingDto))
    (fun _ _ checked => unrivalled_sound checked) leads with ⟨final, run, passed⟩
  refine ⟨evaluated, final, reachable.next taken, ?_, run, passed⟩
  rcases Machine.step_perform taken with ⟨op, rest, answer, shared, program, performed, rfl⟩
  rw [waiting, lookup] at program
  cases program
  cases performed
  rw [unused]
  show JustRejected _ _ _ _ (Function.update opened.program 1 _ 1)
  rw [Function.update_self]
  exact rejected

private theorem missing_leads : exceedingLeads [] 5 (fun _ final =>
    thrownError (final.program 1) == some (.database .foreignKeyViolation)) = true := by
  decide +kernel

/-- The account does not exist: the row of the rejection breaks a foreign key, nothing is
recorded and the customer is not told of the limit. -/
theorem missing_unrecorded : ∃ (evaluated final : Configuration (Fin 2)) (result : CallResult),
    Reachable {} exceedingRequests evaluated ∧
    JustRejected {} (exceedingRequests 1) (some "WITHDRAW_AMOUNT_EXCEEDED")
      (withdrawParams ⟨7⟩ exceedingDto) (evaluated.program 1) ∧
    Run step (Unrivalled 1 (withdrawParams ⟨7⟩ exceedingDto)) evaluated final ∧
    final.program 1 = .done result ∧
    ¬Recorded 1 (withdrawParams ⟨7⟩ exceedingDto) (some "WITHDRAW_AMOUNT_EXCEEDED") result
      final.shared.server := by
  rcases exists_exceeding missing_leads with ⟨evaluated, final, reachable, rejected, run, passed⟩
  have ended := thrownError_eq (by simpa using passed)
  refine ⟨evaluated, final, _, reachable, rejected, run, ended, fun recorded => ?_⟩
  cases recorded.throws

private theorem present_leads : exceedingLeads [act 0, act 0 sampleId, act 0] 6 (fun evaluated final =>
    (evaluated.shared.server.database.account? ⟨sampleId⟩).isSome &&
      (thrownError (final.program 1)).isSome) = true := by
  decide +kernel

theorem rejection_recorded_present : ∃ (evaluated final : Configuration (Fin 2)) (result : CallResult),
    Reachable {} exceedingRequests evaluated ∧ final.program 1 = .done result ∧
    Recordable (withdrawParams ⟨7⟩ exceedingDto) evaluated.shared.server.database ∧
    (Recorded 1 (withdrawParams ⟨7⟩ exceedingDto) (some "WITHDRAW_AMOUNT_EXCEEDED") result
        final.shared.server ↔
      Recordable (withdrawParams ⟨7⟩ exceedingDto) evaluated.shared.server.database) := by
  rcases exists_exceeding present_leads with ⟨evaluated, final, reachable, rejected, run, passed⟩
  rw [Bool.and_eq_true] at passed
  rcases Option.isSome_iff_exists.mp passed.2 with ⟨error, threw⟩
  have ended := thrownError_eq threw
  have recordable : Recordable (withdrawParams ⟨7⟩ exceedingDto)
      evaluated.shared.server.database := by
    refine ⟨?_, by decide +kernel⟩
    rintro text (named | named)
    · cases named
      exact ⟨⟨sampleId⟩, by decide +kernel, passed.1⟩
    · cases named
  exact ⟨evaluated, final, _, reachable, ended, recordable,
    rejection_recorded reachable rejected run ended fun _ => recordable⟩

end BankingBackend
