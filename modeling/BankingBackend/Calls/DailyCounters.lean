import BankingBackend.Calls.Commands
import BankingBackend.Calls.Invariant
import BankingBackend.Redis.Reservations

/-! # The daily counters of a call

What a transfer or a withdrawal does to the daily counters of its customer, when
Redis answers and every reservation covers what will be recorded: it completes
its row only under a reservation, and gives up a reservation only while it has
no completed row.
-/

namespace BankingBackend

open Foundation Foundation.Program Postgres Redis Common Fraud Transactions

/-- The completed rows that count toward a daily limit, of any day. -/
def countedRows (scope : DailyScope) (database : Database) : List Transaction :=
  database.transactions.filter fun row =>
    row.status = .completed ∧ row.type = scope.type ∧ row.actorCustomerId = scope.userId

/-- What the row of a request says, after rounding to cents. -/
def recordedAmount (amount : ℚ) : ℚ := roundHalfAway (amount * 100) / 100

theorem mem_countedRows {scope : DailyScope} {database : Database} {row : Transaction} :
    row ∈ countedRows scope database ↔ row ∈ database.transactions ∧
      row.status = .completed ∧ row.type = scope.type ∧ row.actorCustomerId = scope.userId := by
  simp [countedRows]

theorem countedRows_append (scope : DailyScope) {before after : Database}
    {rows : List Transaction} (appended : after.transactions = before.transactions ++ rows)
    (uncounted : ∀ row ∈ rows, row.status = .completed → row.type = scope.type →
      row.actorCustomerId ≠ scope.userId) :
    countedRows scope after = countedRows scope before := by
  have none : rows.filter (fun row => row.status = .completed ∧ row.type = scope.type ∧
      row.actorCustomerId = scope.userId) = [] := by
    rw [List.filter_eq_nil_iff]
    intro row member counted
    rcases of_decide_eq_true counted with ⟨completed, type, user⟩
    exact uncounted row member completed type user
  rw [countedRows, appended, List.filter_append, none, List.append_nil]
  rfl

section Definitions

variable {Thread : Type}

structure DailyRely (scope : DailyScope) (thread : Thread) (before after : World Thread) :
    Prop where
  keys : after.redis.daily scope = before.redis.daily scope
  rows : countedRows scope after.server.database = countedRows scope before.server.database
  own : after.server.open_ thread = before.server.open_ thread
  today : dayBucketOf after.now = dayBucketOf before.now

def Fresh (referenceId : String) (_ : DailyKeys) (rows : List Transaction) : Prop :=
  ∀ row ∈ rows, row.referenceId ≠ referenceId

inductive DailyStep (scope : DailyScope) (dailyLimit amount : ℚ) (referenceId : String)
    (before after : World Thread) : Prop
  | neutral (keys : after.redis.daily scope = before.redis.daily scope)
      (rows : countedRows scope after.server.database = countedRows scope before.server.database)
  | commits (keys : after.redis.daily scope = before.redis.daily scope)
      (reserved : (before.redis.daily scope).Holds (recordedAmount amount) referenceId)
  | reserves (keys : after.redis.daily scope =
        (reserveLua before.redis.numbers amount dailyLimit referenceId
          (before.redis.daily scope)).2)
      (rows : countedRows scope after.server.database = countedRows scope before.server.database)
      (covers : (before.redis.daily scope).Covers before.redis.numbers amount dailyLimit
        (recordedAmount amount) referenceId)
  | releases (keys : after.redis.daily scope =
        releaseLua before.redis.numbers referenceId (before.redis.daily scope))
      (rows : countedRows scope after.server.database = countedRows scope before.server.database)
      (subtracts : (before.redis.daily scope).Subtracts before.redis.numbers referenceId)
      (fresh : Fresh referenceId (before.redis.daily scope)
        (countedRows scope before.server.database))

/-- Redis answers the calls that count, each reservation covers what will be recorded, and
the total loses nothing to rounding. -/
structure DailyPermits (requests : Thread → Request) (scope : DailyScope) (thread : Thread)
    (command : Command) (choice : Choice) (world : World Thread) : Prop where
  invariant : Invariant requests world.server
  answers : (requests thread).Counts scope → choice.redis = .answered
  covers : (requests thread).Counts scope → ∀ reservedIn referenceId amount dailyLimit,
    command = .evalReserve reservedIn referenceId amount dailyLimit →
    (world.redis.daily scope).Covers world.redis.numbers amount dailyLimit
      (recordedAmount amount) referenceId
  subtracts : (requests thread).Counts scope → ∀ releasedIn referenceId,
    command = .evalRelease releasedIn referenceId →
    (world.redis.daily scope).Subtracts world.redis.numbers referenceId

structure Calm (scope : DailyScope) (thread : Thread)
    (holds : DailyKeys → List Transaction → Prop) (world : World Thread) : Prop where
  uncompleted : world.server.Uncompleted thread
  today : dayBucketOf world.now = scope.dayBucket
  holds : holds (world.redis.daily scope) (countedRows scope world.server.database)

structure Inside (scope : DailyScope) (thread : Thread)
    (holds : DailyKeys → List Transaction → Prop) (world : World Thread) : Prop where
  opened : ∃ tx, world.server.open_ thread = some tx
  today : dayBucketOf world.now = scope.dayBucket
  holds : holds (world.redis.daily scope) (countedRows scope world.server.database)

/-- No counted row has the reference yet, and its reservation is large enough. -/
def Reserved (amount : ℚ) (referenceId : String) (keys : DailyKeys) (rows : List Transaction) :
    Prop :=
  Fresh referenceId keys rows ∧ keys.Holds (recordedAmount amount) referenceId

end Definitions

/-! ## Interference -/

section Interference

variable {Thread : Type} {scope : DailyScope} {thread : Thread}
  {holds weaker : DailyKeys → List Transaction → Prop} {first second third : World Thread}

theorem DailyRely.refl (world : World Thread) : DailyRely scope thread world world :=
  ⟨rfl, rfl, rfl, rfl⟩

theorem DailyRely.trans (before : DailyRely scope thread first second)
    (after : DailyRely scope thread second third) : DailyRely scope thread first third :=
  ⟨after.keys.trans before.keys, after.rows.trans before.rows, after.own.trans before.own,
    after.today.trans before.today⟩

theorem Calm.stable (rely : DailyRely scope thread first second)
    (calm : Calm scope thread holds first) : Calm scope thread holds second where
  uncompleted tx opened := calm.uncompleted tx (rely.own ▸ opened)
  today := rely.today.trans calm.today
  holds := by
    rw [rely.keys, rely.rows]
    exact calm.holds

theorem Inside.stable (rely : DailyRely scope thread first second)
    (inside : Inside scope thread holds first) : Inside scope thread holds second where
  opened := by
    rw [rely.own]
    exact inside.opened
  today := rely.today.trans inside.today
  holds := by
    rw [rely.keys, rely.rows]
    exact inside.holds

theorem Calm.mono (calm : Calm scope thread holds first)
    (implies : ∀ keys rows, holds keys rows → weaker keys rows) :
    Calm scope thread weaker first :=
  ⟨calm.uncompleted, calm.today, implies _ _ calm.holds⟩

end Interference

/-! ## Issuing commands -/

section Issuing

variable {Thread : Type} [DecidableEq Thread] [Fintype Thread] {requests : Thread → Request}
  {scope : DailyScope} {dailyLimit : ℚ} {params : TransactionParams} {thread : Thread}
  {holds : DailyKeys → List Transaction → Prop} {world : World Thread}

abbrev MeetsDaily {α : Type} (requests : Thread → Request) (scope : DailyScope) (dailyLimit : ℚ)
    (params : TransactionParams) (thread : Thread) (program : Service α)
    (post : Except ServiceError α → World Thread → Prop) (world : World Thread) : Prop :=
  EnsuresResult (((machine Thread).restrict (DailyPermits requests scope)).perform thread)
    (DailyRely scope thread)
    (DailyStep scope dailyLimit params.amount params.referenceId) program post world

theorem daily_request {command : Command} {stage : World Thread → Prop}
    {post : Except ServiceError command.Answer → World Thread → Prop} (initially : stage world)
    (stable : ∀ before after, DailyRely scope thread before after → stage before → stage after)
    (performs : ∀ before choice answer after, stage before →
      DailyPermits requests scope thread command choice before →
      before.perform thread command choice = some (answer, after) →
      DailyStep scope dailyLimit params.amount params.referenceId before after ∧
        post (.ok answer) after) :
    MeetsDaily requests scope dailyLimit params thread (request command) post world := by
  intro before interference choice answer after performed
  rcases Machine.restrict_perform performed with ⟨permitted, performed⟩
  exact performs before choice answer after (stable _ _ interference initially) permitted performed

theorem daily_query {statement : Statement} {stage : World Thread → Prop}
    {post : Except ServiceError statement.Result → World Thread → Prop} (initially : stage world)
    (stable : ∀ before after, DailyRely scope thread before after → stage before → stage after)
    (performs : ∀ (before : World Thread) failure newId answer server, stage before →
      Invariant requests before.server →
      before.server.perform thread failure newId before.now statement = some (answer, server) →
      DailyStep scope dailyLimit params.amount params.referenceId before { before with server } ∧
        post (answer.mapError .database) { before with server }) :
    MeetsDaily requests scope dailyLimit params thread (query statement) post world := by
  have answered : MeetsDaily requests scope dailyLimit params thread (request (.query statement))
      (fun result final => match result with
        | .ok answer => post (answer.mapError .database) final
        | .error _ => False) world := by
    refine daily_request initially stable ?_
    intro before choice answer after there permitted performed
    rcases Option.map_eq_some_iff.mp performed with ⟨⟨reply, server⟩, done, equal⟩
    cases equal
    exact performs before _ _ _ _ there permitted.invariant done
  refine answered.bind (fun _ _ absurd => absurd.elim) fun answer between established => ?_
  cases answer with
  | ok value => exact .pure established
  | error error => exact .throw established

theorem Calm.quiet {command : Command} {choice : Choice} {before after : World Thread}
    {answer : command.Answer} (calm : Calm scope thread holds before)
    (quiet : Command.Quiet command)
    (performed : before.perform thread command choice = some (answer, after)) :
    DailyStep scope dailyLimit params.amount params.referenceId before after ∧
      Calm scope thread holds after := by
  cases command with
  | query statement =>
      rcases Option.map_eq_some_iff.mp performed with ⟨⟨reply, server⟩, done, equal⟩
      cases equal
      rcases Server.perform_responds done with responds | ⟨_, rfl⟩
      · rcases responds.quiet quiet calm.uncompleted with
          ⟨uncompleted, rows, appended, uncompletedRows⟩
        have same := countedRows_append scope appended
          fun row member completed => absurd completed (uncompletedRows row member)
        refine ⟨.neutral rfl same, uncompleted, calm.today, ?_⟩
        show holds _ (countedRows scope server.database)
        rw [same]
        exact calm.holds
      · exact ⟨.neutral rfl rfl, Server.uncompleted_setOpen (fun _ absurd => by cases absurd),
          calm.today, calm.holds⟩
  | isReady =>
      cases performed
      exact ⟨.neutral rfl rfl, calm⟩
  | evalReserve => exact quiet.elim
  | evalRelease => exact quiet.elim
  | evalIncrementMinute minute =>
      cases outcome : choice.redis <;> simp only [World.perform, World.evaluated, outcome] at performed
      all_goals
        cases performed
        exact ⟨.neutral rfl rfl, calm.uncompleted, calm.today, calm.holds⟩
  | now =>
      cases performed
      exact ⟨.neutral rfl rfl, calm⟩

theorem Calm.issues {α : Type} {program : Service α} (calm : Calm scope thread holds world)
    (issues : Issues Command.Quiet program) :
    MeetsDaily requests scope dailyLimit params thread program
      (fun _ => Calm scope thread holds) world := by
  refine Only.ensures issues (fun _ _ rely calm => calm.stable rely) ?_ calm
  intro command quiet choice before answer after calm performed
  exact calm.quiet quiet (Machine.restrict_perform performed).2

theorem Inside.issues {α : Type} {program : Service α} (inside : Inside scope thread holds world)
    (issues : Issues Command.Inner program) :
    MeetsDaily requests scope dailyLimit params thread program
      (fun _ => Inside scope thread holds) world := by
  refine Only.ensures issues (fun _ _ rely inside => inside.stable rely) ?_ inside
  intro command inner choice before answer after inside performed
  cases command with
  | query statement =>
      rcases Option.map_eq_some_iff.mp (Machine.restrict_perform performed).2 with
        ⟨⟨reply, server⟩, done, equal⟩
      cases equal
      rcases inside.opened with ⟨tx, opened⟩
      rcases Server.perform_responds done with responds | ⟨outer, _⟩
      · rcases responds.inner inner opened with ⟨same, stillOpen⟩
        refine ⟨.neutral rfl (congrArg (countedRows scope) same), stillOpen, inside.today, ?_⟩
        show holds _ (countedRows scope server.database)
        rw [same]
        exact inside.holds
      · exact absurd inner outer
  | _ => exact inner.elim

end Issuing

end BankingBackend
