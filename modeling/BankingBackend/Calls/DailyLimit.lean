import BankingBackend.Calls.DailyCounters
import BankingBackend.System

/-! # A call under its daily limit

Withdrawals and transfers from the first lookup to the last, with what each stage
knows of the customer's reservations and counted rows.
-/

namespace BankingBackend

open Foundation Foundation.Program Postgres Redis Common Fraud Transactions

variable {Thread : Type} [DecidableEq Thread] [Fintype Thread] {requests : Thread → Request}
  {scope : DailyScope} {dailyLimit : ℚ} {params : TransactionParams} {thread : Thread}
  {world : World Thread}

/-! ## Transactions -/

/-- How an attempt to move the money ends: done, or with the reservation unused. -/
def Executed (scope : DailyScope) (params : TransactionParams) (thread : Thread) {α : Type}
    (result : Except ServiceError α) (world : World Thread) : Prop :=
  match result with
  | .ok _ => True
  | .error _ => Calm scope thread (Reserved params.amount params.referenceId) world

theorem daily_begin {holds : DailyKeys → List Transaction → Prop}
    (calm : Calm scope thread holds world) :
    MeetsDaily requests scope dailyLimit params thread (query .begin)
      (fun result final => match result with
        | .ok _ => Inside scope thread holds final
        | .error _ => Calm scope thread holds final) world := by
  refine daily_query calm (fun _ _ rely calm => calm.stable rely) ?_
  intro before failure newId answer server calm _ performed
  unfold Server.perform at performed
  split at performed
  · simp only [Server.respond] at performed
    split at performed
    · cases performed
    · cases performed
      exact ⟨.neutral rfl rfl, ⟨.empty, Server.setOpen_open _⟩, calm.today, calm.holds⟩
  · split at performed
    · cases performed
    · cases performed
      exact ⟨.neutral rfl rfl, calm⟩

/-- A commit counts the row under its reservation; a failing one counts nothing. -/
theorem daily_commit
    (inside : Inside scope thread (Reserved params.amount params.referenceId) world) :
    MeetsDaily requests scope dailyLimit params thread (query .commit)
      (Executed scope params thread) world := by
  refine daily_query inside (fun _ _ rely inside => inside.stable rely) ?_
  intro before failure newId answer server inside _ performed
  unfold Server.perform at performed
  split at performed
  · simp only [Server.respond] at performed
    split at performed
    · cases performed
      exact ⟨.commits rfl inside.holds.2, trivial⟩
    · cases performed
  · split at performed
    · cases performed
    · cases performed
      exact ⟨.neutral rfl rfl, Server.uncompleted_setOpen (fun _ absurd => by cases absurd),
        inside.today, inside.holds⟩

theorem daily_rollback {holds : DailyKeys → List Transaction → Prop}
    (inside : Inside scope thread holds world) :
    MeetsDaily requests scope dailyLimit params thread (query .rollback)
      (fun _ => Calm scope thread holds) world := by
  refine daily_query inside (fun _ _ rely inside => inside.stable rely) ?_
  intro before failure newId answer server inside _ performed
  have closes : server = before.server.setOpen thread none := by
    unfold Server.perform at performed
    split at performed
    · cases performed
      rfl
    · split at performed
      · cases performed
      · cases performed
        rfl
  subst closes
  exact ⟨.neutral rfl rfl, Server.uncompleted_setOpen (fun _ absurd => by cases absurd),
    inside.today, inside.holds⟩

theorem daily_transaction {α : Type} {body : Service α} (issues : Issues Command.Inner body)
    (calm : Calm scope thread (Reserved params.amount params.referenceId) world) :
    MeetsDaily requests scope dailyLimit params thread (transaction body)
      (Executed scope params thread) world := by
  refine (daily_begin calm).bind (fun _ _ calm => calm) fun _ between inside => ?_
  refine (inside.issues issues).attempt fun outcome between inside => ?_
  cases outcome with
  | ok value => exact (daily_commit inside).bind (fun _ _ calm => calm) fun _ _ _ => .pure trivial
  | error error => exact (daily_rollback inside).attempt fun _ _ calm => .throw calm

theorem daily_transferAttempts {context : RequestContext} {userId : Uuid}
    {dto : CreateTransferRequestDto} (remaining : ℕ)
    (calm : Calm scope thread (Reserved params.amount params.referenceId) world) :
    MeetsDaily requests scope dailyLimit params thread
      (transferAttempts context userId dto remaining) (Executed scope params thread) world := by
  have attempt : ∀ world : World Thread,
      Calm scope thread (Reserved params.amount params.referenceId) world →
      MeetsDaily requests scope dailyLimit params thread
        (transaction (transferBody context userId dto)) (Executed scope params thread) world :=
    fun _ calm => daily_transaction (inner_transferBody context userId dto) calm
  induction remaining generalizing world with
  | zero => exact attempt world calm
  | succ remaining induction =>
      refine EnsuresResult.tryCatch (attempt world calm) (fun _ _ done => done) ?_
      intro err between calm
      by_cases retryable : isRetryableTransactionError err = true
      · rw [if_pos retryable]
        exact induction calm
      · rw [if_neg retryable]
        exact .throw calm

/-! ## The lookup -/

variable (asks : (requests thread).params? = some params) (type : scope.type = params.type)
  (user : scope.userId = params.actorCustomerId)

omit [DecidableEq Thread] [Fintype Thread] in
theorem found_unique {server : Server Thread} (invariant : Invariant requests server)
    {row other : Transaction} (member : row ∈ server.database.transactions)
    (otherMember : other ∈ server.database.transactions) (same : row.key = other.key) :
    row = other :=
  List.inj_on_of_nodup_map invariant.keys member otherMember same

include type user in
theorem daily_findExisting (calm : Calm scope thread (fun _ _ => True) world) :
    MeetsDaily requests scope dailyLimit params thread
      (findExisting params.actorCustomerId params.type params.referenceId)
      (fun result final => match result with
        | .ok existing => Calm scope thread (fun keys rows =>
            (∀ row, existing = some row → row.status ≠ .completed) →
              Fresh params.referenceId keys rows) final
        | .error _ => True) world := by
  refine daily_query calm (fun _ _ rely calm => calm.stable rely) ?_
  intro before failure newId answer server calm invariant performed
  unfold Server.perform at performed
  split at performed
  · cases performed
    refine ⟨.neutral rfl rfl, calm.uncompleted, calm.today, ?_⟩
    intro uncompleted row counted same
    rcases mem_countedRows.mp counted with ⟨member, completed, rowType, rowUser⟩
    have key : row.key = params.key := by
      simp [Transaction.key, TransactionParams.key, rowType, rowUser, type, user, same]
    cases found : before.server.database.transactions.find? fun row => row.key == params.key with
    | none =>
        have absent := List.find?_eq_none.mp found row member
        simp [key] at absent
    | some existing =>
        have existingKey : existing.key = params.key := by simpa using List.find?_some found
        have unique := found_unique invariant (List.mem_of_find?_eq_some found) member
          (existingKey.trans key.symm)
        exact uncompleted existing found (unique ▸ completed)
  · split at performed
    · cases performed
    · cases performed
      exact ⟨.neutral rfl rfl, trivial⟩

variable (params) in
include type user in
theorem daily_existingOr {rest : Service TransactionResponseDto}
    (calm : Calm scope thread (fun _ _ => True) world)
    (meets : ∀ world : World Thread, Calm scope thread (Fresh params.referenceId) world →
      MeetsDaily requests scope dailyLimit params thread rest (fun _ _ => True) world) :
    MeetsDaily requests scope dailyLimit params thread
      (do
        let existing ← findExisting params.actorCustomerId params.type params.referenceId
        match ← resolveExistingOrThrow existing params.type with
        | some idempotentResult => pure idempotentResult
        | none => rest)
      (fun _ _ => True) world := by
  refine (daily_findExisting type user calm).bind (fun _ _ _ => trivial) ?_
  intro existing between found
  have goesOn : (∀ row, existing = some row → row.status ≠ .completed) →
      MeetsDaily requests scope dailyLimit params thread rest (fun _ _ => True) between :=
    fun uncompleted => meets between (found.mono fun _ _ fresh => fresh uncompleted)
  cases existing with
  | none => exact goesOn (fun _ absurd => by cases absurd)
  | some row =>
      simp only [resolveExistingOrThrow]
      split
      · exact EnsuresResult.pure trivial
      · rename_i uncompleted
        split
        · exact EnsuresResult.throw trivial
        · refine goesOn ?_
          rintro _ ⟨⟩
          exact uncompleted

/-! ## The fraud check -/

/-- How an evaluation ends: an approval means that the reservation is made. -/
def Evaluated (scope : DailyScope) (params : TransactionParams) (thread : Thread)
    (result : Except ServiceError FraudDecisionResult) (world : World Thread) : Prop :=
  match result with
  | .ok decided => Calm scope thread (fun keys rows => Fresh params.referenceId keys rows ∧
      (decided.decision ≠ .reject →
        keys.Holds (recordedAmount params.amount) params.referenceId)) world
  | .error _ => Calm scope thread (Fresh params.referenceId) world

omit [DecidableEq Thread] [Fintype Thread] in
theorem evaluated_reject {reason : Option String}
    (calm : Calm scope thread (Fresh params.referenceId) world) :
    Evaluated scope params thread (.ok ⟨.reject, reason⟩) world :=
  calm.mono fun _ _ fresh => ⟨fresh, fun approved => absurd rfl approved⟩

variable (counts : (requests thread).Counts scope)

include counts in
theorem daily_reserve (calm : Calm scope thread (Fresh params.referenceId) world) :
    MeetsDaily requests scope dailyLimit params thread
      (request (.evalReserve scope params.referenceId params.amount dailyLimit))
      (fun result final => ∃ allowed, result = .ok (some allowed) ∧
        Calm scope thread (fun keys rows => Fresh params.referenceId keys rows ∧
          (allowed = true → keys.Holds (recordedAmount params.amount) params.referenceId)) final)
      world := by
  refine daily_request calm (fun _ _ rely calm => calm.stable rely) ?_
  intro before choice answer after calm permitted performed
  simp only [World.perform, World.evaluated, permitted.answers counts] at performed
  cases performed
  have keys : (before.reserve scope params.referenceId params.amount dailyLimit).2.daily scope =
      (reserveLua before.redis.numbers params.amount dailyLimit params.referenceId
        (before.redis.daily scope)).2 := Function.update_self _ _ _
  have covers := permitted.covers counts _ _ _ _ rfl
  refine ⟨.reserves keys rfl covers, _, rfl, calm.uncompleted, calm.today, calm.holds, ?_⟩
  intro allowed
  show DailyKeys.Holds _ _
    ((before.reserve scope params.referenceId params.amount dailyLimit).2.daily scope)
  rw [keys]
  exact covers.holds allowed

theorem daily_now {holds : DailyKeys → List Transaction → Prop}
    (calm : Calm scope thread holds world) :
    MeetsDaily requests scope dailyLimit params thread (request .now)
      (fun result final => (∃ now, result = .ok now ∧ dayBucketOf now = scope.dayBucket) ∧
        Calm scope thread holds final) world := by
  refine daily_request calm (fun _ _ rely calm => calm.stable rely) ?_
  intro before choice answer after calm _ performed
  cases performed
  exact ⟨.neutral rfl rfl, ⟨_, rfl, calm.today⟩, calm⟩

variable (params) in
include counts type user in
theorem daily_evaluate {Input : Type} {input : Input} {rule : DailyLimitRule}
    (ruleType : rule.type = params.type)
    (calm : Calm scope thread (Fresh params.referenceId) world) :
    MeetsDaily requests scope rule.dailyLimit params thread
      (evaluateRules input [fun _ =>
        rule.evaluate params.actorCustomerId params.referenceId params.amount])
      (Evaluated scope params thread) world := by
  have evaluates : MeetsDaily requests scope rule.dailyLimit params thread
      (rule.evaluate params.actorCustomerId params.referenceId params.amount)
      (fun result final => match result with
        | .ok none => Calm scope thread (Reserved params.amount params.referenceId) final
        | .ok (some decided) => decided.decision = .reject ∧
            Calm scope thread (Fresh params.referenceId) final
        | .error _ => False) world := by
    refine (daily_now calm).bind ?_ ?_
    · rintro error final ⟨⟨_, absurd, _⟩, _⟩
      cases absurd
    · rintro now between ⟨⟨_, ⟨⟩, today⟩, calm⟩
      have sameScope : (⟨rule.type, params.actorCustomerId, dayBucketOf now⟩ : DailyScope) =
          scope := by
        rw [ruleType, ← type, ← user, today]
      rw [sameScope]
      refine (daily_reserve counts calm).bind ?_ ?_
      · rintro error final ⟨_, absurd, _⟩
        cases absurd
      · rintro _ between ⟨allowed, ⟨⟩, calm⟩
        cases allowed with
        | true => exact .pure (calm.mono fun _ _ holds => ⟨holds.1, holds.2 rfl⟩)
        | false => exact .pure ⟨rfl, calm.mono fun _ _ holds => holds.1⟩
  refine evaluates.bind (fun _ _ absurd => absurd.elim) fun result between holds => ?_
  cases result with
  | none => exact .pure (Calm.mono holds fun _ _ reserved => ⟨reserved.1, fun _ => reserved.2⟩)
  | some decided =>
      rcases decided with ⟨decision, reason⟩
      rcases holds with ⟨rejected, calm⟩
      cases rejected
      exact .pure (evaluated_reject calm)

theorem daily_evaluateRules {Input : Type} {input : Input} {rule : Input → Service RuleResult}
    {rules : List (Input → Service RuleResult)} (quiet : Issues Command.Quiet (rule input))
    (rest : ∀ world : World Thread, Calm scope thread (Fresh params.referenceId) world →
      MeetsDaily requests scope dailyLimit params thread (evaluateRules input rules)
        (Evaluated scope params thread) world)
    (calm : Calm scope thread (Fresh params.referenceId) world) :
    MeetsDaily requests scope dailyLimit params thread (evaluateRules input (rule :: rules))
      (Evaluated scope params thread) world := by
  refine (calm.issues quiet).bind (fun _ _ calm => calm) fun result between calm => ?_
  cases result with
  | none => exact rest between calm
  | some decided =>
      rcases decided with ⟨decision, reason⟩
      by_cases rejected : decision = .reject
      · subst rejected
        exact .pure (evaluated_reject calm)
      · simp only [if_neg rejected]
        exact rest between calm

/-! ## The release -/

variable (params) in
include counts type user in
theorem daily_releaseReservation {rule : DailyLimitRule} (ruleType : rule.type = params.type)
    (calm : Calm scope thread (Fresh params.referenceId) world) :
    MeetsDaily requests scope dailyLimit params thread
      (rule.releaseReservation params.actorCustomerId params.referenceId)
      (fun _ => Calm scope thread fun _ _ => True) world := by
  refine (daily_now calm).bind ?_ ?_
  · rintro error final ⟨⟨_, absurd, _⟩, _⟩
    cases absurd
  · rintro now between ⟨⟨_, ⟨⟩, today⟩, calm⟩
    have sameScope : (⟨rule.type, params.actorCustomerId, dayBucketOf now⟩ : DailyScope) =
        scope := by
      rw [ruleType, ← type, ← user, today]
    rw [sameScope]
    have releases : MeetsDaily requests scope dailyLimit params thread
        (request (.evalRelease scope params.referenceId))
        (fun _ => Calm scope thread fun _ _ => True) between := by
      refine daily_request calm (fun _ _ rely calm => calm.stable rely) ?_
      intro before choice answer after calm permitted performed
      simp only [World.perform, World.evaluated, permitted.answers counts] at performed
      cases performed
      have subtracts := permitted.subtracts counts _ _ rfl
      exact ⟨.releases (Function.update_self _ _ _) rfl subtracts calm.holds, calm.uncompleted,
        calm.today, trivial⟩
    exact releases.bind (fun _ _ calm => calm) fun _ _ calm => .pure calm

/-! ## Calls -/

variable (params) in
theorem daily_checked {context : RequestContext} {evaluation : Service FraudDecisionResult}
    {release : Service Unit} {execution : Service TransactionResponseDto}
    (evaluates : MeetsDaily requests scope dailyLimit params thread evaluation
      (Evaluated scope params thread) world)
    (executes : ∀ world : World Thread,
      Calm scope thread (Reserved params.amount params.referenceId) world →
      MeetsDaily requests scope dailyLimit params thread execution
        (Executed scope params thread) world)
    (releases : ∀ world : World Thread, Calm scope thread (Fresh params.referenceId) world →
      MeetsDaily requests scope dailyLimit params thread release
        (fun _ => Calm scope thread fun _ _ => True) world) :
    MeetsDaily requests scope dailyLimit params thread
      (tryCatch
        (do
          let preFraudResult ← evaluation
          if preFraudResult.decision = .reject then
            recordRejection context params preFraudResult.reason
          else execution)
        fun err => do
          if err.code ≠ some "P2002" then release
          fallbackOrThrow err params.actorCustomerId params.referenceId params.type)
      (fun _ _ => True) world := by
  have tried : MeetsDaily requests scope dailyLimit params thread
      (do
        let preFraudResult ← evaluation
        if preFraudResult.decision = .reject then
          recordRejection context params preFraudResult.reason
        else execution)
      (fun result final => match result with
        | .ok _ => True
        | .error _ => Calm scope thread (Fresh params.referenceId) final) world := by
    refine evaluates.bind (fun _ _ calm => calm) fun decided between calm => ?_
    by_cases rejected : decided.decision = .reject
    · rw [if_pos rejected]
      have fresh := Calm.mono calm fun _ _ holds => holds.1
      refine EnsuresResult.mono (fresh.issues (quiet_recordRejection _ _ _)) ?_
      rintro (error | response) final calm
      · exact calm
      · trivial
    · rw [if_neg rejected]
      refine EnsuresResult.mono
        (executes between (Calm.mono calm fun _ _ holds => ⟨holds.1, holds.2 rejected⟩)) ?_
      rintro (error | response) final ended
      · exact Calm.mono ended fun _ _ reserved => reserved.1
      · trivial
  refine tried.tryCatch (fun _ _ _ => trivial) fun err between calm => ?_
  have fallback : ∀ world : World Thread, Calm scope thread (fun _ _ => True) world →
      MeetsDaily requests scope dailyLimit params thread
        (fallbackOrThrow err params.actorCustomerId params.referenceId params.type)
        (fun _ _ => True) world := fun _ calm =>
    EnsuresResult.mono (calm.issues (quiet_fallbackOrThrow _ _ _ _)) fun _ _ _ => trivial
  by_cases conflict : err.code ≠ some "P2002"
  · rw [if_pos conflict]
    exact (releases between calm).bind (fun _ _ _ => trivial) fun _ _ calm => fallback _ calm
  · rw [if_neg conflict]
    exact fallback between (calm.mono fun _ _ _ => trivial)

def dailyRules (config : FraudConfig) : List DailyLimitRule :=
  [dailyTransferLimitExceededRule config, dailyWithdrawLimitExceededRule config]

include counts type user in
theorem daily_createWithdraw {config : FraudConfig} {context : RequestContext}
    {dto : CreateWithdrawRequestDto} {userId : Uuid} (shape : params = withdrawParams userId dto)
    (calm : Calm scope thread (fun _ _ => True) world) :
    MeetsDaily requests scope (dailyWithdrawLimitExceededRule config).dailyLimit params thread
      (createWithdraw config context userId dto) (fun _ _ => True) world := by
  subst shape
  refine daily_existingOr (withdrawParams userId dto) type user calm fun world fresh => ?_
  refine daily_checked (withdrawParams userId dto) ?_
    (fun _ reserved => daily_transaction (inner_withdrawBody context userId dto) reserved)
    fun _ fresh => daily_releaseReservation (withdrawParams userId dto) type user counts
      rfl fresh
  exact daily_evaluateRules (issues_pure _)
    (fun _ fresh => daily_evaluate (withdrawParams userId dto) type user counts rfl fresh)
    fresh

include counts type user in
theorem daily_createTransfer {config : FraudConfig} {context : RequestContext}
    {dto : CreateTransferRequestDto} {userId : Uuid} (shape : params = transferParams userId dto)
    (calm : Calm scope thread (fun _ _ => True) world) :
    MeetsDaily requests scope (dailyTransferLimitExceededRule config).dailyLimit params thread
      (createTransfer config context userId dto) (fun _ _ => True) world := by
  subst shape
  refine daily_existingOr (transferParams userId dto) type user calm fun world fresh => ?_
  refine daily_checked (transferParams userId dto) ?_
    (fun _ reserved => daily_transferAttempts _ reserved)
    fun _ fresh => daily_releaseReservation (transferParams userId dto) type user counts
      rfl fresh
  refine daily_evaluateRules (issues_pure _) (fun _ fresh => ?_) fresh
  refine daily_evaluateRules (issues_pure _) (fun _ fresh => ?_) fresh
  refine daily_evaluateRules (quiet_tooManyTransfersInMinuteRule _ _) (fun _ fresh => ?_) fresh
  exact daily_evaluate (transferParams userId dto) type user counts rfl fresh

include asks counts type user in
theorem daily_handle {config : FraudConfig} {rule : DailyLimitRule}
    (configured : rule ∈ dailyRules config) (ruleType : rule.type = params.type)
    (calm : Calm scope thread (fun _ _ => True) world) :
    MeetsDaily requests scope rule.dailyLimit params thread (handle config (requests thread))
      (fun _ _ => True) world := by
  generalize requests thread = request at asks
  rcases request with ⟨userId, context, operation⟩
  simp only [dailyRules, List.mem_cons, List.not_mem_nil, or_false] at configured
  cases operation <;> cases asks
  · rcases configured with rfl | rfl <;> cases ruleType
  · rcases configured with rfl | rfl
    · cases ruleType
    · exact EnsuresResult.map (daily_createWithdraw type user counts rfl calm)
        (fun _ _ _ => trivial) fun _ _ _ => trivial
  · rcases configured with rfl | rfl
    · exact EnsuresResult.map (daily_createTransfer type user counts rfl calm)
        (fun _ _ _ => trivial) fun _ _ _ => trivial
    · cases ruleType

end BankingBackend
