import BankingBackend.Calls.Statements

/-! # Fraud checks

The checks touch only the counters of their own request, and an approved transfer
names two different accounts.
-/

namespace BankingBackend

open Foundation Postgres Redis Common Fraud

variable {Thread : Type} [DecidableEq Thread] [Fintype Thread]
  {requests : Thread → Request} {thread : Thread} {world : World Thread}

/-- The check returns and leaves the database as it was. -/
abbrev Passes {α : Type} (requests : Thread → Request) (thread : Thread) (program : Service α)
    (holds : α → Prop) (world : World Thread) : Prop :=
  Meets requests thread program
    (fun result server => (∃ value, result = .ok value ∧ holds value) ∧
      Idle requests thread server) world

omit [DecidableEq Thread] [Fintype Thread] in
theorem evaluated_harmless {α : Type} {before after : World Thread} {outcome : RedisOutcome}
    {result : α × Store} {answer : Option α}
    (evaluated : some (before.evaluated outcome result) = some (answer, after))
    (apart : ∀ scope, ¬(requests thread).Counts scope →
      result.2.daily scope = before.redis.daily scope) :
    after.server = before.server ∧ after.now = before.now ∧
      ∀ scope, ¬(requests thread).Counts scope →
        after.redis.daily scope = before.redis.daily scope := by
  cases outcome with
  | answered =>
      cases evaluated
      exact ⟨rfl, rfl, apart⟩
  | lost =>
      cases evaluated
      exact ⟨rfl, rfl, apart⟩
  | refused =>
      cases evaluated
      exact ⟨rfl, rfl, fun _ _ => rfl⟩

omit [DecidableEq Thread] [Fintype Thread] in
theorem setDaily_apart {store : Store} {scope : DailyScope} {keys : DailyKeys}
    (counts : (requests thread).Counts scope) (other : DailyScope)
    (uncounted : ¬(requests thread).Counts other) :
    (store.setDaily scope keys).daily other = store.daily other := by
  have different : other ≠ scope := fun equal => uncounted (equal ▸ counts)
  simp [Store.setDaily, different]

theorem passes_request {command : Command} (idle : Idle requests thread world.server)
    (harmless : ∀ choice (before : World Thread) answer after,
      before.perform thread command choice = some (answer, after) →
      after.server = before.server ∧ after.now = before.now ∧
        ∀ scope, ¬(requests thread).Counts scope →
          after.redis.daily scope = before.redis.daily scope) :
    Passes requests thread (request command) (fun _ => True) world := by
  refine EnsuresResult.mono (meets_request idle idle_stable harmless) ?_
  rintro result final ⟨⟨answer, returned⟩, idle⟩
  exact ⟨⟨answer, returned, trivial⟩, idle⟩

theorem passes_now (idle : Idle requests thread world.server) :
    Passes requests thread (request .now) (fun _ => True) world :=
  passes_request idle fun _ _ _ _ performed => by
    cases performed
    exact ⟨rfl, rfl, fun _ _ => rfl⟩

theorem Passes.bind {α β : Type} {program : Service α} {rest : α → Service β}
    {holds : α → Prop} {post : Except ServiceError β → Server Thread → Prop}
    (first : Passes requests thread program holds world)
    (next : ∀ value (between : World Thread), holds value →
      Idle requests thread between.server → Meets requests thread (rest value) post between) :
    Meets requests thread (program >>= rest) post world := by
  refine EnsuresResult.bind first ?_ ?_
  · rintro error final ⟨⟨_, absurd, _⟩, _⟩
    cases absurd
  · rintro value between ⟨⟨_, ⟨⟩, holds⟩, idle⟩
    exact next value between holds idle

theorem passes_pure {α : Type} {value : α} {holds : α → Prop} (proof : holds value)
    (idle : Idle requests thread world.server) :
    Passes requests thread (pure value) holds world :=
  .pure ⟨⟨value, rfl, proof⟩, idle⟩

/-! ## Daily limits -/

section DailyLimit

variable {rule : DailyLimitRule} {userId : Uuid} {referenceId : String} {amount : ℚ}
  (counts : ∀ dayBucket, (requests thread).Counts ⟨rule.type, userId, dayBucket⟩)

theorem passes_evaluateFromDb (idle : Idle requests thread world.server) :
    Meets requests thread (rule.evaluateFromDb userId amount)
      (fun _ server => Idle requests thread server) world := by
  refine (passes_now idle).bind fun now between _ idle => ?_
  have sums : Meets requests thread
      (query (.transactionSum
        { actorCustomerId := userId
          type := rule.type
          status := .completed
          createdFrom := dayBucketOf now * millisecondsPerDay
          createdBefore := dayBucketOf now * millisecondsPerDay + millisecondsPerDay }))
      (fun _ server => Idle requests thread server) between := by
    refine meets_read idle idle_stable (fun _ => rfl) (fun _ _ idle => idle) ?_
    intro server newId now answer after idle responded
    cases responded
    exact ⟨rfl, idle⟩
  exact sums.bind (fun _ _ idle => idle) fun _ _ idle => .pure idle

include counts in
theorem passes_evaluate (idle : Idle requests thread world.server) :
    Passes requests thread (rule.evaluate userId referenceId amount) (fun _ => True) world := by
  refine (passes_now idle).bind fun now between _ idle => ?_
  refine (passes_request idle ?_).bind fun allowed between _ idle => ?_
  · intro choice before answer after performed
    exact evaluated_harmless performed (setDaily_apart (counts _))
  · cases allowed with
    | some allowed => exact passes_pure trivial idle
    | none =>
        exact (passes_evaluateFromDb idle).tryCatch
          (fun value final idle => ⟨⟨value, rfl, trivial⟩, idle⟩)
          fun error between idle => passes_pure trivial idle

include counts in
theorem passes_releaseReservation (idle : Idle requests thread world.server) :
    Passes requests thread (rule.releaseReservation userId referenceId) (fun _ => True)
      world := by
  refine (passes_now idle).bind fun now between _ idle => ?_
  refine (passes_request idle ?_).bind fun _ between _ idle => passes_pure trivial idle
  intro choice before answer after performed
  exact evaluated_harmless performed (setDaily_apart (counts _))

end DailyLimit

/-! ## Fraud service -/

theorem passes_tooManyTransfersInMinuteRule {limit : ℚ} {input : TransferFraudCheckInput}
    (idle : Idle requests thread world.server) :
    Passes requests thread (tooManyTransfersInMinuteRule limit input) (fun _ => True) world := by
  refine (passes_request idle ?_).bind fun ready between _ idle => ?_
  · intro choice before answer after performed
    cases performed
    exact ⟨rfl, rfl, fun _ _ => rfl⟩
  · cases ready with
    | false => exact passes_pure trivial idle
    | true =>
        refine (passes_now idle).bind fun now between _ idle => ?_
        refine (passes_request idle ?_).bind fun count between _ idle => ?_
        · intro choice before answer after performed
          exact evaluated_harmless performed fun _ _ => rfl
        · cases count <;> exact passes_pure trivial idle

theorem passes_evaluateRules {Input : Type} {input : Input}
    {rules : List (Input → Service RuleResult)}
    (passes : ∀ rule ∈ rules, ∀ world : World Thread, Idle requests thread world.server →
      Passes requests thread (rule input) (fun _ => True) world)
    (idle : Idle requests thread world.server) :
    Passes requests thread (evaluateRules input rules) (fun _ => True) world := by
  induction rules generalizing world with
  | nil => exact passes_pure trivial idle
  | cons rule rules induction =>
      have rest : ∀ world : World Thread, Idle requests thread world.server →
          Passes requests thread (evaluateRules input rules) (fun _ => True) world :=
        fun _ idle => induction (fun rule member => passes rule (.tail _ member)) idle
      refine (passes rule (.head _) world idle).bind fun result between _ idle => ?_
      cases result with
      | none => exact rest between idle
      | some result =>
          by_cases rejected : result.decision = .reject
          · simp only [if_pos rejected]
            exact passes_pure trivial idle
          · simp only [if_neg rejected]
            exact rest between idle

theorem passes_evaluateWithdraw {config : FraudConfig} {input : WithdrawFraudCheckInput}
    (counts : ∀ dayBucket, (requests thread).Counts ⟨.withdraw, input.userId, dayBucket⟩)
    (idle : Idle requests thread world.server) :
    Passes requests thread (evaluateWithdraw config input) (fun _ => True) world := by
  refine passes_evaluateRules ?_ idle
  intro rule member world idle
  simp only [withdrawRules, List.mem_cons, List.not_mem_nil, or_false] at member
  rcases member with rfl | rfl
  · exact passes_pure trivial idle
  · exact passes_evaluate counts idle

/-- An approved transfer names two different accounts. -/
theorem passes_evaluateTransfer {config : FraudConfig} {input : TransferFraudCheckInput}
    (counts : ∀ dayBucket, (requests thread).Counts ⟨.transfer, input.userId, dayBucket⟩)
    (idle : Idle requests thread world.server) :
    Passes requests thread (evaluateTransfer config input)
      (fun result => result.decision ≠ .reject → input.fromAccountId ≠ input.toAccountId)
      world := by
  unfold evaluateTransfer transferRules evaluateRules sameAccountTransferRule
  by_cases same : input.fromAccountId = input.toAccountId
  · rw [if_pos same]
    exact .pure ⟨⟨_, rfl, fun approved => absurd rfl approved⟩, idle⟩
  · rw [if_neg same]
    have rest : Passes requests thread (evaluateRules input (transferRules config).tail)
        (fun _ => True) world := by
      refine passes_evaluateRules ?_ idle
      intro rule member world idle
      simp only [transferRules, List.tail_cons, List.mem_cons, List.not_mem_nil, or_false]
        at member
      rcases member with rfl | rfl | rfl
      · exact passes_pure trivial idle
      · exact passes_tooManyTransfersInMinuteRule idle
      · exact passes_evaluate counts idle
    refine EnsuresResult.mono rest ?_
    rintro result final ⟨⟨value, returned, _⟩, idle⟩
    exact ⟨⟨value, returned, fun _ => same⟩, idle⟩

end BankingBackend
