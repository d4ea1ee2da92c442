import BankingBackend.Calls.DailyLimit
import BankingBackend.Properties.Balances

/-! # The daily limit

On a day on which Redis answers, the completed withdrawals (or transfers) of a
customer stay within the limit as long as every admitted amount is covered by the
reservation under its reference.
-/

namespace BankingBackend

open Foundation Postgres Redis Common Fraud Transactions

/-- What the completed rows of the day add up to. -/
def usedToday (scope : DailyScope) (database : Database) : ℚ :=
  (((countedRows scope database).filter fun row =>
    dayBucketOf row.createdAt = scope.dayBucket).map fun row => row.amount.toRat).sum

section Definitions

variable {Thread : Type} [DecidableEq Thread] [Fintype Thread]

/-- The customer's day begins: nothing is reserved or counted, and no call is under
way. -/
structure DayBegins (config : FraudConfig) (requests : Thread → Request) (scope : DailyScope)
    (current : Configuration Thread) : Prop where
  reachable : Reachable config requests current
  today : dayBucketOf current.shared.now = scope.dayBucket
  keys : current.shared.redis.daily scope = .empty
  rows : ∀ row ∈ countedRows scope current.shared.server.database,
    dayBucketOf row.createdAt ≠ scope.dayBucket
  calls : ∀ thread, (requests thread).Counts scope →
    current.begun thread = false ∨ (current.program thread).finished = true

/-- Redis answers the customer's calls, which do not overlap; the day does not end
and no key of it expires. -/
def DayGoesOn (requests : Thread → Request) (scope : DailyScope)
    (current : Configuration Thread) : Label Thread → Prop
  | .perform thread choice => (requests thread).Counts scope → choice.redis = .answered ∧
      ∀ other, other ≠ thread → (requests other).Counts scope →
        current.begun other = true → (current.program other).finished = true
  | .environment (.tick now) => dayBucketOf now = scope.dayBucket
  | .environment (.expire expiry) => expiry.scope? ≠ some scope

instance (requests : Thread → Request) (scope : DailyScope) (current : Configuration Thread) :
    (label : Label Thread) → Decidable (DayGoesOn requests scope current label)
  | .perform thread choice =>
      inferInstanceAs (Decidable ((requests thread).Counts scope → choice.redis = .answered ∧
        ∀ other, other ≠ thread → (requests other).Counts scope →
          current.begun other = true → (current.program other).finished = true))
  | .environment (.tick now) => inferInstanceAs (Decidable (dayBucketOf now = scope.dayBucket))
  | .environment (.expire expiry) => inferInstanceAs (Decidable (expiry.scope? ≠ some scope))

/-- The reference, the amount and the limit of the reservation a call asks for next. -/
def nextReserve : Program interface CallResult → Option (String × ℚ × ℚ)
  | .call (.evalReserve _ referenceId amount dailyLimit) _ => some (referenceId, amount, dailyLimit)
  | _ => none

def nextRelease : Program interface CallResult → Option String
  | .call (.evalRelease _ referenceId) _ => some referenceId
  | _ => none

/-- A reservation the step makes or finds covers what will be recorded, and the total loses
nothing to the rounding of the script. -/
def ReservesEnough (requests : Thread → Request) (scope : DailyScope)
    (current : Configuration Thread) : Label Thread → Prop
  | .perform thread _ => (requests thread).Counts scope →
      (∀ reserve ∈ nextReserve (current.program thread),
        (current.shared.redis.daily scope).Covers current.shared.redis.numbers reserve.2.1
          reserve.2.2 (recordedAmount reserve.2.1) reserve.1) ∧
      ∀ referenceId ∈ nextRelease (current.program thread),
        (current.shared.redis.daily scope).Subtracts current.shared.redis.numbers referenceId
  | .environment _ => True

instance (requests : Thread → Request) (scope : DailyScope) (current : Configuration Thread) :
    (label : Label Thread) → Decidable (ReservesEnough requests scope current label)
  | .perform thread _ =>
      inferInstanceAs (Decidable ((requests thread).Counts scope →
        (∀ reserve ∈ nextReserve (current.program thread),
          (current.shared.redis.daily scope).Covers current.shared.redis.numbers reserve.2.1
            reserve.2.2 (recordedAmount reserve.2.1) reserve.1) ∧
        ∀ referenceId ∈ nextRelease (current.program thread),
          (current.shared.redis.daily scope).Subtracts current.shared.redis.numbers
            referenceId))
  | .environment _ => .isTrue trivial

/-- Every counted row of the day is covered by a reservation. -/
structure DayInvariant (scope : DailyScope) (dailyLimit : ℚ) (earlier : List Transaction)
    (world : World Thread) : Prop where
  today : dayBucketOf world.now = scope.dayBucket
  keys : (world.redis.daily scope).Sound dailyLimit
  reserved : ∀ row ∈ countedRows scope world.server.database, row ∈ earlier ∨
    (world.redis.daily scope).Holds row.amount.toRat row.referenceId

def DailyGuarantee (scope : DailyScope) (dailyLimit : ℚ) (request : Request)
    (before after : World Thread) : Prop :=
  ∀ params, request.params? = some params → scope.type = params.type →
    scope.userId = params.actorCustomerId →
    DailyStep scope dailyLimit params.amount params.referenceId before after

end Definitions

/-! ## Steps -/

section Steps

variable {Thread : Type} [DecidableEq Thread] {requests : Thread → Request}
  {scope : DailyScope} {dailyLimit : ℚ} {earlier : List Transaction} {thread : Thread}

theorem recordedAmount_of_assign {amount : ℚ} {money : Money}
    (assigned : Money.assign? amount = some money) : money.toRat = recordedAmount amount := by
  rw [Money.toRat, Money.assign?_cents assigned]
  rfl

theorem Posts.counts {request : Request} {tx : Tx} {params : TransactionParams}
    {row : Transaction} (posts : Posts request tx params row) (type : row.type = scope.type)
    (user : row.actorCustomerId = scope.userId) : request.Counts scope :=
  ⟨params, posts.asks, type.symm.trans posts.rowOf.type, user.symm.trans posts.rowOf.actor⟩

theorem Effect.countedRows_other {before after : Server Thread}
    (effect : Effect (requests thread) thread before after)
    (uncounted : ¬(requests thread).Counts scope) :
    countedRows scope after.database = countedRows scope before.database := by
  cases effect with
  | unchanged => rfl
  | works => rfl
  | commits tx pending committable =>
      have appended : (before.commitTx thread tx).database.transactions =
          before.database.transactions ++ tx.transactions := rfl
      refine countedRows_append scope appended ?_
      intro row member completed type user
      rcases committable.moves pending.keepsIds with ⟨_, uncompleted⟩ | ⟨params, posted, posts, _⟩
      · exact uncompleted row member completed
      · rw [posts.transactions, List.mem_singleton] at member
        subst member
        exact uncounted (posts.counts type user)

theorem Effect.counted_cases {before after : Server Thread}
    (effect : Effect (requests thread) thread before after) {params : TransactionParams}
    (asks : (requests thread).params? = some params) {row : Transaction}
    (counted : row ∈ countedRows scope after.database) :
    row ∈ countedRows scope before.database ∨
      row.amount.toRat = recordedAmount params.amount ∧ row.referenceId = params.referenceId := by
  rcases mem_countedRows.mp counted with ⟨member, completed, type, user⟩
  rcases effect.new_row member with old | ⟨tx, own, posted⟩
  · exact .inl (mem_countedRows.mpr ⟨old, completed, type, user⟩)
  · have posts := posted completed
    cases asks.symm.trans posts.asks
    exact .inr ⟨recordedAmount_of_assign posts.rowOf.amount, posts.rowOf.referenceId⟩

omit [DecidableEq Thread] in
theorem DayInvariant.same {before after : World Thread}
    (invariant : DayInvariant scope dailyLimit earlier before) (now : after.now = before.now)
    (keys : after.redis.daily scope = before.redis.daily scope)
    (rows : countedRows scope after.server.database = countedRows scope before.server.database) :
    DayInvariant scope dailyLimit earlier after where
  today := by
    rw [now]
    exact invariant.today
  keys := by
    rw [keys]
    exact invariant.keys
  reserved := by
    rw [keys, rows]
    exact invariant.reserved

theorem DayInvariant.step {before after : World Thread}
    (invariant : DayInvariant scope dailyLimit earlier before)
    (guarantee : Guarantee (requests thread) thread before after)
    (daily : DailyGuarantee scope dailyLimit (requests thread) before after) :
    DayInvariant scope dailyLimit earlier after := by
  have today : dayBucketOf after.now = scope.dayBucket := by
    rw [guarantee.now]
    exact invariant.today
  by_cases counts : (requests thread).Counts scope
  · rcases counts with ⟨params, asks, type, user⟩
    cases daily params asks type user with
    | neutral keys rows => exact invariant.same guarantee.now keys rows
    | commits keys reserved =>
        refine ⟨today, keys ▸ invariant.keys, fun row counted => ?_⟩
        rw [keys]
        rcases guarantee.server.counted_cases asks counted with old | ⟨amount, referenceId⟩
        · exact invariant.reserved row old
        · rw [amount, referenceId]
          exact .inr reserved
    | reserves keys rows covers =>
        have positive : 0 ≤ params.amount * 100 :=
          mul_nonneg (le_trans (by norm_num) (Request.params?_amountMin asks)) (by norm_num)
        have nonneg : 0 ≤ recordedAmount params.amount :=
          div_nonneg (by exact_mod_cast roundHalfAway_nonneg positive) (by norm_num)
        refine ⟨today, keys ▸ invariant.keys.covers nonneg covers, fun row counted => ?_⟩
        rw [rows] at counted
        rw [keys]
        refine (invariant.reserved row counted).imp id ?_
        rintro ⟨reserved, held, within⟩
        exact ⟨reserved, DailyKeys.reserveLua_keeps held, within⟩
    | releases keys rows subtracts fresh =>
        refine ⟨today, keys ▸ invariant.keys.release subtracts, fun row counted => ?_⟩
        rw [rows] at counted
        rw [keys]
        refine (invariant.reserved row counted).imp id ?_
        rintro ⟨reserved, held, within⟩
        exact ⟨reserved, (DailyKeys.releaseLua_other (fresh row counted)).trans held, within⟩
  · exact invariant.same guarantee.now (guarantee.daily scope counts)
      (guarantee.server.countedRows_other counts)

end Steps

/-! ## Whole cents -/

theorem recordedAmount_of_wholeCents {amount : ℚ} (whole : WholeCents amount) :
    recordedAmount amount = amount := by
  rcases whole with ⟨cents, counted⟩
  rw [recordedAmount, counted, roundHalfAway_intCast, ← counted]
  ring

/-- In whole cents a reservation under a new reference is always enough. -/
theorem reservesEnough_of_wholeCents {Thread : Type} [DecidableEq Thread]
    {requests : Thread → Request} {scope : DailyScope} {current : Configuration Thread}
    {thread : Thread} {choice : Choice} {referenceId : String} {amount dailyLimit : ℚ}
    (numbers : current.shared.redis.numbers = .lua)
    (reserves : nextReserve (current.program thread) = some (referenceId, amount, dailyLimit))
    (free : (current.shared.redis.daily scope).reserved referenceId = none)
    (totalWhole : WholeCents (current.shared.redis.daily scope).currentTotal)
    (amountWhole : WholeCents amount) (limitWhole : WholeCents dailyLimit)
    (nonneg : 0 ≤ (current.shared.redis.daily scope).currentTotal) (positive : 0 < amount)
    (small : dailyLimit < 10 ^ 12) :
    ReservesEnough requests scope current (.perform thread choice) := by
  refine fun _ => ⟨?_, ?_⟩
  · rintro reserve next
    cases Option.some.inj (reserves.symm.trans next)
    rw [numbers, recordedAmount_of_wholeCents amountWhole]
    exact DailyKeys.covers_of_wholeCents free totalWhole amountWhole limitWhole nonneg positive
      small
  · rintro released next
    unfold nextReserve at reserves
    unfold nextRelease at next
    split at next
    · rename_i program
      rw [program] at reserves
      cases reserves
    · cases next

/-! ## The day -/

section Day

variable {Thread : Type} [DecidableEq Thread] [Fintype Thread]
  {config : FraudConfig} {requests : Thread → Request} {rule : DailyLimitRule}
  {scope : DailyScope} {earlier : List Transaction} {thread : Thread} {world : World Thread}
  {current following : Configuration Thread}

def DayRely (requests : Thread → Request) (scope : DailyScope) (thread : Thread)
    (before after : World Thread) : Prop :=
  Rely requests thread before.server after.server ∧
    ((requests thread).Counts scope → DailyRely scope thread before after)

def DayGuarantee (requests : Thread → Request) (scope : DailyScope) (dailyLimit : ℚ)
    (thread : Thread) (before after : World Thread) : Prop :=
  Guarantee (requests thread) thread before after ∧
    DailyGuarantee scope dailyLimit (requests thread) before after

theorem ensures_uncounted {program : Program interface CallResult} {dailyLimit : ℚ}
    {post : CallResult → World Thread → Prop}
    (ensures : Ensures ((machine Thread).perform thread)
      (fun before after => Rely requests thread before.server after.server)
      (Guarantee (requests thread) thread) post program world)
    (uncounted : ¬(requests thread).Counts scope) :
    Ensures (((machine Thread).restrict (DailyPermits requests scope)).perform thread)
      (DayRely requests scope thread) (DayGuarantee requests scope dailyLimit thread)
      (fun _ _ => True) program world :=
  ensures.weaken (fun _ _ _ _ performed => (Machine.restrict_perform performed).2)
    (fun _ _ rely => rely.1)
    (fun _ _ guarantee => ⟨guarantee, fun params asks type user =>
      absurd ⟨params, asks, type, user⟩ uncounted⟩)
    fun _ _ _ => trivial

theorem ensures_day (configured : rule ∈ dailyRules config) (type : rule.type = scope.type)
    (today : dayBucketOf world.now = scope.dayBucket) (idle : Idle requests thread world.server) :
    Ensures (((machine Thread).restrict (DailyPermits requests scope)).perform thread)
      (DayRely requests scope thread) (DayGuarantee requests scope rule.dailyLimit thread)
      (fun _ _ => True) (handle config (requests thread)).run world := by
  have always : Meets requests thread (handle config (requests thread))
      (Ends (Answers (requests thread)) (Undecided requests thread)) world := meets_handle idle
  by_cases counts : (requests thread).Counts scope
  · rcases counts with ⟨params, asks, scopeType, user⟩
    have uncompleted : world.server.Uncompleted thread := fun tx opened => by
      rw [idle.closed] at opened
      cases opened
    have daily := daily_handle asks scopeType user
      ⟨params, asks, scopeType, user⟩ configured (type.trans scopeType)
      ⟨uncompleted, today, trivial⟩
    have restricted : Ensures
        (((machine Thread).restrict (DailyPermits requests scope)).perform thread)
        (fun before after => Rely requests thread before.server after.server)
        (Guarantee (requests thread) thread) (fun _ _ => True)
        (handle config (requests thread)).run world :=
      Ensures.weaken always (fun _ _ _ _ performed => (Machine.restrict_perform performed).2)
        (fun _ _ => id) (fun _ _ => id) fun _ _ _ => trivial
    refine (restricted.both daily).weaken (fun _ _ _ _ => id)
      (fun _ _ rely => ⟨rely.1, rely.2 ⟨params, asks, scopeType, user⟩⟩) ?_ fun _ _ _ => trivial
    rintro before after ⟨guarantee, step⟩
    refine ⟨guarantee, fun own ownAsks _ _ => ?_⟩
    cases asks.symm.trans ownAsks
    exact step
  · exact ensures_uncounted always counts

noncomputable def dayDiscipline (config : FraudConfig) (requests : Thread → Request)
    (rule : DailyLimitRule) (scope : DailyScope) (earlier : List Transaction)
    (configured : rule ∈ dailyRules config) (type : rule.type = scope.type) :
    Discipline ((machine Thread).restrict (DailyPermits requests scope)) CallResult where
  start thread := (handle config (requests thread)).run
  allowed := DayGoesOn requests scope
  invariant world := Invariant requests world.server ∧
    DayInvariant scope rule.dailyLimit earlier world
  rely := DayRely requests scope
  guarantee := DayGuarantee requests scope rule.dailyLimit
  ready thread world := Idle requests thread world.server
  post _ _ _ := True
  rely_refl thread world := ⟨.refl world.server, fun _ => .refl world⟩
  rely_trans _ _ _ _ first second :=
    ⟨first.1.trans second.1, fun counts => (first.2 counts).trans (second.2 counts)⟩
  begins invariant ready := ensures_day configured type invariant.2.today ready
  keeps invariant guarantee :=
    ⟨guarantee.1.server.keeps invariant.1, invariant.2.step guarantee.1 guarantee.2⟩
  interference := by
    intro current thread other choice after different permitted unfinished begun running
      invariant guarantee
    refine ⟨guarantee.1.server.rely invariant.1 different, fun counts => ?_⟩
    have uncounted : ¬(requests other).Counts scope := fun otherCounts => by
      have finished := (permitted otherCounts).2 thread different counts begun
      rw [running] at finished
      cases finished
    exact ⟨guarantee.1.daily scope uncounted, guarantee.1.server.countedRows_other uncounted,
      (guarantee.1.server.rely invariant.1 different).own, by rw [guarantee.1.now]⟩
  ready_stable different invariant guarantee ready :=
    idle_stable _ _ (guarantee.1.server.rely invariant.1 different) ready
  post_stable _ _ _ _ := trivial
  environment := by
    intro current event after permitted invariant happened
    have server := environment_server happened
    have today : dayBucketOf after.now = dayBucketOf current.shared.now ∧
        after.redis.daily scope = current.shared.redis.daily scope := by
      cases event with
      | tick now =>
          simp only [Machine.restrict, machine, World.environment] at happened
          split at happened
          · cases happened
            exact ⟨permitted.trans invariant.2.today.symm, rfl⟩
          · cases happened
      | expire expiry =>
          cases happened
          exact ⟨rfl, expire_daily permitted⟩
    have rows := congrArg (fun server => countedRows scope server.database) server
    refine ⟨⟨server ▸ invariant.1, ?_⟩, fun thread => ⟨⟨?_, fun _ => ?_⟩, ?_, fun _ => id⟩⟩
    · refine ⟨today.1.trans invariant.2.today, today.2 ▸ invariant.2.keys, ?_⟩
      rw [today.2, server]
      exact invariant.2.reserved
    · rw [server]
      exact .refl _
    · exact ⟨today.2, rows, by rw [server], today.1⟩
    · rw [server]
      exact id

theorem DayBegins.sound (begins : DayBegins config requests scope current)
    (configured : rule ∈ dailyRules config) (type : rule.type = scope.type)
    (limit : 0 ≤ rule.dailyLimit) :
    (dayDiscipline config requests rule scope
      (countedRows scope current.shared.server.database) configured type).Sound current := by
  have sound := begins.reachable.sound
  refine ⟨⟨sound.1, begins.today, ?_, fun row counted => .inl counted⟩, fun thread => ?_⟩
  · rw [begins.keys]
    exact DailyKeys.sound_empty limit
  · cases sound.2 thread with
    | waiting notBegun program ready => exact .waiting notBegun program ready
    | running begun ensures =>
        refine .running begun ?_
        by_cases counts : (requests thread).Counts scope
        · have finished : (current.program thread).finished = true :=
            (begins.calls thread counts).resolve_left (by simp [begun])
          cases ended : current.program thread with
          | done value => exact trivial
          | call op next =>
              rw [ended] at finished
              cases finished
        · exact ensures_uncounted ensures counts

theorem DayBegins.invariant {morning : Configuration Thread}
    (begins : DayBegins config requests scope morning)
    (configured : rule ∈ dailyRules config) (type : rule.type = scope.type)
    (limit : 0 ≤ rule.dailyLimit)
    (run : Run step (fun between label => DayGoesOn requests scope between label ∧
      ReservesEnough requests scope between label) morning current) :
    Reachable config requests current ∧ DayInvariant scope rule.dailyLimit
      (countedRows scope morning.shared.server.database) current.shared := by
  have sound := run.invariant
    (fun between => Reachable config requests between ∧
      (dayDiscipline config requests rule scope
        (countedRows scope morning.shared.server.database) configured type).Sound between)
    ⟨begins.reachable, begins.sound configured type limit⟩ ?_
  · exact ⟨sound.1, sound.2.1.2⟩
  · rintro between label next ⟨reachable, sound⟩ ⟨goesOn, enough⟩ taken
    refine ⟨reachable.next taken, sound.step goesOn (Machine.restrict_step taken ?_)⟩
    rintro thread choice op rest rfl program
    refine ⟨reachable.invariant, fun counts => (goesOn counts).1, ?_, ?_⟩
    · rintro counts reservedIn referenceId amount dailyLimit rfl
      exact (enough counts).1 (referenceId, amount, dailyLimit) (by rw [program]; rfl)
    · rintro counts releasedIn referenceId rfl
      exact (enough counts).2 referenceId (by rw [program]; rfl)

theorem Reachable.references (reachable : Reachable config requests current) (scope : DailyScope) :
    ((countedRows scope current.shared.server.database).map
      Transaction.referenceId).Nodup := by
  have counted : ((countedRows scope current.shared.server.database).map
      Transaction.key).Nodup := reachable.invariant.keys.sublist (List.filter_sublist.map _)
  have same : (countedRows scope current.shared.server.database).map Transaction.key =
      ((countedRows scope current.shared.server.database).map Transaction.referenceId).map
        fun referenceId => ⟨scope.userId, scope.type, referenceId⟩ := by
    rw [List.map_map]
    refine List.map_congr_left fun row member => ?_
    rcases mem_countedRows.mp member with ⟨_, _, type, user⟩
    simp [Transaction.key, type, user]
  rw [same] at counted
  exact counted.of_map _

/-- The daily limit holds when every reservation covers what is recorded under it, and the
total all reservations. -/
theorem daily_limit {morning : Configuration Thread} {userId : Uuid} {dayBucket : ℕ}
    (configured : rule ∈ dailyRules config) (limit : 0 ≤ rule.dailyLimit)
    (begins : DayBegins config requests ⟨rule.type, userId, dayBucket⟩ morning)
    (run : Run step (fun between label =>
      DayGoesOn requests ⟨rule.type, userId, dayBucket⟩ between label ∧
        ReservesEnough requests ⟨rule.type, userId, dayBucket⟩ between label) morning current) :
    usedToday ⟨rule.type, userId, dayBucket⟩ current.shared.server.database ≤
      rule.dailyLimit := by
  rcases begins.invariant configured rfl limit run with ⟨reachable, day⟩
  refine day.keys.within.sum_le
    ((reachable.references _).sublist (List.filter_sublist.map _)) ?_
  intro row member
  rcases List.mem_filter.mp member with ⟨counted, today⟩
  rcases day.reserved row counted with earlier | ⟨reserved, held, within⟩
  · exact absurd (of_decide_eq_true today) (begins.rows row earlier)
  · simpa [DailyKeys.reservation, held] using within

end Day

/-! ### A reference that is retried twice -/

theorem dayBegins_initial {Thread : Type} [DecidableEq Thread] [Fintype Thread]
    (config : FraudConfig) (requests : Thread → Request) (type : TransactionType) (userId : Uuid)
    (now : ℕ) :
    DayBegins config requests ⟨type, userId, dayBucketOf now⟩
      (initial config requests .empty now) where
  reachable := ⟨.empty, now, .start⟩
  today := rfl
  keys := rfl
  rows _ counted := by cases counted
  calls _ _ := .inl rfl

def sampleScope : DailyScope := ⟨.withdraw, ⟨7⟩, 0⟩

def withdrawOf (amount : ℚ) (referenceId : String)
    (valid : (CreateWithdrawRequestDto.validate amount referenceId sampleText).isSome) :
    Request where
  userId := ⟨7⟩
  operation := .createWithdraw
    ((CreateWithdrawRequestDto.validate amount referenceId sampleText).get valid)

/-- One reference fails twice for want of money before it succeeds. -/
def retriedRequests : Fin 7 → Request
  | 0 => { userId := ⟨7⟩, operation := .createAccount ⟨.USD⟩ }
  | 1 => withdrawOf 1 "first" (by decide +kernel)
  | 2 => withdrawOf 1 "first" (by decide +kernel)
  | 3 => { userId := ⟨7⟩
           operation := .createDeposit
             ((CreateDepositRequestDto.validate 200000 "deposit" sampleText).get
               (by decide +kernel)) }
  | 4 => withdrawOf 50000 "first" (by decide +kernel)
  | 5 => withdrawOf 50000 "second" (by decide +kernel)
  | 6 => withdrawOf 49999 "third" (by decide +kernel)

def retriedRun : List (Label (Fin 7)) :=
  [act 0, act 0 sampleId, act 0] ++ List.replicate 10 (act 1 1) ++ List.replicate 10 (act 2 2) ++
    List.replicate 8 (act 3 3) ++ List.replicate 10 (act 4 4) ++ List.replicate 10 (act 5 5) ++
    List.replicate 10 (act 6 6)

private theorem retried_leads :
    (execute step (fun current label =>
        decide (DayGoesOn retriedRequests sampleScope current label))
      (initial {} retriedRequests .empty 0) retriedRun).any (fun current =>
        usedToday sampleScope current.shared.server.database == 149999) = true := by
  decide +kernel

/-- The second failure leaves a reservation of 1 behind, under which 50000 are
withdrawn: 149999 in all, with a limit of 100000. -/
theorem retried_exceeds_limit :
    DayBegins {} retriedRequests sampleScope (initial {} retriedRequests .empty 0) ∧
      ∃ current, Run step (DayGoesOn retriedRequests sampleScope)
          (initial {} retriedRequests .empty 0) current ∧
        (dailyWithdrawLimitExceededRule {}).dailyLimit <
          usedToday sampleScope current.shared.server.database := by
  refine ⟨dayBegins_initial {} retriedRequests .withdraw ⟨7⟩ 0, ?_⟩
  rcases exists_run_of_execute step _ (DayGoesOn retriedRequests sampleScope)
    (fun _ _ checked => of_decide_eq_true checked) retried_leads with ⟨current, run, passed⟩
  refine ⟨current, run, ?_⟩
  rw [beq_iff_eq.mp passed]
  show (100000 : ℚ) < 149999
  norm_num

/-! ### A reference that is retried once -/

/-- One reference fails once before it succeeds with another amount. -/
def releasedRequests : Fin 5 → Request
  | 0 => { userId := ⟨7⟩, operation := .createAccount ⟨.USD⟩ }
  | 1 => withdrawOf 1 "first" (by decide +kernel)
  | 2 => { userId := ⟨7⟩
           operation := .createDeposit
             ((CreateDepositRequestDto.validate 200000 "deposit" sampleText).get
               (by decide +kernel)) }
  | 3 => withdrawOf 50000 "first" (by decide +kernel)
  | 4 => withdrawOf 50000 "second" (by decide +kernel)

def releasedRun : List (Label (Fin 5)) :=
  [act 0, act 0 sampleId, act 0] ++ List.replicate 10 (act 1 1) ++ List.replicate 8 (act 2 2) ++
    List.replicate 10 (act 3 3) ++ List.replicate 10 (act 4 4)

private theorem released_leads :
    (execute step (fun current label =>
        decide (DayGoesOn releasedRequests sampleScope current label ∧
          ReservesEnough releasedRequests sampleScope current label))
      (initial {} releasedRequests .empty 0) releasedRun).any (fun current =>
        usedToday sampleScope current.shared.server.database == 100000) = true := by
  decide +kernel

theorem daily_limit_released : ∃ current,
    Run step (fun between label => DayGoesOn releasedRequests sampleScope between label ∧
        ReservesEnough releasedRequests sampleScope between label)
      (initial {} releasedRequests .empty 0) current ∧
    usedToday sampleScope current.shared.server.database = 100000 ∧
    usedToday sampleScope current.shared.server.database ≤
      (dailyWithdrawLimitExceededRule {}).dailyLimit := by
  rcases exists_run_of_execute step _ _ (fun _ _ checked => of_decide_eq_true checked)
    released_leads with ⟨current, run, passed⟩
  have configured : dailyWithdrawLimitExceededRule {} ∈ dailyRules {} := .tail _ (.head _)
  have limit : 0 ≤ (dailyWithdrawLimitExceededRule {}).dailyLimit := by decide +kernel
  exact ⟨current, run, beq_iff_eq.mp passed, daily_limit configured limit
    (dayBegins_initial {} releasedRequests .withdraw ⟨7⟩ 0) run⟩

end BankingBackend
