import BankingBackend.Messaging.Handling

/-! # The side effect of a message happens at most once -/

namespace BankingBackend.Messaging

open Foundation

section Runs

variable {Worker : Type}

/-- How often a consumer has written or sent what a message asks for. -/
def State.produced (state : State Worker) (consumer : Consumer) (messageId : String) : ℕ :=
  state.effects.countP fun effect =>
    effect.consumer == consumer && effect.messageId == some messageId

/-- A worker that is alive is about to produce the side effect of a message. -/
def State.Produces (state : State Worker) (deployment : Deployment Worker) (worker : Worker)
    (consumer : Consumer) (messageId : String) : Prop :=
  deployment.consumers worker = consumer ∧ (state.handling worker).crashed = false ∧
    (state.handling worker).progress = .dispatching messageId

variable [DecidableEq Worker]

/-- Every side effect belongs to a message, and no message has two of one consumer. -/
structure EffectOnce (deployment : Deployment Worker)
    (allowed : Configuration Worker → Label Worker → Prop) : Prop where
  once : ∀ now current, Run deployment.step allowed (deployment.initial now) current →
    ∀ consumer messageId, current.shared.produced consumer messageId ≤ 1
  named : ∀ now current, Run deployment.step allowed (deployment.initial now) current →
    ∀ effect ∈ current.shared.effects, effect.messageId.isSome = true

/-- A claim takes over the row of a message only while its side effect has not been
produced and no other worker is about to produce it. -/
def unproduced (deployment : Deployment Worker) : Condition Worker where
  permits worker command choice state :=
    ∀ messageId eventType claimTtlMs, command = .claim messageId eventType claimTtlMs →
      choice.failure = none →
        ∀ row, state.rows (deployment.consumers worker) messageId = some row →
          row.reclaimable state.now claimTtlMs = true →
            state.produced (deployment.consumers worker) messageId = 0 ∧
              ∀ other, ¬state.Produces deployment other (deployment.consumers worker) messageId

/-! ## At most one producer -/

/-- A message has one side effect, or at most one worker about to produce it. -/
structure Single (deployment : Deployment Worker) (state : State Worker) : Prop where
  named : ∀ effect ∈ state.effects, effect.messageId.isSome = true
  once : ∀ consumer messageId, state.produced consumer messageId ≤ 1
  fresh : ∀ worker consumer messageId, state.Produces deployment worker consumer messageId →
    state.produced consumer messageId = 0
  alone : ∀ first second consumer messageId, state.Produces deployment first consumer messageId →
    state.Produces deployment second consumer messageId → first = second
  unclaimed : ∀ consumer messageId, state.rows consumer messageId = none →
    state.produced consumer messageId = 0 ∧
      ∀ worker, ¬state.Produces deployment worker consumer messageId

variable {deployment : Deployment Worker} {before after : State Worker} {worker : Worker}

omit [DecidableEq Worker] in
theorem Single.fewer (single : Single deployment before) (effects : after.effects = before.effects)
    (rows : ∀ consumer messageId, after.rows consumer messageId = none →
      before.rows consumer messageId = none)
    (produces : ∀ worker consumer messageId, after.Produces deployment worker consumer messageId →
      before.Produces deployment worker consumer messageId) : Single deployment after := by
  have produced (consumer : Consumer) (messageId : String) :
      after.produced consumer messageId = before.produced consumer messageId := by
    rw [State.produced, effects]
    rfl
  constructor
  · rw [effects]
    exact single.named
  · intro consumer messageId
    rw [produced]
    exact single.once consumer messageId
  · intro worker consumer messageId about
    rw [produced]
    exact single.fresh worker consumer messageId (produces _ _ _ about)
  · intro first second consumer messageId one other
    exact single.alone first second consumer messageId (produces _ _ _ one) (produces _ _ _ other)
  · intro consumer messageId absent
    have before := single.unclaimed consumer messageId (rows consumer messageId absent)
    rw [produced]
    exact ⟨before.1, fun worker about => before.2 worker (produces _ _ _ about)⟩

section Acts

variable {command : Command} {choice : Choice} (single : Single deployment before)
include single

theorem Single.rests
    (change : Change deployment.config (deployment.consumers worker) worker before command choice
      after) (alive : (before.handling worker).crashed = false)
    (effects : after.effects = before.effects)
    (own : ∀ messageId, (after.handling worker).progress = .dispatching messageId →
      (before.handling worker).progress = .dispatching messageId) : Single deployment after := by
  refine single.fewer effects (fun _ _ => change.absent) ?_
  rintro other consumer messageId ⟨mine, living, about⟩
  by_cases same : other = worker
  · subst other
    exact ⟨mine, alive, own messageId about⟩
  · rw [change.others same] at living about
    exact ⟨mine, living, about⟩

/-- A claim makes the worker the only one about to produce the side effect. -/
theorem Single.claims {messageId : String} {row : ProcessedMessage Worker}
    (free : before.produced (deployment.consumers worker) messageId = 0 ∧
      ∀ other, ¬before.Produces deployment other (deployment.consumers worker) messageId) :
    Single deployment (before.grant worker (deployment.consumers worker) messageId row) := by
  have produces {other : Worker} {consumer : Consumer} {key : String}
      (about : (before.grant worker (deployment.consumers worker) messageId row).Produces deployment
        other consumer key) :
      other = worker ∧ consumer = deployment.consumers worker ∧ key = messageId ∨
        other ≠ worker ∧ before.Produces deployment other consumer key := by
    rcases about with ⟨mine, living, about⟩
    by_cases same : other = worker
    · subst other
      simp only [State.grant, State.advance_handling, Progress.dispatching.injEq] at about
      exact .inl ⟨rfl, mine.symm, about.symm⟩
    · have kept : (before.grant worker (deployment.consumers worker) messageId row).handling other =
          before.handling other :=
        State.advance_others (before.setRow _ _ row) _ same
      rw [kept] at living about
      exact .inr ⟨same, mine, living, about⟩
  constructor
  · exact single.named
  · exact single.once
  · intro other consumer key about
    rcases produces about with ⟨_, rfl, rfl⟩ | ⟨_, earlier⟩
    · exact free.1
    · exact single.fresh other consumer key earlier
  · intro first second consumer key one two
    rcases produces one with ⟨rfl, rfl, rfl⟩ | ⟨_, earlier⟩
    · rcases produces two with ⟨same, _, _⟩ | ⟨_, other⟩
      · exact same.symm
      · exact absurd other (free.2 second)
    · rcases produces two with ⟨rfl, rfl, rfl⟩ | ⟨_, other⟩
      · exact absurd earlier (free.2 first)
      · exact single.alone first second consumer key earlier other
  · intro consumer key absent
    have unset : ¬(consumer = deployment.consumers worker ∧ key = messageId) := by
      rintro ⟨rfl, rfl⟩
      have present := (before.setRow_rows (deployment.consumers worker) key row _ key).symm.trans
        absent
      simp at present
    have before := single.unclaimed consumer key (before.setRow_absent absent)
    refine ⟨before.1, fun other about => ?_⟩
    rcases produces about with ⟨_, here, same⟩ | ⟨_, earlier⟩
    · exact unset ⟨here, same⟩
    · exact before.2 other earlier

theorem Single.outputs {messageId : String} {output : Output}
    (about : before.Produces deployment worker (deployment.consumers worker) messageId) :
    Single deployment ((before.record worker (deployment.consumers worker) output).advance worker
      (.dispatched messageId)) := by
  have produced (consumer : Consumer) (key : String) :
      ((before.record worker (deployment.consumers worker) output).advance worker
        (.dispatched messageId)).produced consumer key =
          before.produced consumer key +
            if consumer = deployment.consumers worker ∧ key = messageId then 1 else 0 := by
    simp only [State.produced, State.record, State.advance, State.setHandling, List.countP_cons,
      about.2.2, Progress.claimed?]
    congr 1
    refine if_congr ?_ rfl rfl
    rw [Bool.and_eq_true, beq_iff_eq, beq_iff_eq, Option.some.injEq]
    exact ⟨fun same => ⟨same.1.symm, same.2.symm⟩, fun same => ⟨same.1.symm, same.2.symm⟩⟩
  have others {other : Worker} {consumer : Consumer} {key : String}
      (produces : ((before.record worker (deployment.consumers worker) output).advance worker
        (.dispatched messageId)).Produces deployment other consumer key) :
      other ≠ worker ∧ before.Produces deployment other consumer key := by
    rcases produces with ⟨mine, living, progress⟩
    by_cases same : other = worker
    · subst other
      simp at progress
    · rw [State.advance_others _ _ same] at living progress
      exact ⟨same, mine, living, progress⟩
  constructor
  · intro effect member
    rcases List.mem_cons.mp member with rfl | earlier
    · simp [about.2.2, Progress.claimed?]
    · exact single.named effect earlier
  · intro consumer key
    rw [produced]
    split
    · rename_i here
      rw [here.1, here.2, single.fresh worker _ messageId about]
    · exact single.once consumer key
  · intro other consumer key produces
    rcases others produces with ⟨different, earlier⟩
    rw [produced, if_neg, single.fresh other consumer key earlier]
    rintro ⟨rfl, rfl⟩
    exact different (single.alone other worker _ key earlier about)
  · intro first second consumer key one two
    exact single.alone first second consumer key (others one).2 (others two).2
  · intro consumer key absent
    have unclaimed := single.unclaimed consumer key absent
    refine ⟨?_, fun other produces => unclaimed.2 other (others produces).2⟩
    rw [produced, if_neg, unclaimed.1]
    rintro ⟨rfl, rfl⟩
    exact unclaimed.2 worker about

theorem Single.acts
    (change : Change deployment.config (deployment.consumers worker) worker before command choice
      after) (alive : (before.handling worker).crashed = false)
    (permitted : (unproduced deployment).permits worker command choice before) :
    Single deployment after := by
  have rests := fun effects own => single.rests change alive effects own
  cases change with
  | @claims _ _ message _ row received parsed succeeds taken =>
      refine single.claims ?_
      cases found : before.rows (deployment.consumers worker) message.messageId with
      | none => exact single.unclaimed _ _ found
      | some earlier =>
          refine permitted _ _ _ rfl succeeds earlier found ?_
          simp only [State.claimRow, found] at taken
          split at taken
          · assumption
          · cases taken
  | @outputs _ _ _ messageId handles taken outcome =>
      rcases outcome with rfl | ⟨output, rfl⟩
      · refine rests rfl fun _ about => ?_
        simp at about
      · exact single.outputs ⟨rfl, alive, handles.2⟩
  | receives idle queued =>
      refine rests rfl fun _ about => ?_
      simp [State.receive] at about
  | refuses received parsed succeeds refused =>
      refine rests rfl fun _ about => ?_
      simp at about
  | claimFails received parsed write =>
      refine rests write.effects fun _ about => ?_
      simp at about
  | completes handles claimed parsed found =>
      refine rests rfl fun _ about => ?_
      simp at about
  | completionFails handles claimed parsed write =>
      refine rests write.effects fun _ about => ?_
      rwa [write.handling] at about
  | marks handles claimed parsed write =>
      refine rests write.effects fun _ about => ?_
      simp at about
  | observes => exact single
  | publishes failed unacked parsed addressed remain =>
      refine rests rfl fun _ about => ?_
      rw [State.advance_handling] at about
      cases written : choice.writable <;> simp [written] at about
  | acks settled =>
      refine rests rfl fun _ about => ?_
      simpa [State.ack] using about
  | rejects handles gives =>
      refine rests ?_ fun _ about => ?_
      · simp [State.deadLetter, handles.1]
      · simp [State.deadLetter, handles.1] at about

end Acts

/-- What the environment does neither produces nor brings a worker back to life. -/
theorem Single.environment (single : Single deployment before) {event : Occurrence Worker}
    (happened : State.environment deployment.consumers deployment.config.topology event before =
      some after) : Single deployment after := by
  refine single.fewer (environment_effects happened) (fun consumer messageId absent => ?_)
    fun worker consumer messageId produces => ?_
  · rwa [environment_rows happened] at absent
  · have rely : Rely worker before after := .environment happened
    exact ⟨produces.1, living_of_environment happened produces.2.1,
      rely.progress.symm.trans produces.2.2⟩

def singleInvariant (deployment : Deployment Worker) :
    Invariant deployment (unproduced deployment) where
  holds := Single deployment
  acts single acted := by
    rcases acted with ⟨command, choice, permitted, alive, change⟩
    exact single.acts change alive permitted
  environment single _ happened := single.environment happened

omit [DecidableEq Worker] in
theorem single_initial (deployment : Deployment Worker) (now : ℕ) :
    Single deployment (deployment.initial now).shared := by
  constructor <;> simp [Deployment.initial, State.produced, State.Produces]

/-- While rows are taken over only before the side effect, it happens at most once. -/
theorem effect_once (deployment : Deployment Worker) :
    EffectOnce deployment (unproduced deployment).allowed where
  once now _ run :=
    ((singleInvariant deployment).reached (single_initial deployment now) run).once
  named now _ run :=
    ((singleInvariant deployment).reached (single_initial deployment now) run).named

end Runs

/-! ### A completion that fails after the side effect -/

/-- A deposit as `createCompletedEvent` writes it. -/
def depositMessage : Message where
  exchange := "banking.events"
  routingKey := "transaction_completed"
  messageId := some "00000000-0000-4000-8000-000000000001"
  content := .ok (.object
    [("type", .string "TRANSACTION_COMPLETED"), ("schemaVersion", .string "1"),
      ("payload", .object
        [("actorId", .string "00000000-0000-4000-8000-000000000002"),
          ("resourceId", .string "00000000-0000-4000-8000-000000000003"),
          ("traceId", .string "trace"), ("outcome", .string "SUCCESS"),
          ("metadata", .object
            [("transactionType", .string "DEPOSIT"), ("referenceId", .string "reference"),
              ("amount", .number (.finite 10))])])])

/-- A statement that is not executed, for a reason that may pass. -/
def connectionLost : Choice where
  failure := some { error := .transient "connection lost" }

/-- The audit row is written, its message is not marked as completed, and the retry
writes a second row. -/
def repeatedRun : List (Label Bool) :=
  [.environment (.publish depositMessage), .perform false {}, .perform false {},
    .perform false {}, .perform false connectionLost, .perform false {}, .perform false {},
    .perform true {}, .perform true {}, .perform true {}]

private theorem repeated_leads :
    (execute (Deployment.only .rabbitMq).step (fun _ _ => true)
      ((Deployment.only .rabbitMq).initial 0) repeatedRun).any
        (fun current => decide (current.shared.produced .rabbitMq
          "00000000-0000-4000-8000-000000000001" = 2)) = true := by decide +kernel

theorem repeated_effect :
    ¬EffectOnce (Deployment.only .rabbitMq : Deployment Bool) Unrestricted := by
  intro effectOnce
  rcases exists_run_of_execute (Deployment.only .rabbitMq).step (fun _ _ => true) Unrestricted
    (fun _ _ _ => trivial) repeated_leads with ⟨final, run, passed⟩
  have once := effectOnce.once 0 final run .rabbitMq "00000000-0000-4000-8000-000000000001"
  rw [of_decide_eq_true passed] at once
  exact absurd once (by decide)

end BankingBackend.Messaging
