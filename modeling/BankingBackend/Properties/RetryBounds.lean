import BankingBackend.Messaging.Placement
import BankingBackend.Properties.SingleEffect

/-! # Retries are bounded and stay with the failing consumer -/

namespace BankingBackend.Messaging

open Foundation

section Runs

variable {Worker : Type} [DecidableEq Worker]

/-- However the consumers fail, each dispatches the message at most once more than it may
be retried, and its retries stay out of the other queue. -/
structure RetriesStay (deployment : Deployment Worker) (msg : Message) : Prop where
  bounded : ∀ now current,
    Run deployment.step (publishedOnce deployment.config msg).allowed (deployment.initial now)
      current →
    ∀ consumer, current.shared.dispatched deployment.config msg consumer ≤
      deployment.config.maxRetries + 1
  stays : ∀ now current,
    Run deployment.step (publishedOnce deployment.config msg).allowed (deployment.initial now)
      current →
    ∀ worker choice following, deployment.step current (.perform worker choice) = some following →
      ∀ copy ∈ (current.shared.handling worker).message,
        keyOf deployment.config copy = keyOf deployment.config msg →
        ∀ consumer, consumer ≠ deployment.consumers worker →
          following.shared.queue consumer = current.shared.queue consumer

variable {deployment : Deployment Worker} {msg copy : Message} {before after : State Worker}
  {worker : Worker} {consumer : Consumer}

/-! ## Retries of a message bound to one queue -/

section Bounds

variable (confined : ¬(Retryable deployment.config msg ∧
  ∀ consumer, deployment.config.topology.routes msg consumer = true))

include confined in
theorem Placed.stays {command : Command} {choice : Choice}
    (placed : ∀ consumer, Placed deployment msg before consumer)
    (change : Change deployment.config (deployment.consumers worker) worker before command choice
      after) (holds : (before.handling worker).message = some copy)
    (same : keyOf deployment.config copy = keyOf deployment.config msg)
    (elsewhere : consumer ≠ deployment.consumers worker) :
    after.queue consumer = before.queue consumer := by
  cases change with
  | receives idle queued => exact Function.update_of_ne elsewhere _ _
  | claims | refuses | completes | observes | acks => rfl
  | claimFails received parsed write => exact congrFun write.queue consumer
  | completionFails handles claimed parsed write => exact congrFun write.queue consumer
  | marks handles claimed parsed write => exact congrFun write.queue consumer
  | outputs handles outcome =>
      rcases outcome with rfl | ⟨output, rfl⟩
      · rfl
      · rfl
  | rejects handles gives => exact congrFun State.deadLetter_queue consumer
  | publishes failed unacked parsed addressed remain =>
      rw [failed.1] at holds
      cases holds
      have away : ¬deployment.config.topology.routes copy consumer = true := fun routed =>
        elsewhere (Placed.home confined placed failed parsed addressed remain same routed).symm
      exact if_neg away

include confined in
/-- A message that cannot be retried into both queues is retried within its bound, by the
consumer that fails. -/
theorem RetriesStay.of_confined : RetriesStay deployment msg := by
  have initially := placed_initial deployment msg
  constructor
  · intro now current run consumer
    exact ((placedInvariant confined).reached (initially now) run consumer).bounded
  · intro now current run worker choice following taken copy holds same consumer elsewhere
    have sound := (placedInvariant confined).sound (initially now) run
    have permitted : (publishedOnce deployment.config msg).allowed current
        (.perform worker choice) := fun _ _ _ => trivial
    rcases (sound.acts (Condition.restricts permitted taken).2).1 with ⟨command, choice, _, _, change⟩
    exact Placed.stays confined sound.1 change holds same elsewhere

end Bounds

/-! ## Retries of a message bound to both queues -/

theorem handleMessage_fails {message : ParsedMessage} (config : ConsumerConfig)
    (consumer : Consumer) (parsed : parseMessage config msg = .ok message) :
    ∃ eventType next,
      (handleMessage config consumer msg).run =
        .call (.claim message.messageId eventType config.claimTtlMs) next ∧
      ∀ error, next (.error error) = (giveBack config msg error).run := by
  unfold handleMessage claim
  rw [parsed]
  exact ⟨_, _, rfl, fun _ => rfl⟩

theorem giveBack_publishes {config : ConsumerConfig} {error : Thrown}
    (retryable : Retryable config msg) (transient : isTransientConsumerError error = true) :
    ∃ next, (giveBack config msg error).run =
      .call (.publish (msg.retry (getConsumeMessageAttempts msg + 1))) next := by
  unfold giveBack
  simp only [republish, republishForRetry]
  rw [if_pos ⟨transient, retryable.remain⟩, if_neg (not_or.mpr retryable.addressed)]
  exact ⟨_, rfl⟩

theorem Deployment.performs {current : Configuration Worker} {command : Command} (choice : Choice)
    {next : command.Answer → Program interface Result} {answer : command.Answer}
    {shared : State Worker} (program : current.program worker = .call command next)
    (performed : State.perform deployment.consumers deployment.config.topology worker command choice
      current.shared = some (answer, shared)) :
    ∃ following, deployment.step current (.perform worker choice) = some following ∧
      following.program worker = next answer ∧ following.shared = shared :=
  ⟨_, Machine.step_of_perform program performed, Function.update_self _ _ _, rfl⟩

omit [DecidableEq Worker] in
theorem allows_publication (now : ℕ) : (publishedOnce deployment.config msg).allowed
    (deployment.initial now) (.environment (.publish msg)) := by
  refine fun _ => ⟨rfl, ?_⟩
  rintro ⟨_, member, _⟩
  cases member

theorem claim_lost (state : State Worker) (worker : Worker) (consumer : Consumer)
    (messageId eventType : String) (claimTtlMs : ℕ) :
    state.claim worker consumer connectionLost messageId eventType claimTtlMs =
      (.error (.transient "connection lost"), state.advance worker .failed) := by
  unfold State.claim
  cases state.claimRow worker consumer messageId eventType claimTtlMs with
  | none => rfl
  | some row => rfl

/-- A claim that fails for a reason that may pass makes the retry a delivery of both queues. -/
theorem Retryable.spreads (retryable : Retryable deployment.config msg)
    (routed : ∀ consumer, deployment.config.topology.routes msg consumer = true)
    (worker : Worker) : ¬RetriesStay deployment msg := by
  intro stay
  obtain ⟨message, parsed⟩ : ∃ message, parseMessage deployment.config msg = .ok message := by
    have parsed := retryable.parsed
    unfold keyOf at parsed
    cases result : parseMessage deployment.config msg with
    | error error => simp [result, Except.toOption] at parsed
    | ok message => exact ⟨message, rfl⟩
  have allowed (current : Configuration Worker) (choice : Choice) :
      (publishedOnce deployment.config msg).allowed current (.perform worker choice) :=
    fun _ _ _ => trivial
  -- The message is published to both queues.
  obtain ⟨first, published, program, queued, alive⟩ : ∃ first,
      deployment.step (deployment.initial 0) (.environment (.publish msg)) = some first ∧
      first.program worker = deployment.program worker ∧
      first.shared.queue (deployment.consumers worker) = [msg] ∧
      (first.shared.handling worker).crashed = false := by
    refine ⟨_, rfl, rfl, ?_, rfl⟩
    simp [State.enqueue, Deployment.initial, routed]
  -- One consumer receives it, but cannot claim it.
  have handed : State.perform deployment.consumers deployment.config.topology worker .receive {}
      first.shared = some (msg, first.shared.receive worker (deployment.consumers worker) 0 msg) := by
    simp [State.perform, queued, alive]
  obtain ⟨second, received, handling, delivered⟩ := deployment.performs {} program handed
  obtain ⟨eventType, next, claims, fails⟩ :=
    handleMessage_fails deployment.config (deployment.consumers worker) parsed
  have lost : State.perform deployment.consumers deployment.config.topology worker
      (.claim message.messageId eventType deployment.config.claimTtlMs) connectionLost
      second.shared = some (.error (.transient "connection lost"),
        second.shared.advance worker .failed) := by
    simp [State.perform, delivered, State.receive, claim_lost]
  obtain ⟨third, failed, returning, unclaimed⟩ :=
    deployment.performs connectionLost (handling.trans claims) lost
  -- It publishes the message again.
  obtain ⟨rest, publishes⟩ := giveBack_publishes retryable
    (show isTransientConsumerError (.transient "connection lost") = true from rfl)
  have sent : State.perform deployment.consumers deployment.config.topology worker
      (.publish (msg.retry (getConsumeMessageAttempts msg + 1))) {} third.shared =
        some (.ok true, (third.shared.enqueue deployment.config.topology
          (msg.retry (getConsumeMessageAttempts msg + 1))).advance worker .settled) := by
    simp [State.perform, unclaimed, delivered, State.receive, State.onChannel]
  obtain ⟨fourth, retried, _, spread⟩ :=
    deployment.performs {} (returning.trans ((fails _).trans publishes)) sent
  -- The other queue has the retry, too.
  obtain ⟨other, elsewhere⟩ : ∃ other, other ≠ deployment.consumers worker := by
    cases deployment.consumers worker with
    | rabbitMq => exact ⟨.email, by decide⟩
    | email => exact ⟨.rabbitMq, by decide⟩
  have run : Run deployment.step (publishedOnce deployment.config msg).allowed
      (deployment.initial 0) third := by
    exact .next _ (.next _ (.next _ .start (allows_publication 0) published) (allowed _ _) received)
      (allowed _ _) failed
  have holds : msg ∈ (third.shared.handling worker).message := by
    simp [unclaimed, delivered, State.receive]
  have same := stay.stays 0 third run worker {} fourth retried msg holds rfl other elsewhere
  rw [spread] at same
  simp [State.advance, State.enqueue, routed] at same

/-- Retries are bounded and stay with their consumer exactly when the message cannot be
retried into both queues. -/
theorem retries_stay (deployment : Deployment Worker) (msg : Message) (worker : Worker) :
    RetriesStay deployment msg ↔ ¬(Retryable deployment.config msg ∧
      ∀ consumer, deployment.config.topology.routes msg consumer = true) := by
  constructor
  · rintro stay ⟨retryable, routed⟩
    exact retryable.spreads routed worker stay
  · exact RetriesStay.of_confined

end Runs

/-! ### Two consumers that fail -/

/-- Three deliveries of one consumer and one of the other, each message retried once. -/
def failing : Deployment (Fin 4) where
  consumers worker := if worker = 3 then .email else .rabbitMq
  config := { (Deployment.only .email : Deployment (Fin 4)).config with
    maxRetries := 1
    maxRetriesPositive := Nat.one_pos }

/-- Each consumer fails once, and its retry is delivered to both. -/
def multipliedRun : List (Label (Fin 4)) :=
  [.perform 0 {}, .perform 0 {}, .perform 0 connectionLost, .perform 0 {}, .perform 0 {},
    .perform 3 {}, .perform 3 connectionLost, .perform 3 {},
    .perform 1 {}, .perform 1 {}, .perform 1 connectionLost, .perform 1 {},
    .perform 2 {}, .perform 2 {}]

def byWorker : Label (Fin 4) → Bool
  | .perform _ _ => true
  | .environment _ => false

private theorem multiplied_leads :
    ((failing.step (failing.initial 0) (.environment (.publish depositMessage))).any fun first =>
      (execute failing.step (fun _ => byWorker) first multipliedRun).any fun final =>
        decide (2 < final.shared.dispatched failing.config depositMessage .rabbitMq)) = true := by
  decide +kernel

theorem retries_multiplied : ¬RetriesStay failing depositMessage := by
  intro stay
  have allowed (current : Configuration (Fin 4)) (label : Label (Fin 4))
      (performs : byWorker label = true) :
      (publishedOnce failing.config depositMessage).allowed current label := by
    cases label with
    | perform worker choice => exact fun _ _ _ => trivial
    | environment event => cases performs
  rcases (Option.any_eq_true _ _).mp multiplied_leads with ⟨first, published, later⟩
  rcases exists_run_of_execute failing.step (fun _ => byWorker) _ allowed later with
    ⟨final, run, exceeded⟩
  have beginning : Run failing.step (publishedOnce failing.config depositMessage).allowed
      (failing.initial 0) first := .next _ .start (allows_publication 0) published
  have bounded := stay.bounded 0 final (beginning.trans run) .rabbitMq
  exact absurd bounded (Nat.not_le.mpr (of_decide_eq_true exceeded))

end BankingBackend.Messaging
