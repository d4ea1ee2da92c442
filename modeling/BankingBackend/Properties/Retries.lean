import BankingBackend.Foundation.Execution
import BankingBackend.Properties.Stranding

/-! # Retries of an event -/

namespace BankingBackend.Outbox

open Foundation
open Postgres (Uuid EventStatus)

/-! ## Runs in which publishing fails -/

section Failing

variable {Worker Payload : Type}

/-- Publishing the event fails; the database answers. -/
def publishFails (id : Uuid) (choice : Choice) : Command Payload → Bool
  | .publish _ _ _ options => options.messageId != id || choice.failure.isSome
  | .claimNextBatch _ _ | .updateMany _ _ _ => choice.failure.isNone
  | .getPublisherChannel _ | .assertExchange _ | .dateNow => true

def Failing (id : Uuid) (current : Configuration Worker Payload) (label : Label Worker Payload) :
    Bool :=
  match label with
  | .environment _ => true
  | .perform worker choice =>
      match current.program worker with
      | .done _ => true
      | .call command _ => publishFails id choice command

def beginning (Worker : Type) (config : OutboxConfig) (event : Event Payload) (now : ℕ) :
    Configuration Worker Payload :=
  { initial Worker Payload config now with
    shared := { events := [event], now, history := [], handed := [], confirmed := [] } }

/-- An event that cannot be published is handed to the publisher once and retried
`maxRetries` times. -/
structure BoundedRetries (config : OutboxConfig) (event : Event Payload) : Prop where
  handed : ∀ now (final : Configuration ℕ Payload),
    Run step (fun current label => Failing event.id current label = true)
      (beginning ℕ config event now) final →
    final.shared.handed.count event.id ≤ config.maxRetries + 1
  unclaimed : ∀ now (current following : Configuration ℕ Payload) label,
    Run step (fun current label => Failing event.id current label = true)
      (beginning ℕ config event now) current →
    Failing event.id current label = true → step current label = some following →
    ∀ row ∈ current.shared.events, row.id = event.id → config.maxRetries < row.retryCount →
      Lease.claims event.id following.shared.history = Lease.claims event.id current.shared.history

end Failing

/-! ## One more attempt -/

section Attempt

variable {Worker Payload : Type}

/-- The worker can end so, alone, when publishing the event fails. -/
abbrev FailsTo {α : Type} (worker : Worker) (id : Uuid) (program : Service Payload α)
    (state : State Worker Payload) (result : Except String α) (final : State Worker Payload) : Prop :=
  ExecutesResult (State.perform worker) (fun command choice => publishFails id choice command = true)
    program state result final

variable (worker : Worker) (id : Uuid)

theorem failsTo_request {state after : State Worker Payload} {command : Command Payload}
    {answer : command.Answer} (choice : Choice)
    (permits : publishFails id choice command = true)
    (performed : State.perform worker command choice state = some (answer, after)) :
    FailsTo worker id (request command) state (.ok answer) after :=
  .call choice permits performed (.done _ _)

variable (state : State Worker Payload)

theorem failsTo_orThrow {α : Type} (result : Except String α) :
    FailsTo worker id (orThrow result) state result state := by
  cases result with
  | ok value => exact .pure value state
  | error message => exact .throw message state

theorem failsTo_publishEvent (config : OutboxConfig) (evt : ClaimedEventRow Payload) :
    FailsTo worker id (publishEvent config evt) state (.error "channel not ready")
      { state with handed := evt.id :: state.handed } := by
  have asked := failsTo_request worker id { failure := some ⟨"channel not ready", false⟩ } rfl
    (rfl : State.perform worker (.getPublisherChannel evt.id) _ state = _)
  exact .bind asked (.bind_error (failsTo_orThrow worker id _ _))

theorem failsTo_nextRetryAt (config : OutboxConfig) (nextRetryCount : ℕ) :
    ∃ retryAt, FailsTo worker id (nextRetryAt config nextRetryCount) state (.ok retryAt) state := by
  unfold nextRetryAt
  split
  · exact ⟨_, .bind (failsTo_request worker id {} rfl rfl) (.pure _ _)⟩
  · exact ⟨none, .pure _ _⟩

section Row

variable (event : Event Payload) (now : ℕ)

/-- The event is alone in the table and waits, handed over once more. -/
structure Again (before after : State Worker Payload) : Prop where
  waits : ∃ row, after.events = [row] ∧ row.id = event.id ∧ row.Waiting
  handed : after.handed = event.id :: before.handed

/-- The claimed row is marked as failed, or stays claimed when a value is out of
range. -/
theorem failsTo_updateMany (nextRetryCount : ℕ) (retryAt : Option ℕ) (error : String)
    (alone : state.events = [event.claim now]) :
    ∃ answer after, FailsTo worker id (request (.updateMany event.id (some (toTimestamp now))
        (.failed nextRetryCount retryAt error))) state (.ok answer) after ∧
      (∃ row, after.events = [row] ∧ row.id = event.id ∧ row.Waiting) ∧
      after.handed = state.handed := by
  have isClaimed : (event.claim now).isClaimed event.id (some (toTimestamp now)) = true :=
    Event.isClaimed_iff.mpr ⟨rfl, rfl, rfl⟩
  by_cases fits : (EventUpdate.failed nextRetryCount retryAt error).fits = true
  · refine ⟨_, _, failsTo_request worker id {} rfl (if_pos fits),
      ⟨(EventUpdate.failed nextRetryCount retryAt error).apply (event.claim now), ?_, rfl,
        ⟨(by simp [EventUpdate.apply]), (by simp [EventUpdate.apply])⟩⟩, ?_⟩
    · simp [Choice.after, State.updateMany, State.finalize, alone, isClaimed]
    · simp [Choice.after, State.updateMany, State.finalize, alone, isClaimed]
  · exact ⟨_, state, failsTo_request worker id {} rfl (if_neg fits),
      ⟨event.claim now, alone, rfl, (by simp), fun _ => rfl⟩, rfl⟩

theorem failsTo_processEvents (config : OutboxConfig) (alone : state.events = [event.claim now]) :
    ∃ result after, FailsTo worker id (processEvents config [(event.claim now).claimedRow])
      state result after ∧ Again event state after := by
  have published := failsTo_publishEvent worker id state config (event.claim now).claimedRow
  rcases failsTo_nextRetryAt worker id { state with handed := event.id :: state.handed }
    config (event.retryCount + 1) with ⟨retryAt, scheduled⟩
  rcases failsTo_updateMany worker id { state with handed := event.id :: state.handed }
    event now (event.retryCount + 1) retryAt "channel not ready" alone with
    ⟨answer, after, updated, waits, handed⟩
  refine ⟨answer.map fun _ => (), after, ?_, waits, handed⟩
  have outcome := failsTo_orThrow worker id after answer
  cases answer with
  | ok count =>
      have processed : FailsTo worker id (processEvent config (event.claim now).claimedRow) state
          (.ok ()) after :=
        .attempt published (.bind scheduled (.bind updated (.bind outcome (.pure _ _))))
      exact .bind processed (.pure _ _)
  | error message =>
      have thrown : FailsTo worker id (processEvent config (event.claim now).claimedRow) state
          (.error message) after :=
        .attempt published (.bind scheduled (.bind updated (.bind_error outcome)))
      exact .bind_error thrown

theorem candidates_singleton {batchSize claimTtlMs : ℕ} (positive : 0 < batchSize)
    (claimable : event.claimable now claimTtlMs = true) :
    candidates batchSize claimTtlMs now {} [event] = [event] := by
  simp only [candidates, claimable, List.filter_cons, Bool.not_false, Bool.and_self, if_true,
    List.filter_nil, List.insertionSort]
  exact List.take_of_length_le positive

theorem failsTo_processPendingEvents (config : OutboxConfig) (alone : state.events = [event])
    (claimable : event.claimable state.now config.claimTtlMs = true) :
    ∃ result after, FailsTo worker id (processPendingEvents config) state result after ∧
      Again event state after := by
  have claimed : State.perform worker (.claimNextBatch config.batchSize config.claimTtlMs) {} state =
      some (.ok [(event.claim state.now).claimedRow], state.claimAll worker [event.id]) := by
    simp only [State.perform, alone, candidates_singleton event state.now config.batchSizePositive
      claimable]
    rfl
  have claims := failsTo_request worker id {} rfl claimed
  have alone : (state.claimAll worker [event.id]).events = [event.claim state.now] := by
    simp [State.claimAll, alone]
  rcases failsTo_processEvents worker id _ event state.now config alone with
    ⟨result, after, processed, again⟩
  exact ⟨result, after, .bind claims (.bind (failsTo_orThrow worker id _ _) processed),
    again.waits, again.handed⟩

end Row

end Attempt

/-! ## Runs of any length -/

section Runs

variable {Payload : Type} (config : OutboxConfig) (event : Event Payload)

/-- The event waits after it has been handed over so many times, each time by the
next worker. -/
structure Handed (times : ℕ) (current : Configuration ℕ Payload) : Prop where
  waits : ∃ row, current.shared.events = [row] ∧ row.id = event.id ∧ row.Waiting
  programs : ∀ worker, times ≤ worker → current.program worker = (processPendingEvents config).run
  handed : current.shared.handed.count event.id = times

variable {config event} {current : Configuration ℕ Payload} {times : ℕ}

abbrev FailingRun (id : Uuid) (start final : Configuration ℕ Payload) : Prop :=
  Run step (fun current label => Failing id current label = true) start final

theorem Handed.tick (handed : Handed config event times current) :
    ∃ following row, FailingRun event.id current following ∧ Handed config event times following ∧
      following.shared.events = [row] ∧ row.id = event.id ∧
      row.claimable following.shared.now config.claimTtlMs = true := by
  rcases handed.waits with ⟨row, alone, same, waiting⟩
  rcases waiting.eventually_claimable config.claimTtlMs with ⟨time, claimable⟩
  have later : current.shared.now ≤ max time current.shared.now := le_max_right _ _
  let following : Configuration ℕ Payload :=
    { current with shared := { current.shared with now := max time current.shared.now } }
  have taken : step current (.environment (.tick (max time current.shared.now))) =
      some following := by
    simp only [step, Machine.step, machine, State.environment, if_pos later]
    rfl
  exact ⟨following, row, .next _ .start rfl taken, ⟨⟨row, alone, same, waiting⟩, handed.programs,
    handed.handed⟩, alone, same, claimable _ (le_max_left _ _)⟩

theorem Handed.round (handed : Handed config event times current) :
    ∃ following, FailingRun event.id current following ∧
      Handed config event (times + 1) following := by
  rcases handed.tick with ⟨between, row, waited, handed, alone, same, claimable⟩
  rcases failsTo_processPendingEvents times event.id _ row config alone claimable with
    ⟨result, after, executes, again⟩
  have executes : Executes (State.perform times)
      (fun command choice => publishFails event.id choice command = true)
      (between.program times) between.shared result after := by
    rw [handed.programs times le_rfl]
    exact executes
  have allows : ∀ (here : Configuration ℕ Payload) command next choice,
      here.program times = .call command next →
      publishFails event.id choice command = true →
      Failing event.id here (.perform times choice) = true := by
    intro here command next choice asks permits
    simp only [Failing, asks, permits]
  have alone : ∃ following, FailingRun event.id between following ∧ following.shared = after ∧
      following.program times = .done result ∧ Aside times between following :=
    Executes.run executes allows
  rcases alone with ⟨following, run, shared, _, aside⟩
  refine ⟨following, waited.trans run, ?_, fun worker later => ?_, ?_⟩
  · rcases again.waits with ⟨row', alone', same', waiting'⟩
    exact ⟨row', shared ▸ alone', same'.trans same, waiting'⟩
  · rw [aside worker (by omega), handed.programs worker (by omega)]
  · rw [shared, again.handed, same, List.count_cons_self, handed.handed]

variable (config) in
theorem exists_handed (id : Uuid) (type : String) (payload : Payload) (createdAt now times : ℕ) :
    ∃ current, FailingRun id (beginning ℕ config (.created id type payload createdAt) now) current ∧
      Handed config (.created id type payload createdAt) times current := by
  induction times with
  | zero => exact ⟨_, .start, ⟨_, rfl, rfl, Event.waiting_created⟩, fun _ _ => rfl, rfl⟩
  | succ times induction =>
      rcases induction with ⟨current, run, handed⟩
      rcases handed.round with ⟨following, further, again⟩
      exact ⟨following, run.trans further, again⟩

/-- Nothing bounds the attempts: an exhausted row is marked as failed without a next
retry, which the claim of a batch takes for a retry that is due. -/
theorem retries_unbounded (config : OutboxConfig) (id : Uuid) (type : String) (payload : Payload)
    (createdAt : ℕ) : ¬BoundedRetries config (.created id type payload createdAt) := by
  intro bounded
  rcases exists_handed config id type payload createdAt 0 (config.maxRetries + 2) with
    ⟨current, run, handed⟩
  have bound := bounded.handed 0 current run
  rw [handed.handed] at bound
  omega

end Runs

/-! ### An event that is exhausted -/

def sampleEvent : Event Unit := .created ⟨1⟩ "TRANSACTION_COMPLETED" () 0

/-- A worker that claims the event and finds no publisher channel, with the steps
that follow. -/
def failedAttempt (worker steps : ℕ) : List (Label ℕ Unit) :=
  [.environment (.tick (worker * 1000000000)), .perform worker {},
    .perform worker { failure := some ⟨"channel not ready", false⟩ }] ++
    List.replicate steps (.perform worker { dateNow := worker * 1000000 })

/-- Six attempts exhaust the retries; the seventh worker claims the event again. -/
def exhaustedRun : List (Label ℕ Unit) :=
  failedAttempt 0 2 ++ failedAttempt 1 2 ++ failedAttempt 2 2 ++ failedAttempt 3 2 ++
    failedAttempt 4 2 ++ failedAttempt 5 1 ++ failedAttempt 6 0

def exhaustedTest (current : Configuration ℕ Unit) : Bool :=
  current.shared.handed.count sampleEvent.id == 7 &&
    current.shared.events.any fun row => row.id == sampleEvent.id && row.retryCount == 6

private theorem exhausted_leads : (execute step (Failing sampleEvent.id)
    (beginning ℕ {} sampleEvent 0) exhaustedRun).any exhaustedTest = true := by decide +kernel

theorem exhausted_handed : ¬BoundedRetries {} sampleEvent := by
  intro bounded
  rcases exists_run_of_execute step (Failing sampleEvent.id)
    (fun current label => Failing sampleEvent.id current label = true) (fun _ _ => id)
    exhausted_leads with ⟨final, run, passed⟩
  simp only [exhaustedTest, Bool.and_eq_true, beq_iff_eq] at passed
  have bound := bounded.handed 0 final run
  rw [passed.1] at bound
  exact absurd bound (by decide)

end BankingBackend.Outbox
