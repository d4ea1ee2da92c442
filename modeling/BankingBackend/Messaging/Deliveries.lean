import BankingBackend.Messaging.Consumer

/-! # Steps of a worker

What each request of `handleMessage` can do, and in which stage of its delivery a
worker makes it. Every law of the consumers is derived from `Change`.
-/

namespace BankingBackend.Messaging

open Foundation

/-! ## Messages and their retries -/

section Keys

variable {config : ConsumerConfig} {msg : Message} {message : ParsedMessage}

/-- The `messageId` under which a message is claimed. -/
def keyOf (config : ConsumerConfig) (msg : Message) : Option String :=
  (parseMessage config msg).toOption.map ParsedMessage.messageId

theorem keyOf_of_parsed (parsed : parseMessage config msg = .ok message) :
    keyOf config msg = some message.messageId := by
  rw [keyOf, parsed]
  rfl

@[simp] theorem keyOf_retry (attempts : ℕ) : keyOf config (msg.retry attempts) = keyOf config msg :=
  rfl

@[simp] theorem routes_retry (topology : Topology) (attempts : ℕ) :
    topology.routes (msg.retry attempts) = topology.routes msg := rfl

@[simp] theorem getConsumeMessageAttempts_retry (attempts : ℕ) :
    getConsumeMessageAttempts (msg.retry attempts) = attempts := by
  have absent : (msg.headers.filter fun header => header.1 != "x-attempts").find?
      (fun header => header.1 == "x-attempts") = none := by
    rw [List.find?_eq_none]
    intro header member
    have other := (List.mem_filter.mp member).2
    simpa using other
  simp [getConsumeMessageAttempts, Message.retry, absent]

end Keys

/-! ## Changes -/

section Changes

variable {Worker : Type} [DecidableEq Worker]

omit [DecidableEq Worker] in
def State.Handles (state : State Worker) (worker : Worker) (msg : Message) (progress : Progress) :
    Prop :=
  (state.handling worker).message = some msg ∧ (state.handling worker).progress = progress

theorem State.Handles.advances {state taken : State Worker} {worker : Worker} {msg : Message}
    {progress further : Progress} (handles : state.Handles worker msg progress)
    (same : taken.handling = state.handling) :
    (taken.advance worker further).Handles worker msg further := by
  simpa [State.Handles, State.advance, same] using handles.1

inductive RowWrite (consumer : Consumer) (messageId : String)
    (written : ProcessedMessage Worker → Prop) (before : State Worker) : State Worker → Prop
  | skips : RowWrite consumer messageId written before before
  | writes (row : ProcessedMessage Worker) (holds : written row) :
      RowWrite consumer messageId written before (before.setRow consumer messageId row)

inductive Change (config : ConsumerConfig) (consumer : Consumer) (worker : Worker)
    (before : State Worker) : Command → Choice → State Worker → Prop
  | receives {choice : Choice} {msg : Message} (idle : (before.handling worker).progress = .idle)
      (queued : (before.queue consumer)[choice.position]? = some msg) :
      Change config consumer worker before .receive choice
        (before.receive worker consumer choice.position msg)
  | claims {choice : Choice} {msg : Message} {message : ParsedMessage} {eventType : String}
      {row : ProcessedMessage Worker} (received : before.Handles worker msg .received)
      (parsed : parseMessage config msg = .ok message) (succeeds : choice.failure = none)
      (taken : before.claimRow worker consumer message.messageId eventType config.claimTtlMs =
        some row) :
      Change config consumer worker before
        (.claim message.messageId eventType config.claimTtlMs) choice
        (before.grant worker consumer message.messageId row)
  | refuses {choice : Choice} {msg : Message} {message : ParsedMessage} {eventType : String}
      (received : before.Handles worker msg .received)
      (parsed : parseMessage config msg = .ok message) (succeeds : choice.failure = none)
      (refused : before.claimRow worker consumer message.messageId eventType config.claimTtlMs =
        none) :
      Change config consumer worker before
        (.claim message.messageId eventType config.claimTtlMs) choice
        (before.advance worker .settled)
  | claimFails {choice : Choice} {msg : Message} {message : ParsedMessage} {eventType : String}
      (received : before.Handles worker msg .received)
      (parsed : parseMessage config msg = .ok message) {taken : State Worker}
      (write : RowWrite consumer message.messageId (fun row =>
        before.claimRow worker consumer message.messageId eventType config.claimTtlMs =
          some row) before taken) :
      Change config consumer worker before
        (.claim message.messageId eventType config.claimTtlMs) choice
        (taken.advance worker .failed)
  | completes {choice : Choice} {msg : Message} {message : ParsedMessage} {progress : Progress}
      {row : ProcessedMessage Worker} (handles : before.Handles worker msg progress)
      (claimed : progress.claimed? = some message.messageId)
      (parsed : parseMessage config msg = .ok message)
      (found : before.claimedRow consumer message.messageId = some row) :
      Change config consumer worker before (.markCompleted message.messageId) choice
        ((before.setRow consumer message.messageId (row.complete before.now)).advance worker
          .settled)
  | completionFails {choice : Choice} {msg : Message} {message : ParsedMessage}
      {progress : Progress} (handles : before.Handles worker msg progress)
      (claimed : progress.claimed? = some message.messageId)
      (parsed : parseMessage config msg = .ok message) {taken : State Worker}
      (write : RowWrite consumer message.messageId (fun completed =>
        ∃ failure row, choice.failure = some failure ∧ failure.executed = true ∧
          before.claimedRow consumer message.messageId = some row ∧
            completed = row.complete before.now) before taken) :
      Change config consumer worker before (.markCompleted message.messageId) choice taken
  | marks {choice : Choice} {msg : Message} {message : ParsedMessage} {progress : Progress}
      {errorMessage : String} (handles : before.Handles worker msg progress)
      (claimed : progress.claimed? = some message.messageId)
      (parsed : parseMessage config msg = .ok message) {taken : State Worker}
      (write : RowWrite consumer message.messageId (fun failed =>
        ∃ row, (∀ failure ∈ choice.failure, failure.executed = true) ∧
          before.rows consumer message.messageId = some row ∧
            failed = row.fail errorMessage) before taken) :
      Change config consumer worker before (.markFailed message.messageId errorMessage) choice
        (taken.advance worker .failed)
  | outputs {command : Command} {choice : Choice} {msg : Message} {messageId : String}
      (handles : before.Handles worker msg (.dispatching messageId)) {taken : State Worker}
      (outcome : taken = before ∨ ∃ output, taken = before.record worker consumer output) :
      Change config consumer worker before command choice
        (taken.advance worker (.dispatched messageId))
  | observes {command : Command} {choice : Choice} :
      Change config consumer worker before command choice before
  | publishes {choice : Choice} {msg : Message} {message : ParsedMessage}
      (failed : before.Handles worker msg .failed)
      (unacked : (before.handling worker).unacked = true)
      (parsed : parseMessage config msg = .ok message)
      (addressed : msg.exchange ≠ "" ∧ msg.routingKey ≠ "")
      (remain : getConsumeMessageAttempts msg + 1 ≤ config.maxRetries) :
      Change config consumer worker before
        (.publish (msg.retry (getConsumeMessageAttempts msg + 1))) choice
        ((before.enqueue config.topology (msg.retry (getConsumeMessageAttempts msg + 1))).advance
          worker (if choice.writable then .settled else .returned))
  | acks {choice : Choice} (settled : (before.handling worker).progress = .settled) :
      Change config consumer worker before .ack choice (before.ack worker)
  | rejects {choice : Choice} {msg : Message} {progress : Progress}
      (handles : before.Handles worker msg progress)
      (gives : progress = .received ∨ progress = .failed ∨ progress = .returned) :
      Change config consumer worker before (.nack false) choice
        (before.deadLetter worker consumer)

end Changes

/-! ## Requests -/

def Progress.afterClaim (messageId : String) : Except Thrown Bool → Progress
  | .ok true => .dispatching messageId
  | .ok false => .settled
  | .error _ => .failed

def Progress.afterCompletion (progress : Progress) : Except Thrown ℕ → Progress
  | .ok 1 => .settled
  | _ => progress

def Progress.afterPublish : Except Thrown Bool → Progress
  | .ok true => .settled
  | .ok false => .returned
  | .error _ => .failed

section Requests

variable {Worker : Type} [DecidableEq Worker] {config : ConsumerConfig}
  {consumers : Worker → Consumer} {topology : Topology} {worker : Worker}
  {before after : State Worker} {choice : Choice} {msg : Message} {message : ParsedMessage}

theorem alive_of_performed {command : Command} {result : command.Answer × State Worker}
    (performed : State.perform consumers topology worker command choice before = some result) :
    (before.handling worker).crashed = false := by
  unfold State.perform at performed
  split at performed
  · cases performed
  · rename_i alive
    simpa using alive

theorem perform_receive (idle : (before.handling worker).progress = .idle)
    (performed : State.perform consumers topology worker .receive choice before =
      some (msg, after)) :
    Change config (consumers worker) worker before .receive choice after ∧
      after.Handles worker msg .received := by
  have alive := alive_of_performed performed
  simp only [State.perform, alive, Bool.false_eq_true, if_false, Option.map_eq_some_iff,
    Prod.mk.injEq] at performed
  rcases performed with ⟨delivered, queued, rfl, rfl⟩
  exact ⟨.receives idle queued, by simp [State.Handles, State.receive, State.setHandling]⟩

theorem perform_claim {eventType : String} (received : before.Handles worker msg .received)
    (parsed : parseMessage config msg = .ok message) {answer : Except Thrown Bool}
    (performed : State.perform consumers topology worker
      (.claim message.messageId eventType config.claimTtlMs) choice before =
        some (answer, after)) :
    Change config (consumers worker) worker before
        (.claim message.messageId eventType config.claimTtlMs) choice after ∧
      after.Handles worker msg (.afterClaim message.messageId answer) := by
  have alive := alive_of_performed performed
  simp only [State.perform, alive, Bool.false_eq_true, if_false, Option.some.injEq] at performed
  unfold State.claim at performed
  split at performed
  · rename_i row taken succeeds
    cases performed
    exact ⟨.claims received parsed succeeds taken,
      received.advances rfl⟩
  · rename_i refused succeeds
    cases performed
    exact ⟨.refuses received parsed succeeds refused, received.advances rfl⟩
  · rename_i row failure taken fails
    cases performed
    split
    · exact ⟨.claimFails received parsed (.writes row taken),
        received.advances rfl⟩
    · exact ⟨.claimFails received parsed .skips, received.advances rfl⟩
  · cases performed
    exact ⟨.claimFails received parsed .skips, received.advances rfl⟩

theorem perform_markCompleted {progress : Progress} (handles : before.Handles worker msg progress)
    (claimed : progress.claimed? = some message.messageId)
    (parsed : parseMessage config msg = .ok message) {answer : Except Thrown ℕ}
    (performed : State.perform consumers topology worker (.markCompleted message.messageId) choice
      before = some (answer, after)) :
    Change config (consumers worker) worker before (.markCompleted message.messageId) choice
        after ∧
      after.Handles worker msg (progress.afterCompletion answer) := by
  have alive := alive_of_performed performed
  simp only [State.perform, alive, Bool.false_eq_true, if_false, Option.some.injEq] at performed
  unfold State.markCompleted at performed
  split at performed
  · rename_i row found succeeds
    cases performed
    exact ⟨.completes handles claimed parsed found,
      handles.advances rfl⟩
  · cases performed
    exact ⟨.completionFails handles claimed parsed .skips, handles⟩
  · rename_i row failure found fails
    cases performed
    split
    · rename_i executed
      exact ⟨.completionFails handles claimed parsed
        (.writes _ ⟨failure, row, fails, executed, found, rfl⟩), handles⟩
    · exact ⟨.completionFails handles claimed parsed .skips, handles⟩
  · cases performed
    exact ⟨.completionFails handles claimed parsed .skips, handles⟩

theorem perform_markFailed {progress : Progress} (handles : before.Handles worker msg progress)
    (claimed : progress.claimed? = some message.messageId)
    (parsed : parseMessage config msg = .ok message) {errorMessage : String}
    {answer : Except Thrown Unit}
    (performed : State.perform consumers topology worker
      (.markFailed message.messageId errorMessage) choice before = some (answer, after)) :
    Change config (consumers worker) worker before (.markFailed message.messageId errorMessage)
        choice after ∧
      after.Handles worker msg .failed := by
  have alive := alive_of_performed performed
  simp only [State.perform, alive, Bool.false_eq_true, if_false, Option.some.injEq,
    Prod.mk.injEq] at performed
  rcases performed with ⟨rfl, rfl⟩
  unfold State.markFailed
  rcases choice.after_cases before
    (before.failRow (consumers worker) message.messageId errorMessage) with same | ⟨failed, executed⟩
  · rw [same]
    exact ⟨.marks handles claimed parsed .skips, handles.advances rfl⟩
  · rw [failed]
    rcases before.failRow_cases (consumers worker) message.messageId errorMessage with
      same | ⟨row, found, result⟩
    · rw [same]
      exact ⟨.marks handles claimed parsed .skips, handles.advances rfl⟩
    · rw [result]
      exact ⟨.marks handles claimed parsed (.writes _ ⟨row, executed, found, rfl⟩),
        handles.advances rfl⟩

theorem output_cases (config : ConsumerConfig) (consumers : Worker → Consumer) (choice : Choice)
    (output : Output) (command : Command) {messageId : String}
    (handles : before.Handles worker msg (.dispatching messageId)) :
    Change config (consumers worker) worker before command choice
        (before.output worker (consumers worker) choice output) ∧
      (before.output worker (consumers worker) choice output).Handles worker msg
        (.dispatched messageId) := by
  have after : (before.handling worker).progress.afterEffect = .dispatched messageId := by
    rw [handles.2]
    rfl
  unfold State.output
  rw [after]
  rcases choice.after_cases before (before.record worker (consumers worker) output) with
    same | ⟨recorded, _⟩
  · rw [same]
    exact ⟨.outputs handles (.inl rfl), handles.advances rfl⟩
  · rw [recorded]
    exact ⟨.outputs handles (.inr ⟨output, rfl⟩),
      handles.advances rfl⟩

omit [DecidableEq Worker] in
theorem onChannel_cases {α : Type} {value : α} {result : State Worker} {answer : Except Thrown α}
    (performed : before.onChannel worker choice value result = some (answer, after)) :
    ((∃ error, answer = .error error) ∧ after = before) ∨
      (before.handling worker).unacked = true ∧ answer = .ok value ∧ after = result := by
  unfold State.onChannel at performed
  split at performed
  · cases performed
    exact .inl ⟨⟨_, rfl⟩, rfl⟩
  · split at performed
    · rename_i unacked
      cases performed
      exact .inr ⟨unacked, rfl, rfl⟩
    · cases performed

theorem perform_publish (failed : before.Handles worker msg .failed)
    (parsed : parseMessage config msg = .ok message)
    (addressed : msg.exchange ≠ "" ∧ msg.routingKey ≠ "")
    (remain : getConsumeMessageAttempts msg + 1 ≤ config.maxRetries) {answer : Except Thrown Bool}
    (performed : State.perform consumers config.topology worker
      (.publish (msg.retry (getConsumeMessageAttempts msg + 1))) choice before =
        some (answer, after)) :
    Change config (consumers worker) worker before
        (.publish (msg.retry (getConsumeMessageAttempts msg + 1))) choice after ∧
      after.Handles worker msg (.afterPublish answer) := by
  have alive := alive_of_performed performed
  simp only [State.perform, alive, Bool.false_eq_true, if_false] at performed
  rcases onChannel_cases performed with ⟨⟨error, rfl⟩, rfl⟩ | ⟨unacked, rfl, rfl⟩
  · exact ⟨.observes, failed⟩
  · refine ⟨.publishes failed unacked parsed addressed remain, ?_⟩
    cases written : choice.writable with
    | true => exact failed.advances rfl
    | false => exact failed.advances rfl

theorem perform_ack (settled : (before.handling worker).progress = .settled)
    {answer : Except Thrown Unit}
    (performed : State.perform consumers topology worker .ack choice before =
      some (answer, after)) :
    Change config (consumers worker) worker before .ack choice after := by
  have alive := alive_of_performed performed
  simp only [State.perform, alive, Bool.false_eq_true, if_false] at performed
  rcases onChannel_cases performed with ⟨_, rfl⟩ | ⟨_, _, rfl⟩
  · exact .observes
  · exact .acks settled

theorem perform_nack {progress : Progress} (handles : before.Handles worker msg progress)
    (gives : progress = .received ∨ progress = .failed ∨ progress = .returned)
    {answer : Except Thrown Unit}
    (performed : State.perform consumers topology worker (.nack false) choice before =
      some (answer, after)) :
    Change config (consumers worker) worker before (.nack false) choice after := by
  have alive := alive_of_performed performed
  simp only [State.perform, alive, Bool.false_eq_true, if_false] at performed
  rcases onChannel_cases performed with ⟨_, rfl⟩ | ⟨_, _, rfl⟩
  · exact .observes
  · exact .rejects handles gives

end Requests

/-! ## What every change keeps -/

section Writes

variable {Worker : Type} {consumer : Consumer} {messageId : String}
  {written : ProcessedMessage Worker → Prop} {before after : State Worker}
  (write : RowWrite consumer messageId written before after)
include write

theorem RowWrite.handling : after.handling = before.handling := by cases write <;> rfl

theorem RowWrite.queue : after.queue = before.queue := by cases write <;> rfl

theorem RowWrite.deadLetters : after.deadLetters = before.deadLetters := by cases write <;> rfl

theorem RowWrite.effects : after.effects = before.effects := by cases write <;> rfl

theorem RowWrite.dispatches : after.dispatches = before.dispatches := by cases write <;> rfl

theorem RowWrite.published : after.published = before.published := by cases write <;> rfl

theorem RowWrite.rows {other : Consumer} {key : String} {row : ProcessedMessage Worker}
    (found : after.rows other key = some row) :
    before.rows other key = some row ∨ other = consumer ∧ key = messageId ∧ written row := by
  cases write with
  | skips => exact .inl found
  | writes replaced holds =>
      rcases State.setRow_found _ found with kept | ⟨here, same, rfl⟩
      · exact .inl kept
      · exact .inr ⟨here, same, holds⟩

theorem RowWrite.absent {other : Consumer} {key : String} (absent : after.rows other key = none) :
    before.rows other key = none := by
  cases write with
  | skips => exact absent
  | writes row holds => exact State.setRow_absent _ absent

theorem RowWrite.completed {other : Consumer} {key : String} (done : before.Completed other key)
    (stays : ∀ row, written row → other = consumer → key = messageId → row.status = .completed) :
    after.Completed other key := by
  cases write with
  | skips => exact done
  | writes row holds => exact done.setRow (stays row holds)

end Writes

section Keeps

variable {Worker : Type} [DecidableEq Worker] {config : ConsumerConfig} {consumer : Consumer}
  {worker other : Worker} {before after : State Worker} {command : Command} {choice : Choice}

theorem State.advance_others (state : State Worker) (progress : Progress)
    (different : other ≠ worker) :
    (state.advance worker progress).handling other = state.handling other :=
  Function.update_of_ne different _ _

@[simp] theorem State.advance_handling (state : State Worker) (progress : Progress) :
    (state.advance worker progress).handling worker =
      { state.handling worker with progress } := Function.update_self _ _ _

theorem Change.others (change : Change config consumer worker before command choice after)
    (different : other ≠ worker) : after.handling other = before.handling other := by
  cases change with
  | receives idle queued => exact Function.update_of_ne different _ _
  | claims received parsed succeeds taken => exact State.advance_others _ _ different
  | refuses received parsed succeeds refused => exact State.advance_others _ _ different
  | claimFails received parsed write => rw [State.advance_others _ _ different, write.handling]
  | completes handles claimed parsed found => exact State.advance_others _ _ different
  | completionFails handles claimed parsed write => rw [write.handling]
  | marks handles claimed parsed write => rw [State.advance_others _ _ different, write.handling]
  | outputs handles outcome =>
      rw [State.advance_others _ _ different]
      rcases outcome with rfl | ⟨output, rfl⟩
      · rfl
      · rfl
  | observes => rfl
  | publishes failed unacked parsed addressed remain => exact State.advance_others _ _ different
  | acks settled => exact Function.update_of_ne different _ _
  | rejects handles gives =>
      unfold State.deadLetter
      split
      · exact Function.update_of_ne different _ _
      · rfl

/-- A delivery is received from the queue; from then on it keeps its message and never goes
back to its start. -/
theorem Change.onward (change : Change config consumer worker before command choice after) :
    (before.handling worker).progress = .idle ∧
        (∃ msg ∈ before.queue consumer, after.Handles worker msg .received) ∨
      (after.handling worker).message = (before.handling worker).message ∧
        ((after.handling worker).progress = (before.handling worker).progress ∨
          (after.handling worker).progress.started = true) := by
  have advanced (taken : State Worker) {progress : Progress}
      (same : taken.handling = before.handling) (started : progress.started = true) :
      ((taken.advance worker progress).handling worker).message =
          (before.handling worker).message ∧
        (((taken.advance worker progress).handling worker).progress =
            (before.handling worker).progress ∨
          ((taken.advance worker progress).handling worker).progress.started = true) := by
    rw [State.advance_handling, same]
    exact ⟨rfl, .inr started⟩
  cases change with
  | receives idle queued =>
      refine .inl ⟨idle, _, List.mem_of_getElem? queued, ?_⟩
      simp [State.Handles, State.receive]
  | claims received parsed succeeds taken =>
      exact .inr (advanced (before.setRow _ _ _) rfl rfl)
  | refuses received parsed succeeds refused => exact .inr (advanced before rfl rfl)
  | claimFails received parsed write => exact .inr (advanced _ write.handling rfl)
  | completes handles claimed parsed found =>
      exact .inr (advanced (before.setRow _ _ _) rfl rfl)
  | completionFails handles claimed parsed write =>
      rw [write.handling]
      exact .inr ⟨rfl, .inl rfl⟩
  | marks handles claimed parsed write => exact .inr (advanced _ write.handling rfl)
  | outputs handles outcome =>
      rcases outcome with rfl | ⟨output, rfl⟩
      · exact .inr (advanced _ rfl rfl)
      · exact .inr (advanced (before.record _ _ _) rfl rfl)
  | observes => exact .inr ⟨rfl, .inl rfl⟩
  | publishes failed unacked parsed addressed remain =>
      refine .inr (advanced (before.enqueue _ _) rfl ?_)
      cases choice.writable <;> rfl
  | acks settled => exact .inr ⟨by simp [State.ack], .inl (by simp [State.ack])⟩
  | rejects handles gives =>
      simp only [State.deadLetter, handles.1]
      exact .inr ⟨by simp, .inr (by simp [Progress.started])⟩

theorem Change.message (change : Change config consumer worker before command choice after) :
    (after.handling worker).message = (before.handling worker).message ∨
      ∃ msg ∈ before.queue consumer, (after.handling worker).message = some msg := by
  rcases change.onward with ⟨_, msg, queued, received⟩ | ⟨same, _⟩
  · exact .inr ⟨msg, queued, received.1⟩
  · exact .inl same

theorem Change.published (change : Change config consumer worker before command choice after) :
    after.published = before.published := by
  cases change with
  | receives | claims | refuses | completes | observes | publishes | acks => rfl
  | claimFails received parsed write => exact write.published
  | completionFails handles claimed parsed write => exact write.published
  | marks handles claimed parsed write => exact write.published
  | outputs handles outcome =>
      rcases outcome with rfl | ⟨output, rfl⟩
      · rfl
      · rfl
  | rejects handles gives =>
      unfold State.deadLetter
      split <;> rfl

theorem Change.deadLetters (change : Change config consumer worker before command choice after)
    (queue : Consumer) : before.deadLetters queue ⊆ after.deadLetters queue := by
  cases change with
  | receives | claims | refuses | completes | observes | publishes | acks =>
      exact List.Subset.refl _
  | claimFails received parsed write =>
      intro msg member
      rwa [← write.deadLetters] at member
  | completionFails handles claimed parsed write =>
      intro msg member
      rwa [← write.deadLetters] at member
  | marks handles claimed parsed write =>
      intro msg member
      rwa [← write.deadLetters] at member
  | outputs handles outcome =>
      rcases outcome with rfl | ⟨output, rfl⟩
      · exact List.Subset.refl _
      · exact List.Subset.refl _
  | rejects handles gives =>
      simp only [State.deadLetter, handles.1, State.setHandling_deadLetters]
      by_cases same : queue = consumer
      · subst queue
        simp
      · simp [same]

/-- A row is written only in the name of the worker, for the message it handles. -/
theorem Change.rows (change : Change config consumer worker before command choice after)
    {key : String} {queue : Consumer} {row : ProcessedMessage Worker}
    (found : after.rows queue key = some row) :
    (∃ earlier, before.rows queue key = some earlier ∧ earlier.claimedBy = row.claimedBy) ∨
      queue = consumer ∧ row.claimedBy = worker ∧
        (after.handling worker).progress.started = true ∧
          ∃ msg, (after.handling worker).message = some msg ∧ keyOf config msg = some key := by
  cases change with
  | receives | refuses | observes | publishes | acks => exact .inl ⟨row, found, rfl⟩
  | claims received parsed succeeds taken =>
      rcases before.setRow_found found with kept | ⟨rfl, rfl, rfl⟩
      · exact .inl ⟨row, kept, rfl⟩
      · refine .inr ⟨rfl, (State.claimRow_spec taken).1, ?_⟩
        simp only [State.grant, State.advance_handling]
        exact ⟨rfl, _, received.1, keyOf_of_parsed parsed⟩
  | claimFails received parsed write =>
      rcases write.rows found with kept | ⟨rfl, rfl, taken⟩
      · exact .inl ⟨row, kept, rfl⟩
      · refine .inr ⟨rfl, (State.claimRow_spec taken).1, ?_⟩
        rw [State.advance_handling, write.handling]
        exact ⟨rfl, _, received.1, keyOf_of_parsed parsed⟩
  | completes handles claimed parsed holds =>
      rcases before.setRow_found found with kept | ⟨rfl, rfl, rfl⟩
      · exact .inl ⟨row, kept, rfl⟩
      · exact .inl ⟨_, (State.claimedRow_eq_some.mp holds).1, rfl⟩
  | completionFails handles claimed parsed write =>
      rcases write.rows found with kept | ⟨rfl, rfl, _, earlier, _, _, holds, rfl⟩
      · exact .inl ⟨row, kept, rfl⟩
      · exact .inl ⟨earlier, (State.claimedRow_eq_some.mp holds).1, rfl⟩
  | marks handles claimed parsed write =>
      rcases write.rows found with kept | ⟨rfl, rfl, earlier, _, holds, rfl⟩
      · exact .inl ⟨row, kept, rfl⟩
      · exact .inl ⟨earlier, holds, rfl⟩
  | outputs handles outcome =>
      rcases outcome with rfl | ⟨output, rfl⟩
      · exact .inl ⟨row, found, rfl⟩
      · exact .inl ⟨row, found, rfl⟩
  | rejects handles gives =>
      simp only [State.deadLetter, handles.1, State.setHandling_rows] at found
      exact .inl ⟨row, found, rfl⟩

theorem Change.absent (change : Change config consumer worker before command choice after)
    {key : String} {queue : Consumer} (absent : after.rows queue key = none) :
    before.rows queue key = none := by
  cases change with
  | receives | refuses | observes | publishes | acks => exact absent
  | claims received parsed succeeds taken => exact before.setRow_absent absent
  | claimFails received parsed write => exact write.absent absent
  | completes handles claimed parsed found => exact before.setRow_absent absent
  | completionFails handles claimed parsed write => exact write.absent absent
  | marks handles claimed parsed write => exact write.absent absent
  | outputs handles outcome =>
      rcases outcome with rfl | ⟨output, rfl⟩
      · exact absent
      · exact absent
  | rejects handles gives =>
      rw [State.deadLetter_rows] at absent
      exact absent

/-- A completed row is lost only to a worker that marks its own message as failed. -/
theorem Change.completed (change : Change config consumer worker before command choice after)
    (queue : Consumer) (key : String) (done : before.Completed queue key) :
    after.Completed queue key ∨
      queue = consumer ∧ (∀ failure ∈ choice.failure, failure.executed = true) ∧
        (∃ errorMessage, command = .markFailed key errorMessage) ∧
          ∃ msg progress, before.Handles worker msg progress ∧ progress.claimed? = some key ∧
            keyOf config msg = some key := by
  cases change with
  | receives | refuses | observes | publishes | acks => exact .inl done
  | @claims _ _ message _ row received parsed succeeds taken =>
      have stays : (before.setRow consumer message.messageId row).Completed queue key := by
        refine done.setRow ?_
        rintro rfl rfl
        rw [State.claimRow_of_completed done] at taken
        cases taken
      exact .inl stays
  | claimFails received parsed write =>
      refine .inl (write.completed done ?_)
      rintro row taken rfl rfl
      rw [State.claimRow_of_completed done] at taken
      cases taken
  | @completes _ _ message _ row handles claimed parsed found =>
      have stays : (before.setRow consumer message.messageId
        (row.complete before.now)).Completed queue key := done.setRow fun _ _ => rfl
      exact .inl stays
  | completionFails handles claimed parsed write =>
      refine .inl (write.completed done ?_)
      rintro row ⟨_, _, _, _, _, rfl⟩ - -
      rfl
  | @marks choice msg message progress errorMessage handles claimed parsed taken write =>
      by_cases here : queue = consumer ∧ key = message.messageId
      · rcases here with ⟨rfl, rfl⟩
        cases write with
        | skips => exact .inl done
        | writes row holds =>
            rcases holds with ⟨_, executed, _, _⟩
            exact .inr ⟨rfl, executed, ⟨errorMessage, rfl⟩, msg, progress, handles, claimed,
              keyOf_of_parsed parsed⟩
      · exact .inl (write.completed done fun row _ same equal => absurd ⟨same, equal⟩ here)
  | outputs handles outcome =>
      rcases outcome with rfl | ⟨output, rfl⟩
      · exact .inl done
      · exact .inl done
  | rejects handles gives =>
      simp only [State.deadLetter, handles.1]
      exact .inl done

/-- What enters a queue is the retry of a delivered message that is routed there. -/
theorem Change.queue (change : Change config consumer worker before command choice after)
    {queue : Consumer} {msg : Message} (member : msg ∈ after.queue queue) :
    msg ∈ before.queue queue ∨ ∃ copy attempts, (before.handling worker).message = some copy ∧
      msg = copy.retry attempts ∧ config.topology.routes copy queue = true := by
  cases change with
  | receives idle queued =>
      left
      simp only [State.receive, State.setHandling_queue] at member
      by_cases same : queue = consumer
      · subst queue
        rw [Function.update_self] at member
        exact List.mem_of_mem_eraseIdx member
      · rwa [Function.update_of_ne same] at member
  | claims | refuses | completes | observes | acks => exact .inl member
  | claimFails received parsed write =>
      left
      rw [← write.queue]
      exact member
  | completionFails handles claimed parsed write =>
      left
      rwa [← write.queue]
  | marks handles claimed parsed write =>
      left
      rw [← write.queue]
      exact member
  | outputs handles outcome =>
      rcases outcome with rfl | ⟨output, rfl⟩
      · exact .inl member
      · exact .inl member
  | publishes failed unacked parsed addressed remain =>
      rcases State.mem_enqueue.mp member with kept | ⟨routed, rfl⟩
      · exact .inl kept
      · exact .inr ⟨_, _, failed.1, rfl, routed⟩
  | rejects handles gives =>
      simp only [State.deadLetter, handles.1] at member
      exact .inl member

theorem Change.rejected (change : Change config consumer worker before command choice after)
    {msg : Message} (rejected : after.Handles worker msg .rejected) :
    before.Handles worker msg .rejected ∨ msg ∈ after.deadLetters consumer := by
  cases change with
  | observes => exact .inl rejected
  | completionFails handles claimed parsed write =>
      rw [State.Handles, write.handling] at rejected
      exact .inl rejected
  | acks settled =>
      left
      simpa [State.Handles, State.ack] using rejected
  | rejects handles gives =>
      right
      simp only [State.Handles, State.deadLetter, handles.1] at rejected ⊢
      simp at rejected
      simp [rejected]
  | receives idle queued => simp [State.Handles, State.receive] at rejected
  | claims received parsed succeeds taken => simp [State.Handles, State.grant] at rejected
  | refuses received parsed succeeds refused => simp [State.Handles] at rejected
  | claimFails received parsed write => simp [State.Handles] at rejected
  | completes handles claimed parsed found => simp [State.Handles] at rejected
  | marks handles claimed parsed write => simp [State.Handles] at rejected
  | outputs handles outcome => simp [State.Handles] at rejected
  | publishes failed unacked parsed addressed remain =>
      rcases rejected with ⟨_, rejected⟩
      rw [State.advance_handling] at rejected
      cases written : choice.writable <;> simp [written] at rejected

end Keeps

end BankingBackend.Messaging
