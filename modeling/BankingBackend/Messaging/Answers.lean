import BankingBackend.Messaging.Deliveries

/-! # Requests and their answers

Everything that a request of a worker can do to the tables and the queues, whatever
the worker has done before.
-/

namespace BankingBackend.Messaging

open Foundation

section Answers

variable {Worker : Type} [DecidableEq Worker] {consumers : Worker → Consumer}
  {topology : Topology} {worker : Worker} {choice : Choice} {before after : State Worker}
  {command : Command} {answer : command.Answer}

def Command.output? : Command → Option Output
  | .auditLogCreate data => some (.auditLog data)
  | .sendMail message => some (.email message)
  | _ => none

inductive Performed (consumer : Consumer) (topology : Topology) (worker : Worker)
    (choice : Choice) (before : State Worker) :
    (command : Command) → command.Answer → State Worker → Prop
  | receives {msg : Message} (queued : (before.queue consumer)[choice.position]? = some msg) :
      Performed consumer topology worker choice before .receive msg
        (before.receive worker consumer choice.position msg)
  | claims {messageId eventType : String} {claimTtlMs : ℕ} {row : ProcessedMessage Worker}
      (taken : before.claimRow worker consumer messageId eventType claimTtlMs = some row) :
      Performed consumer topology worker choice before (.claim messageId eventType claimTtlMs)
        (.ok true) (before.grant worker consumer messageId row)
  | unclaimed {messageId eventType : String} {claimTtlMs : ℕ} {answer : Except Thrown Bool}
      {progress : Progress} {taken : State Worker} (refused : answer ≠ .ok true)
      (write : RowWrite consumer messageId (fun row =>
        before.claimRow worker consumer messageId eventType claimTtlMs = some row) before taken) :
      Performed consumer topology worker choice before (.claim messageId eventType claimTtlMs)
        answer (taken.advance worker progress)
  | completes {messageId : String} {row : ProcessedMessage Worker} :
      Performed consumer topology worker choice before (.markCompleted messageId) (.ok (1 : ℕ))
        ((before.setRow consumer messageId (row.complete before.now)).advance worker .settled)
  | uncompleted {messageId : String} {answer : Except Thrown ℕ} {taken : State Worker}
      (write : RowWrite consumer messageId (fun _ => True) before taken) :
      Performed consumer topology worker choice before (.markCompleted messageId) answer taken
  | marks {messageId errorMessage : String} {taken : State Worker}
      (write : RowWrite consumer messageId (fun row => row.status = .failed) before taken) :
      Performed consumer topology worker choice before (.markFailed messageId errorMessage)
        (choice.answer ()) (taken.advance worker .failed)
  | audits {data : AuditLogData} :
      Performed consumer topology worker choice before (.auditLogCreate data) (choice.answer ())
        (before.output worker consumer choice (.auditLog data))
  | mails {message : EmailMessage} :
      Performed consumer topology worker choice before (.sendMail message) (choice.answer ())
        (before.output worker consumer choice (.email message))
  | finds {id : String} :
      Performed consumer topology worker choice before (.customerFindUnique id)
        (choice.answer choice.customer) before
  | publishes {msg : Message} {answer : Except Thrown Bool} {progress : Progress} :
      Performed consumer topology worker choice before (.publish msg) answer
        ((before.enqueue topology msg).advance worker progress)
  | unpublished {msg : Message} {answer : Except Thrown Bool} :
      Performed consumer topology worker choice before (.publish msg) answer before
  | acks {answer : Except Thrown Unit} :
      Performed consumer topology worker choice before .ack answer (before.ack worker)
  | unacked {answer : Except Thrown Unit} :
      Performed consumer topology worker choice before .ack answer before
  | requeues {answer : Except Thrown Unit} :
      Performed consumer topology worker choice before (.nack true) answer
        (before.requeue worker consumer)
  | deadLetters {answer : Except Thrown Unit} :
      Performed consumer topology worker choice before (.nack false) answer
        (before.deadLetter worker consumer)
  | unrejected {requeue : Bool} {answer : Except Thrown Unit} :
      Performed consumer topology worker choice before (.nack requeue) answer before

omit [DecidableEq Worker] in
theorem onChannel_eq {α : Type} {value : α} {done : State Worker} {answer : Except Thrown α}
    (performed : before.onChannel worker choice value done = some (answer, after)) :
    after = before ∨ after = done := by
  unfold State.onChannel at performed
  split at performed
  · cases performed
    exact .inl rfl
  · split at performed
    · cases performed
      exact .inr rfl
    · cases performed

theorem performed_claim (before : State Worker) (worker : Worker) (consumer : Consumer)
    (topology : Topology) (choice : Choice) (messageId eventType : String) (claimTtlMs : ℕ) :
    Performed consumer topology worker choice before (.claim messageId eventType claimTtlMs)
      (before.claim worker consumer choice messageId eventType claimTtlMs).1
      (before.claim worker consumer choice messageId eventType claimTtlMs).2 := by
  unfold State.claim
  split
  · rename_i row taken succeeds
    exact .claims taken
  · exact .unclaimed (by simp) .skips
  · rename_i row failure taken fails
    split
    · exact .unclaimed (by simp) (.writes row taken)
    · exact .unclaimed (by simp) .skips
  · exact .unclaimed (by simp) .skips

theorem performed_markCompleted (before : State Worker) (worker : Worker) (consumer : Consumer)
    (topology : Topology) (choice : Choice) (messageId : String) :
    Performed consumer topology worker choice before (.markCompleted messageId)
      (before.markCompleted worker consumer choice messageId).1
      (before.markCompleted worker consumer choice messageId).2 := by
  unfold State.markCompleted
  split
  · exact .completes
  · exact .uncompleted .skips
  · split
    · exact .uncompleted (.writes _ trivial)
    · exact .uncompleted .skips
  · exact .uncompleted .skips

theorem performed_markFailed (before : State Worker) (worker : Worker) (consumer : Consumer)
    (topology : Topology) (choice : Choice) (messageId errorMessage : String) :
    Performed consumer topology worker choice before (.markFailed messageId errorMessage)
      (choice.answer ()) (before.markFailed worker consumer choice messageId errorMessage) := by
  apply Performed.marks
  rcases choice.after_cases before (before.failRow consumer messageId errorMessage) with
    same | ⟨same, _⟩
  · rw [same]
    exact .skips
  · rw [same]
    rcases before.failRow_cases consumer messageId errorMessage with same | ⟨row, _, same⟩
    · rw [same]
      exact .skips
    · rw [same]
      exact .writes _ rfl

theorem performed_of_perform
    (performed : State.perform consumers topology worker command choice before =
      some (answer, after)) :
    Performed (consumers worker) topology worker choice before command answer after := by
  have alive := alive_of_performed performed
  simp only [State.perform, alive, Bool.false_eq_true, if_false] at performed
  cases command with
  | receive =>
      rcases Option.map_eq_some_iff.mp performed with ⟨msg, queued, same⟩
      cases same
      exact .receives queued
  | claim messageId eventType claimTtlMs =>
      have result := Option.some.inj performed
      have done := performed_claim before worker (consumers worker) topology choice messageId
        eventType claimTtlMs
      rw [result] at done
      exact done
  | markCompleted messageId =>
      have result := Option.some.inj performed
      have done := performed_markCompleted before worker (consumers worker) topology choice
        messageId
      rw [result] at done
      exact done
  | markFailed messageId errorMessage =>
      cases performed
      exact performed_markFailed _ _ _ _ _ _ _
  | auditLogCreate data =>
      cases performed
      exact .audits
  | customerFindUnique id =>
      cases performed
      exact .finds
  | sendMail message =>
      cases performed
      exact .mails
  | publish msg =>
      rcases onChannel_eq performed with rfl | rfl
      · exact .unpublished
      · exact .publishes
  | ack =>
      rcases onChannel_eq performed with rfl | rfl
      · exact .unacked
      · exact .acks
  | nack requeue =>
      rcases onChannel_eq performed with rfl | rfl
      · exact .unrejected
      · cases requeue with
        | true => exact .requeues
        | false => exact .deadLetters

/-! ## What a request keeps -/

variable {consumer : Consumer}

theorem State.output_cases (before : State Worker) (worker : Worker) (consumer : Consumer)
    (choice : Choice) (output : Output) :
    before.output worker consumer choice output =
        before.advance worker (before.handling worker).progress.afterEffect ∨
      before.output worker consumer choice output =
        (before.record worker consumer output).advance worker
          (before.handling worker).progress.afterEffect := by
  unfold State.output
  rcases choice.after_cases before (before.record worker consumer output) with same | ⟨same, _⟩
  · exact .inl (by rw [same])
  · exact .inr (by rw [same])

/-- A worker changes only its own delivery. -/
theorem Performed.others {other : Worker} (different : other ≠ worker)
    (performed : Performed consumer topology worker choice before command answer after) :
    after.handling other = before.handling other := by
  cases performed with
  | receives => exact Function.update_of_ne different _ _
  | claims => exact Function.update_of_ne different _ _
  | unclaimed refused write => rw [State.advance_others _ _ different, write.handling]
  | completes => exact Function.update_of_ne different _ _
  | uncompleted write => rw [write.handling]
  | marks write => rw [State.advance_others _ _ different, write.handling]
  | audits =>
      rcases before.output_cases worker consumer choice _ with same | same
      · rw [same, State.advance_others _ _ different]
      · rw [same, State.advance_others _ _ different]
        rfl
  | mails =>
      rcases before.output_cases worker consumer choice _ with same | same
      · rw [same, State.advance_others _ _ different]
      · rw [same, State.advance_others _ _ different]
        rfl
  | finds | unpublished | unacked | unrejected => rfl
  | publishes => exact Function.update_of_ne different _ _
  | acks => exact Function.update_of_ne different _ _
  | requeues =>
      rcases before.requeue_cases worker consumer with same | ⟨message, _, _, same⟩
      · rw [same]
      · rw [same]
        exact Function.update_of_ne different _ _
  | deadLetters =>
      unfold State.deadLetter
      split
      · exact Function.update_of_ne different _ _
      · rfl

theorem Performed.message (later : command ≠ .receive)
    (performed : Performed consumer topology worker choice before command answer after) :
    (after.handling worker).message = (before.handling worker).message := by
  cases performed with
  | receives => exact absurd rfl later
  | claims => simp [State.grant]
  | unclaimed refused write => rw [State.advance_handling, write.handling]
  | completes => simp
  | uncompleted write => rw [write.handling]
  | marks write => rw [State.advance_handling, write.handling]
  | audits =>
      rcases before.output_cases worker consumer choice _ with same | same
      · rw [same, State.advance_handling]
      · rw [same, State.advance_handling]
        rfl
  | mails =>
      rcases before.output_cases worker consumer choice _ with same | same
      · rw [same, State.advance_handling]
      · rw [same, State.advance_handling]
        rfl
  | finds | unpublished | unacked | unrejected => rfl
  | publishes =>
      rw [State.advance_handling]
      rfl
  | acks => simp [State.ack]
  | requeues =>
      rcases before.requeue_cases worker consumer with same | ⟨message, _, _, same⟩
      · rw [same]
      · rw [same]
        simp
  | deadLetters =>
      unfold State.deadLetter
      split
      · simp
      · rfl

/-- A request adds no output but its own, under the message that the worker has claimed. -/
theorem Performed.effects
    (performed : Performed consumer topology worker choice before command answer after) :
    after.effects = before.effects ∨ ∃ output, command.output? = some output ∧
      after.effects = ⟨consumer, (before.handling worker).progress.claimed?, output⟩ ::
        before.effects := by
  cases performed with
  | unclaimed refused write => exact .inl write.effects
  | uncompleted write => exact .inl write.effects
  | marks write => exact .inl write.effects
  | audits =>
      rcases before.output_cases worker consumer choice _ with same | same
      · rw [same]
        exact .inl rfl
      · rw [same]
        exact .inr ⟨_, rfl, rfl⟩
  | mails =>
      rcases before.output_cases worker consumer choice _ with same | same
      · rw [same]
        exact .inl rfl
      · rw [same]
        exact .inr ⟨_, rfl, rfl⟩
  | requeues => exact .inl State.requeue_effects
  | deadLetters =>
      left
      unfold State.deadLetter
      split <;> rfl
  | _ => exact .inl rfl

/-- Only `markCompleted` completes a message. -/
theorem Performed.completed {queue : Consumer} {messageId : String}
    (performed : Performed consumer topology worker choice before command answer after)
    (completed : after.Completed queue messageId) :
    before.Completed queue messageId ∨ queue = consumer ∧ command = .markCompleted messageId := by
  have written {taken : State Worker} {key : String} (row : ProcessedMessage Worker)
      (same : taken.rows = (before.setRow consumer key row).rows)
      (done : taken.Completed queue messageId) :
      before.Completed queue messageId ∨
        queue = consumer ∧ messageId = key ∧ row.status = .completed := by
    rcases done with ⟨found, listed, status⟩
    rw [same] at listed
    rcases before.setRow_found listed with kept | ⟨rfl, rfl, rfl⟩
    · exact .inl ⟨found, kept, status⟩
    · exact .inr ⟨rfl, rfl, status⟩
  cases performed with
  | @claims key eventType claimTtlMs row taken =>
      rcases written row rfl completed with kept | ⟨_, _, status⟩
      · exact .inl kept
      · rw [(State.claimRow_spec taken).2] at status
        cases status
  | unclaimed refused write =>
      cases write with
      | skips => exact .inl completed
      | writes row taken =>
          rcases written row rfl completed with kept | ⟨_, _, status⟩
          · exact .inl kept
          · rw [(State.claimRow_spec taken).2] at status
            cases status
  | completes =>
      rcases written _ rfl completed with kept | ⟨rfl, rfl, _⟩
      · exact .inl kept
      · exact .inr ⟨rfl, rfl⟩
  | uncompleted write =>
      cases write with
      | skips => exact .inl completed
      | writes row _ =>
          rcases written row rfl completed with kept | ⟨rfl, rfl, _⟩
          · exact .inl kept
          · exact .inr ⟨rfl, rfl⟩
  | marks write =>
      cases write with
      | skips => exact .inl completed
      | writes row failed =>
          rcases written row rfl completed with kept | ⟨_, _, status⟩
          · exact .inl kept
          · rw [failed] at status
            cases status
  | audits =>
      rcases before.output_cases worker consumer choice _ with same | same
      · rw [same] at completed
        exact .inl completed
      · rw [same] at completed
        exact .inl completed
  | mails =>
      rcases before.output_cases worker consumer choice _ with same | same
      · rw [same] at completed
        exact .inl completed
      · rw [same] at completed
        exact .inl completed
  | requeues =>
      rcases completed with ⟨row, found, status⟩
      rw [State.requeue_rows] at found
      exact .inl ⟨row, found, status⟩
  | deadLetters =>
      rcases completed with ⟨row, found, status⟩
      rw [State.deadLetter_rows] at found
      exact .inl ⟨row, found, status⟩
  | _ => exact .inl completed

end Answers

end BankingBackend.Messaging
