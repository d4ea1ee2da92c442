import BankingBackend.Messaging.Handling

/-! # Custody of published messages

Where every message that was published to the queue of a consumer can be found,
while claims are refused only in favour of a delivery that is still handled.
-/

namespace BankingBackend.Messaging

open Foundation

/-! ## The same message -/

section Same

variable {config : ConsumerConfig} {msg copy : Message} {messageId : String}

/-- Retries keep the `messageId`. A message without one is never retried. -/
def SameMessage (config : ConsumerConfig) (msg copy : Message) : Prop :=
  match keyOf config msg with
  | some key => keyOf config copy = some key
  | none => copy = msg

theorem SameMessage.refl (msg : Message) : SameMessage config msg msg := by
  unfold SameMessage
  split
  · assumption
  · rfl

theorem SameMessage.key (same : SameMessage config msg copy) :
    keyOf config msg = keyOf config copy := by
  unfold SameMessage at same
  split at same
  · rename_i key named
    rw [named, same]
  · rw [same]

theorem SameMessage.of_key (named : keyOf config msg = some messageId)
    (copied : keyOf config copy = some messageId) : SameMessage config msg copy := by
  simp only [SameMessage, named, copied]

end Same

/-! ## Custody -/

section Custody

variable {Worker : Type}

/-- The delivery is unacknowledged and still to be completed, retried or rejected. -/
def Handling.Busy (handling : Handling) : Prop :=
  handling.unacked = true ∧ (handling.progress.pending = true ∨ handling.progress = .returned)

inductive Kept (deployment : Deployment Worker) (msg : Message) (consumer : Consumer)
    (state : State Worker) : Prop
  | completed (messageId : String) (named : keyOf deployment.config msg = some messageId)
      (completed : state.Completed consumer messageId)
  | queued (copy : Message) (queued : copy ∈ state.queue consumer)
      (same : SameMessage deployment.config msg copy)
  | deadLettered (copy : Message) (deadLettered : copy ∈ state.deadLetters consumer)
      (same : SameMessage deployment.config msg copy)
  | busy (worker : Worker) (copy : Message) (mine : deployment.consumers worker = consumer)
      (holds : (state.handling worker).message = some copy) (busy : (state.handling worker).Busy)
      (same : SameMessage deployment.config msg copy)

variable [DecidableEq Worker] {deployment : Deployment Worker} {msg : Message}
  {consumer : Consumer} {worker : Worker} {before after : State Worker}

/-! ### Steps of a worker -/

omit [DecidableEq Worker] in
/-- A step of one worker leaves what the others answer for; the rest is asked for. -/
theorem Kept.change (worker : Worker) (kept : Kept deployment msg consumer before)
    (others : ∀ other, other ≠ worker → after.handling other = before.handling other)
    (deadLetters : before.deadLetters consumer ⊆ after.deadLetters consumer)
    (completed : ∀ messageId, keyOf deployment.config msg = some messageId →
      before.Completed consumer messageId → Kept deployment msg consumer after)
    (queue : ∀ copy ∈ before.queue consumer, SameMessage deployment.config msg copy →
      Kept deployment msg consumer after)
    (own : ∀ copy, deployment.consumers worker = consumer →
      (before.handling worker).message = some copy → (before.handling worker).Busy →
      SameMessage deployment.config msg copy → Kept deployment msg consumer after) :
    Kept deployment msg consumer after := by
  cases kept with
  | completed messageId named done => exact completed messageId named done
  | queued copy queued same => exact queue copy queued same
  | deadLettered copy deadLettered same => exact .deadLettered copy (deadLetters deadLettered) same
  | busy other copy mine holds busy same =>
      by_cases equal : other = worker
      · subst other
        exact own copy mine holds busy same
      · rw [← others other equal] at holds busy
        exact .busy other copy mine holds busy same

omit [DecidableEq Worker] in
theorem Kept.stays (worker : Worker) (kept : Kept deployment msg consumer before)
    (others : ∀ other, other ≠ worker → after.handling other = before.handling other)
    (deadLetters : before.deadLetters consumer ⊆ after.deadLetters consumer)
    (completed : ∀ messageId, before.Completed consumer messageId →
      after.Completed consumer messageId)
    (queue : before.queue consumer ⊆ after.queue consumer)
    (message : (after.handling worker).message = (before.handling worker).message)
    (busy : (before.handling worker).Busy → (after.handling worker).Busy) :
    Kept deployment msg consumer after :=
  kept.change worker others deadLetters (fun messageId named done => .completed messageId named
      (completed messageId done)) (fun copy queued same => .queued copy (queue queued) same)
    fun copy mine holds before same => .busy worker copy mine (message.trans holds) (busy before) same

theorem Kept.advances (taken : State Worker) (progress : Progress)
    (kept : Kept deployment msg consumer before) (handling : taken.handling = before.handling)
    (queue : taken.queue = before.queue) (deadLetters : taken.deadLetters = before.deadLetters)
    (completed : ∀ messageId, before.Completed consumer messageId →
      taken.Completed consumer messageId) (pending : progress.pending = true) :
    Kept deployment msg consumer (taken.advance worker progress) := by
  refine kept.stays worker (fun other different => ?_) ?_ completed ?_ ?_ ?_
  · rw [State.advance_others _ _ different, handling]
  · rw [← deadLetters]
    exact List.Subset.refl _
  · rw [← queue]
    exact List.Subset.refl _
  · rw [State.advance_handling, handling]
  · intro busy
    rw [State.advance_handling, handling]
    exact ⟨busy.1, .inl pending⟩

/-- What every delivery and every row of a claim tells about the message. -/
structure Custody (deployment : Deployment Worker) (state : State Worker) : Prop where
  routed : ∀ consumer, ∀ msg ∈ state.queue consumer,
    deployment.config.topology.routes msg consumer = true
  delivered : ∀ worker msg, (state.handling worker).message = some msg →
    deployment.config.topology.routes msg (deployment.consumers worker) = true
  claimed : ∀ consumer messageId row, state.rows consumer messageId = some row →
    deployment.consumers row.claimedBy = consumer ∧
      (state.handling row.claimedBy).progress.started = true ∧
      ∃ msg, (state.handling row.claimedBy).message = some msg ∧
        keyOf deployment.config msg = some messageId
  rejected : ∀ worker msg, state.Handles worker msg .rejected →
    msg ∈ state.deadLetters (deployment.consumers worker)
  kept : ∀ msg ∈ state.published, ∀ consumer,
    deployment.config.topology.routes msg consumer = true → Kept deployment msg consumer state

/-- The worker whose claim took the row last still has to complete, retry or reject its
delivery, or has rejected it. -/
def ProcessedMessage.Held (row : ProcessedMessage Worker) (state : State Worker) : Prop :=
  (state.handling row.claimedBy).Busy ∨ (state.handling row.claimedBy).progress = .rejected

/-- A claim is refused only for a completed message, or while its row is held. -/
def RefusalsHeld (deployment : Deployment Worker) (worker : Worker) (command : Command)
    (choice : Choice) (state : State Worker) : Prop :=
  ∀ messageId eventType claimTtlMs, command = .claim messageId eventType claimTtlMs →
    choice.failure = none → ∀ row, state.rows (deployment.consumers worker) messageId = some row →
      row.reclaimable state.now claimTtlMs = false → row.status = .completed ∨ row.Held state

/-- A completed message is marked as failed only by a worker that still has its delivery. -/
def MarksAnswered (deployment : Deployment Worker) (worker : Worker) (command : Command)
    (choice : Choice) (state : State Worker) : Prop :=
  ∀ messageId errorMessage, command = .markFailed messageId errorMessage →
    (∀ failure ∈ choice.failure, failure.executed = true) →
      state.Completed (deployment.consumers worker) messageId →
        (state.handling worker).unacked = true

section Acts

variable {command : Command} {choice : Choice} (custody : Custody deployment before)
include custody

section Change

variable (change : Change deployment.config (deployment.consumers worker) worker before command
  choice after)
include change

theorem Custody.routed_acts (msg : Message) (queued : msg ∈ after.queue consumer) :
    deployment.config.topology.routes msg consumer = true := by
  rcases change.queue queued with kept | ⟨copy, attempts, holds, rfl, routed⟩
  · exact custody.routed consumer msg kept
  · rwa [routes_retry]

theorem Custody.delivered_acts (other : Worker)
    (holds : (after.handling other).message = some msg) :
    deployment.config.topology.routes msg (deployment.consumers other) = true := by
  by_cases same : other = worker
  · subst other
    rcases change.message with kept | ⟨received, queued, handed⟩
    · exact custody.delivered worker msg (kept ▸ holds)
    · rw [handed] at holds
      cases holds
      exact custody.routed _ _ queued
  · rw [change.others same] at holds
    exact custody.delivered other msg holds

theorem Custody.claimed_acts {messageId : String} {row : ProcessedMessage Worker}
    (found : after.rows consumer messageId = some row) :
    deployment.consumers row.claimedBy = consumer ∧
      (after.handling row.claimedBy).progress.started = true ∧
      ∃ msg, (after.handling row.claimedBy).message = some msg ∧
        keyOf deployment.config msg = some messageId := by
  rcases change.rows found with ⟨earlier, present, same⟩ | ⟨rfl, rfl, started, claimant⟩
  · have claimed := custody.claimed consumer messageId earlier present
    rw [same] at claimed
    rcases claimed with ⟨mine, started, copy, holds, named⟩
    refine ⟨mine, ?_⟩
    by_cases own : row.claimedBy = worker
    · rw [own] at started holds ⊢
      rcases change.onward with ⟨idle, _⟩ | ⟨kept, advanced⟩
      · rw [idle] at started
        cases started
      · refine ⟨?_, copy, kept.trans holds, named⟩
        rcases advanced with progress | progress
        · rwa [progress]
        · exact progress
    · rw [change.others own]
      exact ⟨started, copy, holds, named⟩
  · exact ⟨rfl, started, claimant⟩

theorem Custody.rejected_acts (other : Worker) (rejected : after.Handles other msg .rejected) :
    msg ∈ after.deadLetters (deployment.consumers other) := by
  by_cases same : other = worker
  · subst other
    rcases change.rejected rejected with earlier | deadLettered
    · exact change.deadLetters _ (custody.rejected worker msg earlier)
    · exact deadLettered
  · rw [State.Handles, change.others same] at rejected
    exact change.deadLetters _ (custody.rejected other msg rejected)

end Change

/-- The worker settles a message that its own claim was refused for. -/
theorem Custody.kept_refuses {message : ParsedMessage} {copy : Message} {eventType : String}
    (received : before.Handles worker copy .received)
    (parsed : parseMessage deployment.config copy = .ok message)
    (refused : before.claimRow worker (deployment.consumers worker) message.messageId eventType
      deployment.config.claimTtlMs = none)
    (held : ∀ row, before.rows (deployment.consumers worker) message.messageId = some row →
      row.reclaimable before.now deployment.config.claimTtlMs = false →
        row.status = .completed ∨ row.Held before)
    (same : SameMessage deployment.config msg copy) :
    Kept deployment msg (deployment.consumers worker) (before.advance worker .settled) := by
  have named : keyOf deployment.config msg = some message.messageId :=
    same.key.trans (keyOf_of_parsed parsed)
  obtain ⟨row, found, kept⟩ : ∃ row,
      before.rows (deployment.consumers worker) message.messageId = some row ∧
        row.reclaimable before.now deployment.config.claimTtlMs = false := by
    unfold State.claimRow at refused
    split at refused
    · cases refused
    · rename_i row found
      split at refused
      · cases refused
      · rename_i unclaimable
        exact ⟨row, found, by simpa using unclaimable⟩
  rcases held row found kept with completed | held
  · exact .completed message.messageId named ⟨row, found, completed⟩
  · rcases custody.claimed _ _ row found with ⟨mine, started, other, holds, key⟩
    have different : row.claimedBy ≠ worker := by
      intro equal
      rw [equal, received.2] at started
      cases started
    have alike : SameMessage deployment.config msg other := .of_key named key
    rcases held with busy | rejected
    · refine .busy row.claimedBy other mine ?_ ?_ alike
      · rwa [State.advance_others _ _ different]
      · rwa [State.advance_others _ _ different]
    · have deadLettered := custody.rejected row.claimedBy other ⟨holds, rejected⟩
      rw [mine] at deadLettered
      exact .deadLettered other deadLettered alike

/-- Whoever answered for a message, somebody does after the step. -/
theorem Custody.kept_acts
    (change : Change deployment.config (deployment.consumers worker) worker before command choice
      after)
    (refusals : RefusalsHeld deployment worker command choice before)
    (marks : MarksAnswered deployment worker command choice before)
    (kept : Kept deployment msg consumer before) :
    Kept deployment msg consumer after := by
  have others : ∀ other, other ≠ worker → after.handling other = before.handling other :=
    fun _ different => change.others different
  have deadLetters := change.deadLetters consumer
  have lasts := change.completed consumer
  cases change with
  | observes => exact kept
  | @receives _ received idle queued =>
      refine kept.change worker others deadLetters (fun _ named done => .completed _ named done) ?_ ?_
      · intro copy member same
        by_cases mine : deployment.consumers worker = consumer
        · subst mine
          rcases List.mem_iff_getElem?.mp member with ⟨position, found⟩
          by_cases taken : position = choice.position
          · rw [taken, queued] at found
            have handed : received = copy := Option.some.inj found
            exact .busy worker copy rfl (by simp [State.receive, handed])
              (by simp [State.receive, Handling.Busy, Progress.pending]) same
          · refine .queued copy ?_ same
            simp only [State.receive, State.setHandling_queue, Function.update_self]
            exact List.mem_eraseIdx_iff_getElem?.mpr ⟨position, taken, found⟩
        · refine .queued copy ?_ same
          simpa [State.receive, Ne.symm mine] using member
      · rintro copy - - ⟨_, busy⟩ -
        rw [idle] at busy
        simp [Progress.pending] at busy
  | @claims _ _ message _ row received parsed succeeds taken =>
      refine kept.advances
        { before.setRow (deployment.consumers worker) message.messageId row with
          dispatches := (deployment.consumers worker, message.messageId) :: before.dispatches }
        (.dispatching message.messageId) rfl rfl rfl (fun messageId done => ?_) rfl
      refine (lasts messageId done).resolve_right ?_
      rintro ⟨_, _, ⟨_, marks⟩, _⟩
      cases marks
  | refuses received parsed succeeds refused =>
      refine kept.change worker others deadLetters (fun _ named done => .completed _ named done)
        (fun copy member same => .queued copy member same) fun copy mine holds busy same => ?_
      subst mine
      rw [received.1] at holds
      cases holds
      exact custody.kept_refuses received parsed refused
        (refusals _ _ _ rfl succeeds) same
  | claimFails received parsed write =>
      refine kept.advances _ .failed write.handling write.queue write.deadLetters
        (fun messageId done => ?_) rfl
      refine (lasts messageId done).resolve_right ?_
      rintro ⟨_, _, ⟨_, marks⟩, _⟩
      cases marks
  | @completes _ own message _ row handles claimed parsed found =>
      have stays {messageId : String} (done : before.Completed consumer messageId) :
          (before.setRow (deployment.consumers worker) message.messageId
            (row.complete before.now)).Completed consumer messageId :=
        done.setRow fun _ _ => rfl
      refine kept.change worker others deadLetters
        (fun _ named done => .completed _ named (stays done))
        (fun copy member same => .queued copy member same) fun copy mine holds busy same => ?_
      subst mine
      rw [handles.1] at holds
      cases holds
      refine .completed message.messageId (same.key.trans (keyOf_of_parsed parsed)) ?_
      exact ⟨row.complete before.now, by simp [State.advance, State.setRow_rows], rfl⟩
  | completionFails handles claimed parsed write =>
      refine kept.stays worker others deadLetters (fun messageId done => ?_) ?_ ?_ ?_
      · refine (lasts messageId done).resolve_right ?_
        rintro ⟨_, _, ⟨_, marks⟩, _⟩
        cases marks
      · rw [write.queue]
        exact List.Subset.refl _
      · rw [write.handling]
      · rw [write.handling]
        exact id
  | @marks _ own message progress errorMessage handles claimed parsed taken write =>
      have busy {copy : Message} (holds : (before.handling worker).message = some copy)
          (unacked : (before.handling worker).unacked = true)
          (mine : deployment.consumers worker = consumer)
          (same : SameMessage deployment.config msg copy) :
          Kept deployment msg consumer (taken.advance worker .failed) := by
        refine .busy worker copy mine ?_ ?_ same
        · rwa [State.advance_handling, write.handling]
        · rw [State.advance_handling, write.handling]
          exact ⟨unacked, .inl rfl⟩
      refine kept.change worker others deadLetters (fun messageId named done => ?_)
        (fun copy member same => .queued copy ?_ same)
        fun copy mine holds working same => busy holds working.1 mine same
      · rcases lasts messageId done with stays | ⟨mine, executed, ⟨_, command⟩, copy, _, holds, _, key⟩
        · exact .completed messageId named stays
        · cases command
          subst mine
          exact busy holds.1 (marks _ _ rfl executed done) rfl (.of_key named key)
      · rw [← write.queue] at member
        exact member
  | @outputs _ _ _ messageId handles taken outcome =>
      rcases outcome with rfl | ⟨output, rfl⟩
      · exact kept.advances _ (.dispatched messageId) rfl rfl rfl (fun _ => id) rfl
      · exact kept.advances _ (.dispatched messageId) rfl rfl rfl (fun _ => id) rfl
  | @publishes _ own message failed unacked parsed addressed remain =>
      refine kept.change worker others deadLetters (fun _ named done => .completed _ named done)
        (fun copy member same => .queued copy (State.mem_enqueue.mpr (.inl member)) same)
        fun copy mine holds busy same => ?_
      subst mine
      have routed := custody.delivered worker copy holds
      rw [failed.1] at holds
      cases holds
      have key := keyOf_of_parsed parsed
      exact .queued _ (State.mem_enqueue.mpr (.inr ⟨routed, rfl⟩))
        (.of_key (same.key.trans key) ((keyOf_retry _).trans key))
  | acks settled =>
      refine kept.change worker others deadLetters (fun _ named done => .completed _ named done)
        (fun copy member same => .queued copy member same) ?_
      rintro copy - - ⟨_, busy⟩ -
      rw [settled] at busy
      simp [Progress.pending] at busy
  | @rejects _ own _ handles gives =>
      refine kept.change worker others deadLetters (fun messageId named done => ?_)
        (fun copy member same => ?_) fun copy mine holds busy same => ?_
      · refine .completed messageId named ?_
        rwa [State.Completed, State.deadLetter_rows]
      · refine .queued copy ?_ same
        rwa [State.deadLetter_queue]
      · subst mine
        rw [handles.1] at holds
        cases holds
        exact .deadLettered own (by simp [State.deadLetter, handles.1]) same

end Acts

/-! ### Steps of the environment -/

omit [DecidableEq Worker] in
theorem Kept.queues (kept : Kept deployment msg consumer before) (rows : after.rows = before.rows)
    (deadLetters : after.deadLetters = before.deadLetters)
    (queue : before.queue consumer ⊆ after.queue consumer)
    (message : ∀ worker, (after.handling worker).message = (before.handling worker).message)
    (busy : ∀ worker, (before.handling worker).Busy → (after.handling worker).Busy) :
    Kept deployment msg consumer after := by
  cases kept with
  | completed messageId named done =>
      refine .completed messageId named ?_
      rwa [State.Completed, rows]
  | queued copy queued same => exact .queued copy (queue queued) same
  | deadLettered copy deadLettered same =>
      refine .deadLettered copy ?_ same
      rwa [deadLetters]
  | busy worker copy mine holds working same =>
      exact .busy worker copy mine ((message worker).trans holds) (busy worker working) same

omit [DecidableEq Worker] in
theorem Custody.unmoved (custody : Custody deployment before) (queue : after.queue = before.queue)
    (rows : after.rows = before.rows) (deadLetters : after.deadLetters = before.deadLetters)
    (published : after.published = before.published)
    (message : ∀ worker, (after.handling worker).message = (before.handling worker).message)
    (unacked : ∀ worker, (after.handling worker).unacked = (before.handling worker).unacked)
    (progress : ∀ worker, (after.handling worker).progress = (before.handling worker).progress) :
    Custody deployment after where
  routed := by
    rw [queue]
    exact custody.routed
  delivered worker msg holds := custody.delivered worker msg ((message worker).symm.trans holds)
  claimed consumer messageId row found := by
    rw [rows] at found
    rw [message, progress]
    exact custody.claimed consumer messageId row found
  rejected worker msg rejected := by
    rw [deadLetters]
    rw [State.Handles, message, progress] at rejected
    exact custody.rejected worker msg rejected
  kept msg member consumer routed := by
    rw [published] at member
    refine (custody.kept msg member consumer routed).queues rows deadLetters ?_ message ?_
    · rw [queue]
      exact List.Subset.refl _
    · intro worker busy
      rwa [Handling.Busy, unacked, progress]

omit [DecidableEq Worker] in
theorem Custody.publishes (custody : Custody deployment before) (msg : Message) :
    Custody deployment
      { before.enqueue deployment.config.topology msg with published := msg :: before.published } where
  routed consumer copy queued := by
    rcases State.mem_enqueue.mp queued with earlier | ⟨routed, rfl⟩
    · exact custody.routed consumer copy earlier
    · exact routed
  delivered := custody.delivered
  claimed := custody.claimed
  rejected := custody.rejected
  kept other member consumer routed := by
    rcases List.mem_cons.mp member with rfl | earlier
    · exact .queued other (State.mem_enqueue.mpr (.inr ⟨routed, rfl⟩)) (.refl other)
    · exact (custody.kept other earlier consumer routed).queues rfl rfl
        (fun copy queued => State.mem_enqueue.mpr (.inl queued)) (fun _ => rfl) fun _ => id

theorem Custody.requeues (custody : Custody deployment before) (worker : Worker) :
    Custody deployment (before.requeue worker (deployment.consumers worker)) := by
  have rely (other : Worker) : Rely other before _ := .requeue worker (deployment.consumers worker)
  rcases before.requeue_cases worker (deployment.consumers worker) with
    same | ⟨message, holds, unacked, result⟩
  · rw [same]
    exact custody
  · constructor
    · intro consumer msg queued
      rw [result] at queued
      by_cases mine : consumer = deployment.consumers worker
      · subst mine
        simp only [State.setHandling_queue, Function.update_self, List.mem_cons] at queued
        rcases queued with rfl | earlier
        · exact custody.delivered worker msg holds
        · exact custody.routed _ msg earlier
      · simp only [State.setHandling_queue, Function.update_of_ne mine] at queued
        exact custody.routed consumer msg queued
    · intro other msg handed
      exact custody.delivered other msg ((rely other).message.symm.trans handed)
    · intro consumer messageId row found
      rw [(rely row.claimedBy).message, (rely row.claimedBy).progress]
      rw [result] at found
      exact custody.claimed consumer messageId row found
    · intro other msg rejected
      have earlier : before.Handles other msg .rejected :=
        ⟨(rely other).message.symm.trans rejected.1, (rely other).progress.symm.trans rejected.2⟩
      rw [result]
      exact custody.rejected other msg earlier
    · intro msg member consumer routed
      rw [result] at member ⊢
      refine (custody.kept msg member consumer routed).change worker
        (fun other different => Function.update_of_ne different _ _) (List.Subset.refl _)
        (fun messageId named done => .completed messageId named done)
        (fun copy queued same => .queued copy ?_ same) fun copy mine handed busy same => ?_
      · by_cases mine : consumer = deployment.consumers worker
        · subst mine
          simp [queued]
        · simpa [mine] using queued
      · subst mine
        rw [holds] at handed
        cases handed
        exact .queued message (by simp) same

theorem Custody.environment (custody : Custody deployment before) {event : Occurrence Worker}
    (happened : State.environment deployment.consumers deployment.config.topology event before =
      some after) : Custody deployment after := by
  cases event with
  | publish message =>
      cases happened
      exact custody.publishes message
  | disconnect worker =>
      cases happened
      exact custody.requeues worker
  | crash worker =>
      cases happened
      refine (custody.requeues worker).unmoved rfl rfl rfl rfl ?_ ?_ ?_
      all_goals
        intro other
        by_cases same : other = worker
        · subst other
          simp [State.crash]
        · simp [State.crash, same]
  | tick now =>
      simp only [State.environment, Option.ite_none_right_eq_some, Option.some.injEq] at happened
      rcases happened with ⟨_, rfl⟩
      exact custody.unmoved rfl rfl rfl rfl (fun _ => rfl) (fun _ => rfl) fun _ => rfl

end Custody

end BankingBackend.Messaging
