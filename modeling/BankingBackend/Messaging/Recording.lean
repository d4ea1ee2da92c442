import BankingBackend.Messaging.Provenance

/-! # Completed messages have been recorded

`RabbitMqConsumer` completes a message only after the statement that writes its audit
row has succeeded, so each completed message has its row.
-/

namespace BankingBackend.Messaging

open Foundation
open Program (Issues)

/-! ## The requests of a worker -/

/-- The message that a worker has claimed, and whether its audit row is written. -/
structure Recording where
  claimed : Option String := none
  written : Bool := false

def Recording.after (recording : Recording) : (command : Command) → command.Answer → Recording
  | .claim messageId _ _, .ok true => { claimed := some messageId }
  | .auditLogCreate _, .ok _ => { recording with written := true }
  | .auditLogCreate _, .error _ => recording
  | .sendMail _, _ => recording
  | .customerFindUnique _, _ => recording
  | _, _ => {}

/-- A message is completed once its audit row is written. -/
def recordings : Monitor interface Recording where
  permits recording command :=
    ∀ messageId, command = .markCompleted messageId →
      recording.claimed = some messageId ∧ recording.written = true
  moves recording command answer following := following = recording.after command answer

section Programs

variable {config : ConsumerConfig} {recording : Recording} {msg : Message}
  {message : ParsedMessage}

def Unfinishing (command : Command) : Prop := ∀ messageId, command ≠ .markCompleted messageId

theorem recording_unfinishing {α : Type} {program : Service α}
    (issues : Issues Unfinishing program) :
    recordings.Obeys (fun _ _ => True) program recording := by
  refine Monitor.Follows.of_only (fun _ => True) issues ?_ True.intro
  intro track command unfinishing _
  constructor
  · intro messageId same
    exact absurd same (unfinishing messageId)
  · intro answer following moved
    exact True.intro

theorem recording_request {command : Command}
    {post : Except Thrown command.Answer → Recording → Prop}
    (unfinishing : Unfinishing command)
    (answered : ∀ answer, post (.ok answer) (recording.after command answer)) :
    recordings.Obeys post (request command) recording := by
  constructor
  · intro messageId same
    exact absurd same (unfinishing messageId)
  · rintro answer _ rfl
    exact answered answer

theorem recording_orThrow {α : Type} {result : Except Thrown α}
    {post : Except Thrown α → Recording → Prop} (holds : post result recording) :
    recordings.Obeys post (orThrow result) recording := by
  cases result with
  | ok value => exact .pure holds
  | error error => exact .throw holds

theorem recording_claim : recordings.Obeys (fun result final => ∀ message,
    result = .ok (message, true) → final.claimed = some message.messageId)
    (claim config msg) recording := by
  have parses : recordings.Obeys (fun _ final => final = recording)
      (orThrow (parseMessage config msg)) recording := recording_orThrow rfl
  refine parses.bind (by rintro error final _ _ ⟨⟩) fun message between _ => ?_
  have asks (eventType : String) : recordings.Obeys
      (fun result final => result = .ok (.ok true) → final.claimed = some message.messageId)
      (request (.claim message.messageId eventType config.claimTtlMs)) between := by
    apply recording_request (by rintro _ ⟨⟩)
    rintro answer ⟨⟩
    rfl
  apply (asks _).bind (by rintro error final _ _ ⟨⟩)
  intro answer final claimed
  have gives : recordings.Obeys (fun result after => after = final ∧ result = answer)
      (orThrow answer) final := recording_orThrow ⟨rfl, rfl⟩
  apply gives.bind (by rintro error final _ _ ⟨⟩)
  rintro taken after ⟨rfl, rfl⟩
  apply Monitor.Obeys.pure
  rintro _ ⟨⟩
  exact claimed rfl

theorem recording_record {claimed : Option String} (input : AuditRecordInput)
    (outcome : Postgres.Outcome) (same : recording.claimed = claimed) :
    recordings.Obeys (fun result final => result = .ok () →
      final.claimed = claimed ∧ final.written = true) (record input outcome) recording := by
  have asks (data : AuditLogData) : recordings.Obeys
      (fun result final => result = .ok (.ok ()) →
        final.claimed = claimed ∧ final.written = true)
      (request (.auditLogCreate data)) recording := by
    apply recording_request (by rintro _ ⟨⟩)
    rintro answer ⟨⟩
    exact ⟨same, rfl⟩
  apply (asks _).bind (by rintro error final _ ⟨⟩)
  intro answer final written
  apply recording_orThrow
  rintro rfl
  exact written rfl

/-- What `dispatch` does without an error has written the audit row. -/
theorem recording_dispatch {claimed : Option String} (type payload : Option Json)
    (same : recording.claimed = claimed) :
    recordings.Obeys (fun result final => result = .ok () →
      final.claimed = claimed ∧ final.written = true) (dispatch config type payload)
      recording := by
  have validated {next : ValidatedPayload → Service Unit}
      (continues : ∀ payload, recordings.Obeys (fun result final => result = .ok () →
        final.claimed = claimed ∧ final.written = true) (next payload) recording) :
      recordings.Obeys (fun result final => result = .ok () →
        final.claimed = claimed ∧ final.written = true)
        (orThrow (validateTransactionEventPayload payload) >>= next) recording := by
    have checks : recordings.Obeys (fun _ final => final = recording)
        (orThrow (validateTransactionEventPayload payload)) recording := recording_orThrow rfl
    apply checks.bind (by rintro error final _ ⟨⟩)
    rintro value _ rfl
    exact continues value
  unfold dispatch
  split
  · exact validated fun payload => recording_record _ _ same
  · split
    · exact validated fun payload => recording_record _ _ same
    · exact .throw (by rintro ⟨⟩)

theorem unfinishing_request {command : Command} (unfinishing : Unfinishing command) :
    Issues Unfinishing (request command) := ⟨unfinishing, fun _ => trivial⟩

theorem unfinishing_safeAck : Issues Unfinishing safeAck :=
  (unfinishing_request (by rintro _ ⟨⟩)).bind fun _ => Program.issues_pure _

theorem unfinishing_orThrow {α : Type} (result : Except Thrown α) :
    Issues Unfinishing (orThrow result) := by
  cases result with
  | ok value => exact Program.issues_pure value
  | error error => exact Program.issues_throw error

theorem unfinishing_giveBack (error : Thrown) :
    Issues Unfinishing (giveBack config msg error) := by
  have republishes : Issues Unfinishing (republish config msg error) := by
    unfold republish republishForRetry
    dsimp only
    split
    · split
      · exact Program.issues_pure _
      · apply (unfinishing_request (by rintro _ ⟨⟩)).bind
        intro answer
        exact unfinishing_orThrow answer
    · exact Program.issues_pure _
  apply republishes.bind
  intro republished
  split
  · exact unfinishing_safeAck
  · exact (unfinishing_request (by rintro _ ⟨⟩)).bind fun _ => Program.issues_pure _

theorem unfinishing_markFailed (messageId : String) (error : Thrown) :
    Issues Unfinishing (markFailed messageId error) :=
  (unfinishing_request (by rintro _ ⟨⟩)).bind fun _ => Program.issues_pure _

theorem recording_process (claimed : recording.claimed = some message.messageId) :
    recordings.Obeys (fun _ _ => True) (process config .rabbitMq message) recording := by
  apply (recording_dispatch _ _ claimed).bind (fun _ _ _ => trivial)
  rintro _ between written
  constructor
  · rintro messageId ⟨⟩
    exact written rfl
  · intro answer following _
    refine recording_unfinishing (Issues.bind (unfinishing_orThrow answer) fun updated => ?_)
    split
    · exact Program.issues_throw _
    · exact Program.issues_pure _

theorem recording_handleMessage :
    recordings.Obeys (fun _ _ => True) (handleMessage config .rabbitMq msg) recording := by
  apply recording_claim.attempt
  intro outcome between claimed
  cases outcome with
  | error error => exact recording_unfinishing (unfinishing_giveBack error)
  | ok value =>
      rcases value with ⟨message, taken⟩
      cases taken with
      | false => exact recording_unfinishing unfinishing_safeAck
      | true =>
          apply (recording_process (claimed message rfl)).attempt
          intro outcome final _
          cases outcome with
          | ok _ => exact recording_unfinishing unfinishing_safeAck
          | error error =>
              apply recording_unfinishing
              exact (unfinishing_markFailed _ error).bind fun _ => unfinishing_giveBack error

theorem recording_consume (config : ConsumerConfig) :
    recordings.Follows (fun _ _ => True) (consume config .rabbitMq).run {} := by
  constructor
  · rintro _ ⟨⟩
  · rintro msg _ rfl
    exact recording_handleMessage

end Programs

/-! ## Runs -/

section Runs

variable {Worker : Type} [DecidableEq Worker] {deployment : Deployment Worker}
  {worker : Worker} {before after : State Worker} {recording : Recording}

omit [DecidableEq Worker] in
def State.Recorded (state : State Worker) (consumer : Consumer) (messageId : String) : Prop :=
  ∃ effect ∈ state.effects, effect.consumer = consumer ∧ effect.messageId = some messageId

omit [DecidableEq Worker] in
theorem State.Recorded.mono {consumer : Consumer} {messageId : String}
    (recorded : before.Recorded consumer messageId) (grow : before.effects ⊆ after.effects) :
    after.Recorded consumer messageId := by
  rcases recorded with ⟨effect, member, own, named⟩
  exact ⟨effect, grow member, own, named⟩

theorem Performed.effects_subset {consumer : Consumer} {topology : Topology} {command : Command}
    {choice : Choice} {answer : command.Answer}
    (performed : Performed consumer topology worker choice before command answer after) :
    before.effects ⊆ after.effects := by
  rcases performed.effects with same | ⟨output, _, same⟩
  · rw [same]
    exact List.Subset.refl _
  · rw [same]
    exact List.subset_cons_self _ _

omit [DecidableEq Worker] in
def Recording.Mirrors (recording : Recording) (consumer : Consumer) (worker : Worker)
    (state : State Worker) : Prop :=
  ∀ messageId, recording.claimed = some messageId →
    (state.handling worker).progress.claimed? = some messageId ∧
      (recording.written = true → state.Recorded consumer messageId)

@[simp] theorem claimed?_afterEffect (progress : Progress) :
    progress.afterEffect.claimed? = progress.claimed? := by
  cases progress <;> rfl

theorem output_claimed (before : State Worker) (worker : Worker) (consumer : Consumer)
    (choice : Choice) (output : Output) :
    ((before.output worker consumer choice output).handling worker).progress.claimed? =
      (before.handling worker).progress.claimed? := by
  rcases before.output_cases worker consumer choice output with same | same
  · rw [same, State.advance_handling, claimed?_afterEffect]
  · rw [same, State.advance_handling, claimed?_afterEffect]

theorem Recording.Mirrors.output {consumer : Consumer} {choice : Choice} {output : Output}
    (mirrors : recording.Mirrors consumer worker before)
    (grow : before.effects ⊆ (before.output worker consumer choice output).effects) :
    recording.Mirrors consumer worker (before.output worker consumer choice output) := by
  intro messageId claimed
  rcases mirrors messageId claimed with ⟨holds, recorded⟩
  rw [output_claimed]
  exact ⟨holds, fun written => (recorded written).mono grow⟩

omit [DecidableEq Worker] in
theorem Recording.mirrors_empty (consumer : Consumer) (worker : Worker) (state : State Worker) :
    Recording.Mirrors {} consumer worker state := by
  rintro messageId ⟨⟩

theorem Recording.Mirrors.performed {consumer : Consumer} {topology : Topology}
    {command : Command} {choice : Choice} {answer : command.Answer}
    (mirrors : recording.Mirrors consumer worker before)
    (performed : Performed consumer topology worker choice before command answer after) :
    (recording.after command answer).Mirrors consumer worker after := by
  have grow := performed.effects_subset
  cases performed with
  | claims taken =>
      rintro messageId ⟨⟩
      constructor
      · simp [State.grant, Progress.claimed?]
      · rintro ⟨⟩
  | @unclaimed messageId eventType claimTtlMs answer progress taken refused write =>
      cases answer with
      | error error => exact Recording.mirrors_empty _ _ _
      | ok value =>
          cases value with
          | false => exact Recording.mirrors_empty _ _ _
          | true => exact absurd rfl refused
  | @audits data =>
      cases failure : choice.failure with
      | some failed =>
          have answered : choice.answer () = .error failed.error := by
            rw [Choice.answer, failure]
          rw [answered]
          exact mirrors.output grow
      | none =>
          have answered : choice.answer () = .ok () := by
            rw [Choice.answer, failure]
          rw [answered]
          intro messageId claimed
          have holds := (mirrors messageId claimed).1
          rw [output_claimed]
          refine ⟨holds, fun _ => ⟨⟨consumer, some messageId, .auditLog data⟩, ?_, rfl, rfl⟩⟩
          have done : before.output worker consumer choice (.auditLog data) =
              (before.record worker consumer (.auditLog data)).advance worker
                (before.handling worker).progress.afterEffect := by
            rw [State.output, Choice.after, failure]
          rw [done, ← holds]
          exact List.mem_cons_self
  | mails => exact mirrors.output grow
  | finds => exact mirrors
  | _ => exact Recording.mirrors_empty _ _ _

theorem recording_mirrors (deployment : Deployment Worker) (worker : Worker) :
    Monitor.Mirrors recordings deployment.machine worker (fun _ _ => True)
      (fun recording => recording.Mirrors (deployment.consumers worker) worker) where
  acts mirrors _ _ performed := ⟨_, rfl, mirrors.performed (performed_of_perform performed)⟩
  others := by
    intro other recording command choice before answer after different mirrors performed
    have done := performed_of_perform performed
    intro messageId claimed
    rw [done.others different]
    rcases mirrors messageId claimed with ⟨holds, recorded⟩
    exact ⟨holds, fun written => (recorded written).mono done.effects_subset⟩
  environment := by
    intro recording event before after mirrors happened
    have rely : Rely worker before after := .environment happened
    have same := environment_effects happened
    intro messageId claimed
    rw [rely.progress]
    rcases mirrors messageId claimed with ⟨holds, recorded⟩
    exact ⟨holds, fun written => (recorded written).mono (same ▸ List.Subset.refl _)⟩

/-- Each message that `RabbitMqConsumer` has completed has its audit row. -/
theorem completed_recorded {now : ℕ} {current : Configuration Worker}
    (run : Run deployment.step Unrestricted (deployment.initial now) current)
    {messageId : String} (completed : current.shared.Completed .rabbitMq messageId) :
    current.shared.Recorded .rabbitMq messageId := by
  have everywhere : (∀ worker, deployment.consumers worker = .rabbitMq →
        Monitor.Tracked recordings (fun recording => recording.Mirrors .rabbitMq worker)
          (fun _ _ => True) worker current) ∧
      ∀ messageId, current.shared.Completed .rabbitMq messageId →
        current.shared.Recorded .rabbitMq messageId := by
    refine run.invariant (fun between => (∀ worker, deployment.consumers worker = .rabbitMq →
        Monitor.Tracked recordings (fun recording => recording.Mirrors .rabbitMq worker)
          (fun _ _ => True) worker between) ∧
      ∀ messageId, between.shared.Completed .rabbitMq messageId →
        between.shared.Recorded .rabbitMq messageId) ⟨fun worker mine => ?_, ?_⟩ ?_
    · refine ⟨{}, Recording.mirrors_empty _ _ _, ?_⟩
      have follows := recording_consume deployment.config
      rw [← mine] at follows
      exact follows
    · rintro messageId ⟨row, ⟨⟩, _⟩
    · rintro between label following ⟨tracked, recorded⟩ _ taken
      refine ⟨fun worker mine => ?_, fun messageId completed => ?_⟩
      · have mirrors := recording_mirrors deployment worker
        rw [mine] at mirrors
        exact (tracked worker mine).step mirrors (fun _ _ => trivial) taken
      · cases label with
        | environment event =>
            rcases Machine.step_environment taken with ⟨shared, happened, rfl⟩
            have same := environment_effects happened
            rcases completed with ⟨row, found, status⟩
            change shared.rows .rabbitMq messageId = some row at found
            rw [environment_rows happened] at found
            exact (recorded messageId ⟨row, found, status⟩).mono (same ▸ List.Subset.refl _)
        | perform worker choice =>
            rcases Machine.step_perform taken with
              ⟨command, next, answer, shared, program, performed, rfl⟩
            have done := performed_of_perform performed
            rcases done.completed completed with earlier | ⟨mine, rfl⟩
            · exact (recorded messageId earlier).mono done.effects_subset
            · rcases tracked worker mine.symm with ⟨recording, mirrors, follows⟩
              rw [program] at follows
              rcases follows.1 messageId rfl with ⟨claimed, written⟩
              exact ((mirrors messageId claimed).2 written).mono done.effects_subset
  exact everywhere.2 messageId completed

end Runs

end BankingBackend.Messaging
