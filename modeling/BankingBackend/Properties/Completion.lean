import BankingBackend.Properties.SingleEffect

/-! # A completed message stays completed -/

namespace BankingBackend.Messaging

open Foundation

section Steps

variable {Worker : Type} [DecidableEq Worker] {consumers : Worker → Consumer}
  {topology : Topology} {worker : Worker} {before : State Worker} {choice : Choice}
  {consumer : Consumer} {messageId : String}

theorem output_completed {output : Output} (done : before.Completed consumer messageId) :
    (before.output worker (consumers worker) choice output).Completed consumer messageId := by
  unfold State.output
  rcases choice.after_cases before (before.record worker (consumers worker) output) with
    same | ⟨recorded, _⟩
  · rw [same]
    exact done
  · rw [recorded]
    exact done

/-- Of all requests, only a `markFailed` that takes effect undoes a completion. -/
theorem perform_completed {command : Command} {result : command.Answer × State Worker}
    (performed : State.perform consumers topology worker command choice before = some result)
    (done : before.Completed consumer messageId) :
    result.2.Completed consumer messageId ∨
      consumer = consumers worker ∧ (∃ errorMessage, command = .markFailed messageId errorMessage) ∧
        ∀ failure ∈ choice.failure, failure.executed = true := by
  have alive := alive_of_performed performed
  have kept {row : ProcessedMessage Worker} {key : String}
      (stays : consumer = consumers worker → messageId = key → row.status = .completed) :
      (before.setRow (consumers worker) key row).Completed consumer messageId := done.setRow stays
  cases command with
  | receive =>
      simp only [State.perform, alive, Bool.false_eq_true, if_false, Option.map_eq_some_iff]
        at performed
      rcases performed with ⟨message, queued, rfl⟩
      exact .inl done
  | claim key eventType claimTtlMs =>
      simp only [State.perform, alive, Bool.false_eq_true, if_false, Option.some.injEq] at performed
      subst performed
      have free {row : ProcessedMessage Worker}
          (taken : before.claimRow worker (consumers worker) key eventType claimTtlMs = some row) :
          consumer = consumers worker → messageId = key → row.status = .completed := by
        rintro rfl rfl
        rw [State.claimRow_of_completed done] at taken
        cases taken
      unfold State.claim
      split
      · rename_i row taken succeeds
        exact .inl (kept (free taken))
      · exact .inl done
      · rename_i row failure taken fails
        split
        · exact .inl (kept (free taken))
        · exact .inl done
      · exact .inl done
  | markCompleted key =>
      simp only [State.perform, alive, Bool.false_eq_true, if_false, Option.some.injEq] at performed
      subst performed
      unfold State.markCompleted
      split
      · exact .inl (kept fun _ _ => rfl)
      · exact .inl done
      · split
        · exact .inl (kept fun _ _ => rfl)
        · exact .inl done
      · exact .inl done
  | markFailed key errorMessage =>
      simp only [State.perform, alive, Bool.false_eq_true, if_false, Option.some.injEq] at performed
      subst performed
      by_cases here : consumer = consumers worker ∧ messageId = key
      · rcases choice.after_cases before (before.failRow (consumers worker) key errorMessage) with
          same | ⟨_, executed⟩
        · refine .inl ?_
          simp only [State.markFailed, same]
          exact done
        · rw [here.2]
          exact .inr ⟨here.1, ⟨errorMessage, rfl⟩, executed⟩
      · refine .inl ?_
        unfold State.markFailed
        rcases choice.after_cases before (before.failRow (consumers worker) key errorMessage) with
          same | ⟨failed, _⟩
        · rw [same]
          exact done
        · rw [failed]
          rcases before.failRow_cases (consumers worker) key errorMessage with same | ⟨row, _, written⟩
          · rw [same]
            exact done
          · rw [written]
            exact kept fun same equal => absurd ⟨same, equal⟩ here
  | auditLogCreate data =>
      simp only [State.perform, alive, Bool.false_eq_true, if_false, Option.some.injEq] at performed
      subst performed
      exact .inl (output_completed done)
  | customerFindUnique id =>
      simp only [State.perform, alive, Bool.false_eq_true, if_false, Option.some.injEq] at performed
      subst performed
      exact .inl done
  | sendMail message =>
      simp only [State.perform, alive, Bool.false_eq_true, if_false, Option.some.injEq] at performed
      subst performed
      exact .inl (output_completed done)
  | publish message =>
      simp only [State.perform, alive, Bool.false_eq_true, if_false] at performed
      rcases onChannel_cases performed with ⟨_, same⟩ | ⟨_, _, same⟩
      · exact .inl (same ▸ done)
      · exact .inl (same ▸ done)
  | ack =>
      simp only [State.perform, alive, Bool.false_eq_true, if_false] at performed
      rcases onChannel_cases performed with ⟨_, same⟩ | ⟨_, _, same⟩
      · exact .inl (same ▸ done)
      · exact .inl (same ▸ done)
  | nack requeue =>
      simp only [State.perform, alive, Bool.false_eq_true, if_false] at performed
      rcases onChannel_cases performed with ⟨_, same⟩ | ⟨_, _, same⟩
      · exact .inl (same ▸ done)
      · refine .inl ?_
        rw [same]
        split
        · rwa [State.Completed, State.requeue_rows]
        · rwa [State.Completed, State.deadLetter_rows]

theorem markFailed_undoes {errorMessage : String}
    (executed : ∀ failure ∈ choice.failure, failure.executed = true)
    (done : before.Completed consumer messageId) :
    ¬(before.markFailed worker consumer choice messageId errorMessage).Completed consumer
      messageId := by
  rcases done with ⟨row, found, _⟩
  intro stays
  simp only [State.markFailed, Choice.after_of_executed executed, State.failRow, found] at stays
  rcases before.completed_setRow stays with ⟨_, different⟩ | ⟨_, completed⟩
  · exact different ⟨rfl, rfl⟩
  · cases completed

end Steps

/-! ## Runs -/

section Runs

variable {Worker : Type} [DecidableEq Worker]

/-- No `markFailed` that takes effect reaches a completed row. -/
def undowngraded (deployment : Deployment Worker) : Condition Worker where
  permits worker command choice state :=
    ∀ messageId errorMessage, command = .markFailed messageId errorMessage →
      (∀ failure ∈ choice.failure, failure.executed = true) →
        ¬state.Completed (deployment.consumers worker) messageId

/-- No claim takes over a row while a live worker still holds a claim of its message, and
no completion takes effect but is reported as failed. -/
def undisturbed (deployment : Deployment Worker) : Condition Worker where
  permits worker command choice state :=
    (∀ messageId eventType claimTtlMs, command = .claim messageId eventType claimTtlMs →
      choice.failure = none →
        (state.rows (deployment.consumers worker) messageId).isSome = true →
          ∀ other, deployment.consumers other = deployment.consumers worker →
            (state.handling other).crashed = false →
              (state.handling other).progress.claimed? ≠ some messageId) ∧
    ∀ messageId, command = .markCompleted messageId →
      ∀ failure ∈ choice.failure, failure.executed = false

/-- Once a message is completed it stays completed, and no delivery of it is claimed. -/
structure CompletedTerminal (deployment : Deployment Worker)
    (allowed : Configuration Worker → Label Worker → Prop) : Prop where
  stays : ∀ now middle final, Run deployment.step allowed (deployment.initial now) middle →
    Run deployment.step allowed middle final → ∀ consumer messageId,
      middle.shared.Completed consumer messageId → final.shared.Completed consumer messageId
  unclaimed : ∀ now completed current following worker choice,
    Run deployment.step allowed (deployment.initial now) completed →
    Run deployment.step allowed completed current →
    deployment.step current (.perform worker choice) = some following →
    ∀ messageId eventType claimTtlMs next,
      current.program worker = .call (.claim messageId eventType claimTtlMs) next →
      completed.shared.Completed (deployment.consumers worker) messageId →
        following.shared.dispatches = current.shared.dispatches ∧
          following.shared.rows = current.shared.rows

variable {deployment : Deployment Worker}

theorem step_completed {current following : Configuration Worker} {label : Label Worker}
    (permitted : (undowngraded deployment).allowed current label)
    (taken : deployment.step current label = some following) {consumer : Consumer}
    {messageId : String} (done : current.shared.Completed consumer messageId) :
    following.shared.Completed consumer messageId := by
  cases label with
  | environment event =>
      rcases Machine.step_environment taken with ⟨shared, happened, rfl⟩
      rwa [State.Completed, environment_rows happened]
  | perform worker choice =>
      rcases Machine.step_perform taken with
        ⟨command, next, answer, shared, program, performed, rfl⟩
      rcases perform_completed performed done with
        stays | ⟨rfl, ⟨errorMessage, rfl⟩, executed⟩
      · exact stays
      · exact absurd done (permitted _ _ program _ _ rfl executed)

theorem step_unclaimed {current following : Configuration Worker} {worker : Worker}
    {choice : Choice} (taken : deployment.step current (.perform worker choice) = some following)
    {messageId eventType : String} {claimTtlMs : ℕ}
    {next : Except Thrown Bool → Program interface Result}
    (program : current.program worker = .call (.claim messageId eventType claimTtlMs) next)
    (done : current.shared.Completed (deployment.consumers worker) messageId) :
    following.shared.dispatches = current.shared.dispatches ∧
      following.shared.rows = current.shared.rows := by
  rcases Machine.step_perform taken with
    ⟨command, rest, answer, shared, asks, performed, rfl⟩
  rw [program] at asks
  cases asks
  have claimed : State.perform deployment.consumers deployment.config.topology worker
      (.claim messageId eventType claimTtlMs) choice current.shared = some (answer, shared) :=
    performed
  have alive := alive_of_performed claimed
  simp only [State.perform, alive, Bool.false_eq_true, if_false, State.claim,
    State.claimRow_of_completed done] at claimed
  cases fails : choice.failure with
  | none =>
      rw [fails] at claimed
      cases claimed
      exact ⟨rfl, rfl⟩
  | some failure =>
      rw [fails] at claimed
      cases claimed
      exact ⟨rfl, rfl⟩

theorem CompletedTerminal.of_stays {allowed : Configuration Worker → Label Worker → Prop}
    (stays : ∀ now middle final, Run deployment.step allowed (deployment.initial now) middle →
      Run deployment.step allowed middle final → ∀ consumer messageId,
        middle.shared.Completed consumer messageId → final.shared.Completed consumer messageId) :
    CompletedTerminal deployment allowed where
  stays := stays
  unclaimed now completed current following worker choice reached run taken := by
    intro messageId eventType claimTtlMs next program done
    exact step_unclaimed taken program (stays now completed current reached run _ _ done)

/-! ## At most one claim -/

def State.HoldsClaim (state : State Worker) (deployment : Deployment Worker) (worker : Worker)
    (consumer : Consumer) (messageId : String) : Prop :=
  deployment.consumers worker = consumer ∧ (state.handling worker).crashed = false ∧
    (state.handling worker).progress.claimed? = some messageId

/-- Live workers hold at most one claim of a message, and none of a completed one. -/
structure Exclusive (deployment : Deployment Worker) (state : State Worker) : Prop where
  alone : ∀ first second consumer messageId,
    state.HoldsClaim deployment first consumer messageId →
      state.HoldsClaim deployment second consumer messageId → first = second
  unfinished : ∀ worker consumer messageId, state.HoldsClaim deployment worker consumer messageId →
    ¬state.Completed consumer messageId
  present : ∀ worker consumer messageId, state.HoldsClaim deployment worker consumer messageId →
    (state.rows consumer messageId).isSome = true

variable {before after : State Worker} {worker : Worker}

omit [DecidableEq Worker] in
theorem Exclusive.fewer (exclusive : Exclusive deployment before)
    (claims : ∀ worker consumer messageId, after.HoldsClaim deployment worker consumer messageId →
      before.HoldsClaim deployment worker consumer messageId ∧
        (after.Completed consumer messageId → before.Completed consumer messageId) ∧
          ((before.rows consumer messageId).isSome = true →
            (after.rows consumer messageId).isSome = true)) :
    Exclusive deployment after where
  alone first second consumer messageId one two :=
    exclusive.alone first second consumer messageId (claims _ _ _ one).1 (claims _ _ _ two).1
  unfinished worker consumer messageId claim done :=
    exclusive.unfinished worker consumer messageId (claims _ _ _ claim).1
      ((claims _ _ _ claim).2.1 done)
  present worker consumer messageId claim :=
    (claims _ _ _ claim).2.2 (exclusive.present worker consumer messageId (claims _ _ _ claim).1)

section Acts

variable {command : Command} {choice : Choice} (exclusive : Exclusive deployment before)
include exclusive

theorem Exclusive.rests
    (change : Change deployment.config (deployment.consumers worker) worker before command choice
      after) (alive : (before.handling worker).crashed = false)
    (own : ∀ messageId, (after.handling worker).progress.claimed? = some messageId →
      (before.handling worker).progress.claimed? = some messageId)
    (completed : ∀ other consumer messageId,
      before.HoldsClaim deployment other consumer messageId →
        after.HoldsClaim deployment other consumer messageId →
          after.Completed consumer messageId → before.Completed consumer messageId) :
    Exclusive deployment after := by
  refine exclusive.fewer fun other consumer messageId holds => ?_
  have earlier : before.HoldsClaim deployment other consumer messageId := by
    rcases holds with ⟨mine, living, claimed⟩
    by_cases same : other = worker
    · subst other
      exact ⟨mine, alive, own messageId claimed⟩
    · rw [change.others same] at living claimed
      exact ⟨mine, living, claimed⟩
  refine ⟨earlier, completed other consumer messageId earlier holds, fun found => ?_⟩
  by_contra absent
  rw [Option.not_isSome_iff_eq_none] at absent
  rw [change.absent absent] at found
  cases found

theorem Exclusive.claims {messageId : String} {row : ProcessedMessage Worker}
    (claimed : row.status = .claimed)
    (free : ∀ other, ¬before.HoldsClaim deployment other (deployment.consumers worker) messageId) :
    Exclusive deployment (before.grant worker (deployment.consumers worker) messageId row) := by
  have holds {other : Worker} {consumer : Consumer} {key : String}
      (held : (before.grant worker (deployment.consumers worker) messageId row).HoldsClaim deployment
        other consumer key) :
      other = worker ∧ consumer = deployment.consumers worker ∧ key = messageId ∨
        before.HoldsClaim deployment other consumer key := by
    rcases held with ⟨mine, living, progress⟩
    by_cases same : other = worker
    · subst other
      simp only [State.grant, State.advance_handling, Progress.claimed?, Option.some.injEq]
        at progress
      exact .inl ⟨rfl, mine.symm, progress.symm⟩
    · have kept : (before.grant worker (deployment.consumers worker) messageId row).handling other =
          before.handling other := State.advance_others (before.setRow _ _ row) _ same
      rw [kept] at living progress
      exact .inr ⟨mine, living, progress⟩
  constructor
  · intro first second consumer key one two
    rcases holds one with ⟨rfl, rfl, rfl⟩ | earlier
    · rcases holds two with ⟨same, _, _⟩ | other
      · exact same.symm
      · exact absurd other (free second)
    · rcases holds two with ⟨rfl, rfl, rfl⟩ | other
      · exact absurd earlier (free first)
      · exact exclusive.alone first second consumer key earlier other
  · intro other consumer key held done
    rcases before.completed_setRow done with ⟨earlier, different⟩ | ⟨_, completed⟩
    · rcases holds held with ⟨_, here, same⟩ | claim
      · exact different ⟨here, same⟩
      · exact exclusive.unfinished other consumer key claim earlier
    · rw [claimed] at completed
      cases completed
  · intro other consumer key held
    have written := before.setRow_rows (deployment.consumers worker) messageId row consumer key
    change ((before.setRow _ _ row).rows consumer key).isSome = true
    rw [written]
    split
    · rfl
    · rename_i different
      rcases holds held with ⟨_, here, same⟩ | earlier
      · exact absurd ⟨here, same⟩ different
      · exact exclusive.present other consumer key earlier

omit [DecidableEq Worker] in
/-- A row that is written as completed belongs to the worker that settles it. -/
theorem Exclusive.completes {message : ParsedMessage} {msg : Message} {progress : Progress}
    {row : ProcessedMessage Worker} (alive : (before.handling worker).crashed = false)
    (handles : before.Handles worker msg progress)
    (claimed : progress.claimed? = some message.messageId) {other : Worker} {consumer : Consumer}
    {messageId : String} (earlier : before.HoldsClaim deployment other consumer messageId)
    (later : (after.handling worker).progress.claimed? = none)
    (holds : after.HoldsClaim deployment other consumer messageId)
    (done : (before.setRow (deployment.consumers worker) message.messageId row).Completed consumer
      messageId) : before.Completed consumer messageId := by
  rcases before.completed_setRow done with ⟨kept, _⟩ | ⟨⟨rfl, rfl⟩, _⟩
  · exact kept
  · have own : before.HoldsClaim deployment worker (deployment.consumers worker)
        message.messageId := ⟨rfl, alive, handles.2 ▸ claimed⟩
    have same : other = worker := exclusive.alone other worker _ _ earlier own
    subst same
    have claim := holds.2.2
    rw [later] at claim
    cases claim

theorem Exclusive.acts
    (change : Change deployment.config (deployment.consumers worker) worker before command choice
      after) (alive : (before.handling worker).crashed = false)
    (permitted : (undisturbed deployment).permits worker command choice before) :
    Exclusive deployment after := by
  have rests := fun own completed => exclusive.rests change alive own completed
  cases change with
  | @claims _ _ message _ row received parsed succeeds taken =>
      refine exclusive.claims (State.claimRow_spec taken).2 fun other holds => ?_
      have present := exclusive.present other _ _ holds
      exact permitted.1 _ _ _ rfl succeeds present other holds.1 holds.2.1 holds.2.2
  | receives idle queued =>
      refine rests (fun _ claim => ?_) fun _ _ _ _ _ => id
      simp [State.receive, Progress.claimed?] at claim
  | refuses received parsed succeeds refused =>
      refine rests (fun _ claim => ?_) fun _ _ _ _ _ => id
      simp [Progress.claimed?] at claim
  | claimFails received parsed write =>
      refine rests (fun _ claim => ?_) fun _ _ _ _ _ done => ?_
      · simp [Progress.claimed?] at claim
      · cases write with
        | skips => exact done
        | writes row taken =>
            rcases before.completed_setRow done with ⟨kept, _⟩ | ⟨_, completed⟩
            · exact kept
            · rw [(State.claimRow_spec taken).2] at completed
              cases completed
  | completes handles claimed parsed found =>
      refine rests (fun _ claim => ?_) fun other consumer messageId earlier holds done => ?_
      · simp [Progress.claimed?] at claim
      · exact exclusive.completes alive handles claimed earlier (by simp [Progress.claimed?]) holds
          done
  | completionFails handles claimed parsed write =>
      cases write with
      | skips => exact exclusive
      | writes row holds =>
          rcases holds with ⟨failure, earlier, fails, executed, _⟩
          have unexecuted := permitted.2 _ rfl failure fails
          rw [executed] at unexecuted
          cases unexecuted
  | marks handles claimed parsed write =>
      refine rests (fun _ claim => ?_) fun _ _ _ _ _ done => ?_
      · simp [Progress.claimed?] at claim
      · cases write with
        | skips => exact done
        | writes row holds =>
            rcases holds with ⟨earlier, _, _, rfl⟩
            rcases before.completed_setRow done with ⟨kept, _⟩ | ⟨_, completed⟩
            · exact kept
            · cases completed
  | outputs handles outcome =>
      refine rests (fun _ claim => ?_) fun _ _ _ _ _ done => ?_
      · rw [handles.2]
        simpa [Progress.claimed?] using claim
      · rcases outcome with rfl | ⟨output, rfl⟩
        · exact done
        · exact done
  | observes => exact exclusive
  | publishes failed unacked parsed addressed remain =>
      refine rests (fun _ claim => ?_) fun _ _ _ _ _ => id
      rw [State.advance_handling] at claim
      cases written : choice.writable <;> simp [written, Progress.claimed?] at claim
  | acks settled =>
      refine rests (fun _ claim => ?_) fun _ _ _ _ _ => id
      simpa [State.ack] using claim
  | rejects handles gives =>
      refine rests (fun _ claim => ?_) fun _ _ _ _ _ done => ?_
      · simp [State.deadLetter, handles.1, Progress.claimed?] at claim
      · rwa [State.Completed, State.deadLetter_rows] at done

end Acts

theorem Exclusive.environment (exclusive : Exclusive deployment before) {event : Occurrence Worker}
    (happened : State.environment deployment.consumers deployment.config.topology event before =
      some after) : Exclusive deployment after := by
  refine exclusive.fewer fun worker consumer messageId holds => ?_
  have rely : Rely worker before after := .environment happened
  have living := living_of_environment happened holds.2.1
  rw [State.Completed, State.Completed, environment_rows happened]
  exact ⟨⟨holds.1, living, rely.progress ▸ holds.2.2⟩, id, id⟩

def exclusiveInvariant (deployment : Deployment Worker) :
    Invariant deployment (undisturbed deployment) where
  holds := Exclusive deployment
  acts exclusive acted := by
    rcases acted with ⟨command, choice, permitted, alive, change⟩
    exact exclusive.acts change alive permitted
  environment exclusive _ happened := exclusive.environment happened

omit [DecidableEq Worker] in
theorem exclusive_initial (deployment : Deployment Worker) (now : ℕ) :
    Exclusive deployment (deployment.initial now).shared := by
  constructor <;> simp [Deployment.initial, State.HoldsClaim, Progress.claimed?]

theorem Exclusive.step {current following : Configuration Worker} {label : Label Worker}
    (sound : (exclusiveInvariant deployment).discipline.Sound current)
    (permitted : (undisturbed deployment).allowed current label)
    (taken : deployment.step current label = some following) {consumer : Consumer}
    {messageId : String} (done : current.shared.Completed consumer messageId) :
    following.shared.Completed consumer messageId := by
  have exclusive : Exclusive deployment current.shared := sound.1
  cases label with
  | environment event =>
      rcases Machine.step_environment taken with ⟨shared, happened, rfl⟩
      rwa [State.Completed, environment_rows happened]
  | perform worker choice =>
      rcases (sound.acts (Condition.restricts permitted taken).2).1 with
        ⟨command, other, _, alive, change⟩
      rcases change.completed consumer messageId done with
        stays | ⟨mine, _, _, msg, progress, handles, claimed, _⟩
      · exact stays
      · have holds : current.shared.HoldsClaim deployment worker consumer messageId :=
          ⟨mine.symm, alive, handles.2 ▸ claimed⟩
        exact absurd done (exclusive.unfinished worker consumer messageId holds)

/-- Completed messages stay completed as long as none of them is marked as failed, which
is the only step that undoes a completion. None is where claims are not taken over from
live workers and completions are not lost. -/
theorem completed_terminal (deployment : Deployment Worker) :
    CompletedTerminal deployment (undowngraded deployment).allowed ∧
      CompletedTerminal deployment (undisturbed deployment).allowed ∧
      ∀ current following label, deployment.step current label = some following →
        ((undowngraded deployment).allowed current label ↔ ∀ consumer messageId,
          current.shared.Completed consumer messageId →
            following.shared.Completed consumer messageId) := by
  refine ⟨.of_stays ?_, .of_stays ?_, ?_⟩
  · intro now middle final _ run consumer messageId done
    exact run.invariant (fun current => current.shared.Completed consumer messageId) done
      fun _ _ _ done permitted taken => step_completed permitted taken done
  · intro now middle final reached run consumer messageId done
    have start := (exclusiveInvariant deployment).sound (exclusive_initial deployment now) reached
    refine (run.invariant (fun current =>
      (exclusiveInvariant deployment).discipline.Sound current ∧
        current.shared.Completed consumer messageId) ⟨start, done⟩ ?_).2
    intro current label following ⟨sound, done⟩ permitted taken
    have restricted := Condition.restricts permitted taken
    exact ⟨sound.step restricted.1 restricted.2, Exclusive.step sound permitted taken done⟩
  · intro current following label taken
    refine ⟨fun permitted _ _ done => step_completed permitted taken done, fun stays => ?_⟩
    cases label with
    | environment event => trivial
    | perform worker choice =>
        rintro command next program messageId errorMessage rfl executed done
        rcases Machine.step_perform taken with
          ⟨command, rest, answer, shared, asks, performed, rfl⟩
        rw [program] at asks
        cases asks
        have marked : State.perform deployment.consumers deployment.config.topology worker
            (.markFailed messageId errorMessage) choice current.shared = some (answer, shared) :=
          performed
        have alive := alive_of_performed marked
        simp only [State.perform, alive, Bool.false_eq_true, if_false] at marked
        cases marked
        exact markFailed_undoes executed done (stays _ _ done)

end Runs

/-! ### A claim that expires under a slow worker -/

/-- The message is published twice; the second delivery takes over the claim of the first
after the time to live, and completes the message. -/
def overtakenRun : List (Label Bool) :=
  [.environment (.publish depositMessage), .environment (.publish depositMessage),
    .perform false {}, .perform false {}, .environment (.tick 300000001), .perform true {},
    .perform true {}, .perform true {}, .perform true {}]

/-- The first worker writes its audit row, fails to complete the message and marks it as
failed. -/
def lateRun : List (Label Bool) := [.perform false {}, .perform false {}, .perform false {}]

private theorem overtaken_leads :
    (execute (Deployment.only .rabbitMq).step (fun _ _ => true)
      ((Deployment.only .rabbitMq).initial 0) overtakenRun).any (fun middle =>
        decide (middle.shared.Completed .rabbitMq "00000000-0000-4000-8000-000000000001") &&
          (execute (Deployment.only .rabbitMq).step (fun _ _ => true) middle lateRun).any
            fun final => decide (¬final.shared.Completed .rabbitMq
              "00000000-0000-4000-8000-000000000001")) = true := by decide +kernel

theorem overtaken_undone :
    ¬CompletedTerminal (Deployment.only .rabbitMq : Deployment Bool) Unrestricted := by
  intro terminal
  rcases exists_run_of_execute (Deployment.only .rabbitMq).step (fun _ _ => true) Unrestricted
    (fun _ _ _ => trivial) overtaken_leads with ⟨middle, reached, passed⟩
  rw [Bool.and_eq_true] at passed
  rcases exists_run_of_execute (Deployment.only .rabbitMq).step (fun _ _ => true) Unrestricted
    (fun _ _ _ => trivial) passed.2 with ⟨final, run, undone⟩
  have stays := terminal.stays 0 middle final reached run .rabbitMq
    "00000000-0000-4000-8000-000000000001" (of_decide_eq_true passed.1)
  exact of_decide_eq_true undone stays

end BankingBackend.Messaging
