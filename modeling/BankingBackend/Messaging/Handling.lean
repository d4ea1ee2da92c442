import BankingBackend.Foundation.Restriction
import BankingBackend.Messaging.Deliveries

/-! # Programs of a worker

Each request of `handleMessage` is made in the stage of the delivery that `Change`
asks for, whatever other workers and the environment do meanwhile.
-/

namespace BankingBackend.Messaging

open Foundation

/-! ## Programs -/

section Programs

variable {Worker : Type} [DecidableEq Worker] (deployment : Deployment Worker)
  (permits : Worker → Command → Choice → State Worker → Prop) (worker : Worker)

structure Rely (worker : Worker) (before after : State Worker) : Prop where
  message : (after.handling worker).message = (before.handling worker).message
  progress : (after.handling worker).progress = (before.handling worker).progress

def Acted (before after : State Worker) : Prop :=
  ∃ command choice, permits worker command choice before ∧
    (before.handling worker).crashed = false ∧
    Change deployment.config (deployment.consumers worker) worker before command choice after

abbrev Meets {α : Type} (program : Service α) (post : Except Thrown α → State Worker → Prop)
    (state : State Worker) : Prop :=
  EnsuresResult ((deployment.machine.restrict permits).perform worker) (Rely worker)
    (Acted deployment permits worker) program post state

def State.Claims (state : State Worker) (worker : Worker) (msg : Message) (messageId : String) :
    Prop :=
  ∃ progress, state.Handles worker msg progress ∧ progress.claimed? = some messageId

variable {deployment permits worker} {state before : State Worker} {msg : Message}
  {message : ParsedMessage} {messageId : String} {progress : Progress}

omit [DecidableEq Worker] in
theorem Rely.refl (state : State Worker) : Rely worker state state := ⟨rfl, rfl⟩

omit [DecidableEq Worker] in
theorem Rely.trans {after : State Worker} (first : Rely worker state before)
    (second : Rely worker before after) : Rely worker state after :=
  ⟨second.message.trans first.message, second.progress.trans first.progress⟩

omit [DecidableEq Worker] in
theorem Rely.handles (rely : Rely worker state before) (handles : state.Handles worker msg progress) :
    before.Handles worker msg progress :=
  ⟨rely.message.trans handles.1, rely.progress.trans handles.2⟩

theorem meets_request {command : Command} {stage : command.Answer → State Worker → Prop}
    (steps : ∀ before, Rely worker state before → ∀ choice answer after,
      State.perform deployment.consumers deployment.config.topology worker command choice before =
        some (answer, after) →
      Change deployment.config (deployment.consumers worker) worker before command choice after ∧
        stage answer after) :
    Meets deployment permits worker (request command) (Answers stage) state := by
  refine .request fun before rely choice answer after performed => ?_
  rcases Machine.restrict_perform performed with ⟨permitted, performed⟩
  have step := steps before rely choice answer after performed
  exact ⟨⟨command, choice, permitted, alive_of_performed performed, step.1⟩, step.2⟩

theorem meets_orThrow {α : Type} {result : Except Thrown α}
    {post : Except Thrown α → State Worker → Prop} (holds : post result state) :
    Meets deployment permits worker (orThrow result) post state := by
  cases result with
  | ok value => exact .pure holds
  | error error => exact .throw holds

theorem meets_result {α β : Type} {result : Except Thrown α} {next : α → Service β}
    {post : Except Thrown β → State Worker → Prop}
    (fails : ∀ error, result = .error error → post (.error error) state)
    (continues : ∀ value, result = .ok value →
      Meets deployment permits worker (next value) post state) :
    Meets deployment permits worker (orThrow result >>= next) post state := by
  cases result with
  | ok value => exact continues value rfl
  | error error => exact .throw (fails error rfl)

theorem meets_throwing {α β : Type} {program : Service (Except Thrown α)} {next : α → Service β}
    {post : Except Thrown β → State Worker → Prop} (stage : Except Thrown α → State Worker → Prop)
    (asked : Meets deployment permits worker program (Answers stage) state)
    (fails : ∀ error final, stage (.error error) final → post (.error error) final)
    (continues : ∀ value between, stage (.ok value) between →
      Meets deployment permits worker (next value) post between) :
    Meets deployment permits worker (program >>= fun answer => orThrow answer >>= next) post state :=
  .answers stage asked fun _ _ holds => .bind (meets_orThrow holds) fails continues

/-! ### The dispatchers -/

omit [DecidableEq Worker] in
theorem State.Handles.claims (handles : state.Handles worker msg (.dispatching messageId)) :
    state.Claims worker msg messageId := ⟨_, handles, rfl⟩

/-- A side effect is asked for once, after the claim. -/
theorem meets_output {command : Command}
    (handles : state.Handles worker msg (.dispatching messageId))
    (performs : ∀ before choice answer after,
      State.perform deployment.consumers deployment.config.topology worker command choice before =
        some (answer, after) →
      ∃ output, after = before.output worker (deployment.consumers worker) choice output) :
    Meets deployment permits worker (request command)
      (Answers fun _ final => final.Claims worker msg messageId) state := by
  refine meets_request fun before rely choice answer after performed => ?_
  rcases performs before choice answer after performed with ⟨output, rfl⟩
  have changed := output_cases deployment.config deployment.consumers choice output command
    (rely.handles handles)
  exact ⟨changed.1, _, changed.2, rfl⟩

theorem meets_record (input : AuditRecordInput) (outcome : Postgres.Outcome)
    (handles : state.Handles worker msg (.dispatching messageId)) :
    Meets deployment permits worker (record input outcome)
      (fun _ final => final.Claims worker msg messageId) state := by
  refine .answers _ (meets_output handles fun before choice answer after performed => ?_)
    fun _ _ claims => meets_orThrow claims
  have alive := alive_of_performed performed
  simp only [State.perform, alive, Bool.false_eq_true, if_false, Option.some.injEq,
    Prod.mk.injEq] at performed
  exact ⟨_, performed.2.symm⟩

theorem meets_dispatch (config : ConsumerConfig) (type payload : Option Json)
    (handles : state.Handles worker msg (.dispatching messageId)) :
    Meets deployment permits worker (dispatch config type payload)
      (fun _ final => final.Claims worker msg messageId) state := by
  have validated {next : ValidatedPayload → Service Unit}
      (continues : ∀ validated, Meets deployment permits worker (next validated)
        (fun _ final => final.Claims worker msg messageId) state) :
      Meets deployment permits worker
        (orThrow (validateTransactionEventPayload payload) >>= next)
        (fun _ final => final.Claims worker msg messageId) state :=
    meets_result (fun _ _ => handles.claims) fun validated _ => continues validated
  unfold dispatch
  split
  · exact validated fun _ => meets_record _ _ handles
  · split
    · exact validated fun _ => meets_record _ _ handles
    · exact .throw handles.claims

theorem meets_send (config : EmailConfig) (message : EmailMessage)
    (handles : state.Handles worker msg (.dispatching messageId)) :
    Meets deployment permits worker (send config message)
      (fun _ final => final.Claims worker msg messageId) state := by
  unfold send
  split
  · split
    · unfold sendgridSend
      split
      · exact .throw handles.claims
      · exact .throw handles.claims
    · unfold smtpSend
      split
      · exact .throw handles.claims
      · refine .answers _ (meets_output handles fun before choice answer after performed => ?_)
          fun _ _ claims => meets_orThrow claims
        have alive := alive_of_performed performed
        simp only [State.perform, alive, Bool.false_eq_true, if_false, Option.some.injEq,
          Prod.mk.injEq] at performed
        exact ⟨_, performed.2.symm⟩
  · exact .pure handles.claims

theorem meets_findCustomer (actorId : String)
    (handles : state.Handles worker msg (.dispatching messageId)) :
    Meets deployment permits worker (findCustomer actorId)
      (fun _ final => final.Handles worker msg (.dispatching messageId)) state := by
  refine meets_throwing (fun _ final => final.Handles worker msg (.dispatching messageId))
    (meets_request fun before rely choice answer after performed => ?_) (fun _ _ => id)
    fun found between stays => ?_
  · have alive := alive_of_performed performed
    simp only [State.perform, alive, Bool.false_eq_true, if_false, Option.some.injEq,
      Prod.mk.injEq] at performed
    rw [← performed.2]
    exact ⟨.observes, rely.handles handles⟩
  · cases found with
    | some customer => exact .pure stays
    | none => exact .throw stays

theorem meets_dispatchEmail (config : ConsumerConfig) (type payload : Option Json)
    (handles : state.Handles worker msg (.dispatching messageId)) :
    Meets deployment permits worker (dispatchEmail config type payload)
      (fun _ final => final.Claims worker msg messageId) state := by
  have mails {α : Type} (validated : Except Thrown α) (actorId : α → String)
      (content : α → CustomerContact → String × String) :
      Meets deployment permits worker
        (orThrow validated >>= fun validated => findCustomer (actorId validated) >>= fun customer =>
          sendTo config customer (content validated customer))
        (fun _ final => final.Claims worker msg messageId) state := by
    refine meets_result (fun _ _ => handles.claims) fun validated _ => ?_
    refine .bind (meets_findCustomer (actorId validated) handles)
      (fun _ _ stays => stays.claims) fun customer between stays => ?_
    exact meets_send _ _ stays
  unfold dispatchEmail
  split
  · exact mails _ _ fun validated customer => buildTransactionEmailContent config customer.name
      (isType type "TRANSACTION_COMPLETED") validated
  · split
    · exact mails _ _ fun _ customer => buildWelcomeEmailContent customer.name
    · exact .throw handles.claims

/-! ### `handleMessage` -/

/-- What is given back can be retried or rejected; a message that cannot be claimed at all
is not retried. -/
def Returnable (config : ConsumerConfig) (worker : Worker) (msg : Message) (error : Thrown)
    (state : State Worker) : Prop :=
  (∃ message, parseMessage config msg = .ok message) ∧ state.Handles worker msg .failed ∨
    isTransientConsumerError error = false ∧ state.Handles worker msg .received

def ClaimEnds (config : ConsumerConfig) (worker : Worker) (msg : Message) :
    Except Thrown (ParsedMessage × Bool) → State Worker → Prop
  | .ok (message, claimed), final =>
      parseMessage config msg = .ok message ∧
        final.Handles worker msg (if claimed then .dispatching message.messageId else .settled)
  | .error error, final => Returnable config worker msg error final

theorem permanent_of_schemaVersion {value : Option Json} {error : Thrown}
    (fails : assertSupportedSchemaVersion value = .error error) :
    isTransientConsumerError error = false := by
  unfold assertSupportedSchemaVersion at fails
  split at fails
  · cases fails
    rfl
  · split at fails
    · cases fails
      rfl
    · split at fails
      · cases fails
        rfl
      · cases fails

theorem permanent_of_content {content : Content} {error : Thrown}
    (fails : parseConsumedEventMessage content = .error error) :
    isTransientConsumerError error = false := by
  unfold parseConsumedEventMessage at fails
  split at fails
  · cases fails
    rfl
  · cases fails
    rfl
  · rename_i parsed notNull
    split at fails
    · cases version : assertSupportedSchemaVersion (parsed.property "schemaVersion") with
      | error thrown =>
          rw [version] at fails
          cases fails
          exact permanent_of_schemaVersion version
      | ok supported =>
          rw [version] at fails
          cases fails
    · cases fails
      rfl

/-- No error of parsing is transient. -/
theorem permanent_of_parse {config : ConsumerConfig} {error : Thrown}
    (fails : parseMessage config msg = .error error) : isTransientConsumerError error = false := by
  unfold parseMessage at fails
  cases content : parseConsumedEventMessage msg.content with
  | error thrown =>
      rw [content] at fails
      cases fails
      exact permanent_of_content content
  | ok parsed =>
      simp only [content, bind, Except.bind] at fails
      split at fails
      · cases fails
      · cases fails
        rfl

theorem meets_claim (received : state.Handles worker msg .received) :
    Meets deployment permits worker (claim deployment.config msg)
      (ClaimEnds deployment.config worker msg) state := by
  refine meets_result (fun error fails => .inr ⟨permanent_of_parse fails, received⟩)
    fun message parsed => ?_
  refine meets_throwing (fun answer final =>
      final.Handles worker msg (.afterClaim message.messageId answer))
    (meets_request fun before rely choice answer after performed =>
      perform_claim (rely.handles received) parsed performed)
    (fun error final failed => .inl ⟨⟨message, parsed⟩, failed⟩) fun claimed between handles => ?_
  refine .pure ⟨parsed, ?_⟩
  cases claimed with
  | true => exact handles
  | false => exact handles

/-- The message is completed, or the worker still holds its claim. -/
def Processed (worker : Worker) (msg : Message) (messageId : String) :
    Except Thrown Unit → State Worker → Prop
  | .ok _, final => final.Handles worker msg .settled
  | .error _, final => final.Claims worker msg messageId

theorem meets_markCompleted (parsed : parseMessage deployment.config msg = .ok message)
    (claims : state.Claims worker msg message.messageId) :
    Meets deployment permits worker (markCompleted (deployment.consumers worker) message.messageId)
      (Processed worker msg message.messageId) state := by
  rcases claims with ⟨progress, handles, claimed⟩
  refine meets_throwing
    (fun answer final => final.Handles worker msg (progress.afterCompletion answer))
    (meets_request fun before rely choice answer after performed =>
      perform_markCompleted (rely.handles handles) claimed parsed performed)
    (fun error final failed => ⟨progress, failed, claimed⟩) fun updated between handles => ?_
  by_cases one : updated = 1
  · subst updated
    exact .pure handles
  · have unfinished : progress.afterCompletion (.ok updated) = progress := by
      unfold Progress.afterCompletion
      split
      · rename_i completed
        cases completed
        exact absurd rfl one
      · rfl
    rw [unfinished] at handles
    rw [if_pos one]
    exact .throw ⟨progress, handles, claimed⟩

theorem meets_process (parsed : parseMessage deployment.config msg = .ok message)
    (handles : state.Handles worker msg (.dispatching message.messageId)) :
    Meets deployment permits worker
      (process deployment.config (deployment.consumers worker) message)
      (Processed worker msg message.messageId) state := by
  have completed {program : Service Unit}
      (dispatched : Meets deployment permits worker program
        (fun _ final => final.Claims worker msg message.messageId) state) :
      Meets deployment permits worker
        (program >>= fun _ => markCompleted (deployment.consumers worker) message.messageId)
        (Processed worker msg message.messageId) state :=
    .bind dispatched (fun _ _ => id) fun _ _ claims => meets_markCompleted parsed claims
  unfold process
  split
  · exact completed (meets_dispatch _ _ _ handles)
  · exact completed (meets_dispatchEmail _ _ _ handles)

def Republished (worker : Worker) (msg : Message) : Except Thrown Bool → State Worker → Prop
  | .ok true, final => final.Handles worker msg .settled
  | .ok false, final => ∃ progress, final.Handles worker msg progress ∧
      (progress = .received ∨ progress = .failed ∨ progress = .returned)
  | .error _, _ => True

theorem meets_republish {error : Thrown}
    (returnable : Returnable deployment.config worker msg error state) :
    Meets deployment permits worker (republish deployment.config msg error)
      (Republished worker msg) state := by
  simp only [republish]
  split
  · rename_i retried
    rcases returnable with ⟨⟨message, parsed⟩, failed⟩ | ⟨permanent, _⟩
    · unfold republishForRetry
      split
      · exact .pure ⟨.failed, failed, .inr (.inl rfl)⟩
      · rename_i addressed
        refine .answers (fun answer final => final.Handles worker msg (.afterPublish answer))
          (meets_request fun before rely choice answer after performed =>
            perform_publish (rely.handles failed) parsed (not_or.mp addressed) retried.2 performed)
          fun answer final handles => meets_orThrow ?_
        cases answer with
        | error error => trivial
        | ok republished =>
            cases republished with
            | true => exact handles
            | false => exact ⟨.returned, handles, .inr (.inr rfl)⟩
    · rw [permanent] at retried
      cases retried.1
  · rcases returnable with ⟨_, failed⟩ | ⟨_, received⟩
    · exact .pure ⟨.failed, failed, .inr (.inl rfl)⟩
    · exact .pure ⟨.received, received, .inl rfl⟩

theorem meets_safeAck (settled : state.Handles worker msg .settled) :
    Meets deployment permits worker safeAck (fun _ _ => True) state := by
  refine .answers (fun _ _ => True)
    (meets_request fun before rely choice answer after performed => ?_) fun _ _ _ => .pure trivial
  exact ⟨perform_ack (rely.handles settled).2 performed, trivial⟩

theorem meets_safeNack (handles : state.Handles worker msg progress)
    (gives : progress = .received ∨ progress = .failed ∨ progress = .returned) :
    Meets deployment permits worker safeNack (fun _ _ => True) state := by
  refine .answers (fun _ _ => True)
    (meets_request fun before rely choice answer after performed => ?_) fun _ _ _ => .pure trivial
  exact ⟨perform_nack (rely.handles handles) gives performed, trivial⟩

theorem meets_giveBack {error : Thrown}
    (returnable : Returnable deployment.config worker msg error state) :
    Meets deployment permits worker (giveBack deployment.config msg error) (fun _ _ => True)
      state := by
  refine .bind (meets_republish returnable) (fun _ _ _ => trivial) fun republished between ends => ?_
  cases republished with
  | true => exact meets_safeAck ends
  | false =>
      rcases ends with ⟨progress, handles, gives⟩
      exact meets_safeNack handles gives

theorem meets_markFailed {error : Thrown}
    (parsed : parseMessage deployment.config msg = .ok message)
    (claims : state.Claims worker msg message.messageId) :
    Meets deployment permits worker (markFailed message.messageId error)
      (Answers fun _ final => final.Handles worker msg .failed) state := by
  rcases claims with ⟨progress, handles, claimed⟩
  exact .answers (fun _ final => final.Handles worker msg .failed)
    (meets_request fun before rely choice answer after performed =>
      perform_markFailed (rely.handles handles) claimed parsed performed)
    fun _ _ failed => .pure failed

theorem meets_handleMessage (received : state.Handles worker msg .received) :
    Meets deployment permits worker
      (handleMessage deployment.config (deployment.consumers worker) msg) (fun _ _ => True)
      state := by
  unfold handleMessage
  refine .attempt (meets_claim received) fun outcome between ends => ?_
  cases outcome with
  | error error => exact meets_giveBack ends
  | ok result =>
      rcases result with ⟨message, claimed⟩
      rcases ends with ⟨parsed, handles⟩
      cases claimed with
      | false => exact meets_safeAck handles
      | true =>
          refine .attempt (meets_process parsed handles) fun outcome between processed => ?_
          cases outcome with
          | ok _ => exact meets_safeAck processed
          | error error =>
              exact .answers _ (meets_markFailed parsed processed) fun _ _ failed =>
                meets_giveBack (.inl ⟨⟨message, parsed⟩, failed⟩)

theorem meets_consume (idle : (state.handling worker).progress = .idle) :
    Meets deployment permits worker
      (consume deployment.config (deployment.consumers worker)) (fun _ _ => True) state := by
  refine .answers (fun msg final => final.Handles worker msg .received)
    (meets_request fun before rely choice msg after performed => ?_)
    fun msg between received => meets_handleMessage received
  exact perform_receive (rely.progress.trans idle) performed

end Programs

/-! ## Interleavings -/

section Interleavings

variable {Worker : Type} [DecidableEq Worker] {config : ConsumerConfig} {consumer : Consumer}
  {consumers : Worker → Consumer} {topology : Topology} {worker other : Worker}
  {before after : State Worker} {command : Command} {choice : Choice}

theorem Rely.requeue (other : Worker) (consumer : Consumer) :
    Rely worker before (before.requeue other consumer) := by
  unfold State.requeue
  split
  · split
    · by_cases same : worker = other
      · subst worker
        constructor <;> simp
      · constructor <;> simp [same]
    · exact .refl _
  · exact .refl _

/-- The environment takes messages back, but no worker forgets its delivery. -/
theorem Rely.environment {event : Occurrence Worker}
    (happened : State.environment consumers topology event before = some after) :
    Rely worker before after := by
  cases event with
  | publish message =>
      cases happened
      exact ⟨rfl, rfl⟩
  | crash other =>
      cases happened
      refine (Rely.requeue other (consumers other)).trans ?_
      unfold State.crash
      by_cases same : worker = other
      · subst worker
        constructor <;> simp
      · constructor <;> simp [same]
  | disconnect other =>
      cases happened
      exact .requeue other (consumers other)
  | tick now =>
      simp only [State.environment, Option.ite_none_right_eq_some, Option.some.injEq] at happened
      rcases happened with ⟨_, rfl⟩
      exact ⟨rfl, rfl⟩

theorem environment_rows {event : Occurrence Worker}
    (happened : State.environment consumers topology event before = some after) :
    after.rows = before.rows := by
  cases event with
  | publish message =>
      cases happened
      rfl
  | crash other =>
      cases happened
      exact State.requeue_rows
  | disconnect other =>
      cases happened
      exact State.requeue_rows
  | tick now =>
      simp only [State.environment, Option.ite_none_right_eq_some, Option.some.injEq] at happened
      rcases happened with ⟨_, rfl⟩
      rfl

theorem environment_effects {event : Occurrence Worker}
    (happened : State.environment consumers topology event before = some after) :
    after.effects = before.effects := by
  cases event with
  | publish message =>
      cases happened
      rfl
  | crash other =>
      cases happened
      exact State.requeue_effects
  | disconnect other =>
      cases happened
      exact State.requeue_effects
  | tick now =>
      simp only [State.environment, Option.ite_none_right_eq_some, Option.some.injEq] at happened
      rcases happened with ⟨_, rfl⟩
      rfl

theorem living_of_environment {event : Occurrence Worker}
    (happened : State.environment consumers topology event before = some after)
    (living : (after.handling worker).crashed = false) :
    (before.handling worker).crashed = false := by
  cases event with
  | publish message =>
      cases happened
      exact living
  | crash other =>
      cases happened
      by_cases same : worker = other
      · subst other
        simp [State.crash] at living
      · simp only [State.crash, State.setHandling_handling, Function.update_of_ne same] at living
        rwa [State.requeue_crashed] at living
  | disconnect other =>
      cases happened
      rwa [State.requeue_crashed] at living
  | tick now =>
      simp only [State.environment, Option.ite_none_right_eq_some, Option.some.injEq] at happened
      rcases happened with ⟨_, rfl⟩
      exact living

end Interleavings

/-! ## Conditions on runs -/

section Conditions

variable {Worker : Type} [DecidableEq Worker]

/-- What the answers to the workers and the environment are restricted to. -/
structure Condition (Worker : Type) where
  permits : Worker → Command → Choice → State Worker → Prop := fun _ _ _ _ => True
  happens : Occurrence Worker → State Worker → Prop := fun _ _ => True

def Condition.allowed (condition : Condition Worker) (current : Configuration Worker) :
    Label Worker → Prop
  | .perform worker choice => ∀ command next, current.program worker = .call command next →
      condition.permits worker command choice current.shared
  | .environment event => condition.happens event current.shared

def Condition.allowedEnvironment (condition : Condition Worker) (current : Configuration Worker) :
    Label Worker → Prop
  | .perform _ _ => True
  | .environment event => condition.happens event current.shared

structure Invariant (deployment : Deployment Worker) (condition : Condition Worker) where
  holds : State Worker → Prop
  acts : ∀ {worker before after}, holds before →
    Acted deployment condition.permits worker before after → holds after
  environment : ∀ {event before after}, holds before → condition.happens event before →
    State.environment deployment.consumers deployment.config.topology event before = some after →
    holds after

variable {deployment : Deployment Worker} {condition : Condition Worker}

theorem Condition.restricts {current following : Configuration Worker} {label : Label Worker}
    (permitted : condition.allowed current label)
    (taken : deployment.step current label = some following) :
    condition.allowedEnvironment current label ∧
      (deployment.machine.restrict condition.permits).step current label = some following := by
  constructor
  · cases label with
    | perform worker choice => trivial
    | environment event => exact permitted
  · refine Machine.restrict_step taken ?_
    rintro worker choice command next rfl program
    exact permitted command next program

namespace Invariant

variable (invariant : Invariant deployment condition)

noncomputable def discipline : Discipline (deployment.machine.restrict condition.permits) Result where
  start := deployment.program
  allowed := condition.allowedEnvironment
  invariant := invariant.holds
  rely := Rely
  guarantee := Acted deployment condition.permits
  ready worker state := (state.handling worker).progress = .idle
  post _ _ _ := True
  rely_refl _ := .refl
  rely_trans _ _ _ _ := .trans
  begins _ idle := meets_consume idle
  keeps := invariant.acts
  interference different _ _ _ _ _ acted := by
    rcases acted with ⟨command, choice, _, _, change⟩
    have same := change.others different
    exact ⟨by rw [same], by rw [same]⟩
  ready_stable different _ acted idle := by
    rcases acted with ⟨command, choice, _, _, change⟩
    rwa [change.others different]
  post_stable _ _ _ := id
  environment permitted holds happened := by
    refine ⟨invariant.environment holds permitted happened, fun worker => ?_⟩
    have rely : Rely worker _ _ := .environment happened
    exact ⟨rely, fun idle => rely.progress.trans idle, fun _ => id⟩

theorem sound {now : ℕ} {current : Configuration Worker}
    (initially : invariant.holds (deployment.initial now).shared)
    (run : Run deployment.step condition.allowed (deployment.initial now) current) :
    invariant.discipline.Sound current := by
  refine run.invariant _ ⟨initially, fun _ => .waiting rfl rfl rfl⟩ ?_
  intro current label following sound permitted taken
  have step := Condition.restricts permitted taken
  exact sound.step step.1 step.2

/-- Every interleaving whose steps meet the condition keeps the invariant. -/
theorem reached {now : ℕ} {current : Configuration Worker}
    (initially : invariant.holds (deployment.initial now).shared)
    (run : Run deployment.step condition.allowed (deployment.initial now) current) :
    invariant.holds current.shared := (invariant.sound initially run).1

end Invariant

end Conditions

end BankingBackend.Messaging
