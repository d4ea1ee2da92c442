import BankingBackend.Messaging.Answers
import BankingBackend.Messaging.Handling
import BankingBackend.Messaging.Outputs

/-! # Where outputs come from

The messages in the queues are those that were published, but for their headers. So
whatever is written or sent is made of a published message.
-/

namespace BankingBackend.Messaging

open Foundation

/-! ## Messages in the queues -/

section Stock

variable {Worker : Type} [DecidableEq Worker] {admits more : Message → Prop}
  {state before after : State Worker} {worker : Worker} {consumer : Consumer}

omit [DecidableEq Worker] in
/-- The messages that are queued or handed to a worker, but for their headers. -/
structure Stocked (admits : Message → Prop) (state : State Worker) : Prop where
  queued : ∀ consumer, ∀ msg ∈ state.queue consumer, admits msg.body
  held : ∀ worker, ∀ msg ∈ (state.handling worker).message, admits msg.body

omit [DecidableEq Worker] in
theorem Stocked.mono (stocked : Stocked admits state) (grow : ∀ msg, admits msg → more msg) :
    Stocked more state where
  queued consumer msg member := grow _ (stocked.queued consumer msg member)
  held worker msg holds := grow _ (stocked.held worker msg holds)

theorem Stocked.setHandling (stocked : Stocked admits state) {handling : Handling}
    (own : ∀ msg ∈ handling.message, admits msg.body) :
    Stocked admits (state.setHandling worker handling) where
  queued := stocked.queued
  held other msg holds := by
    rw [State.setHandling_handling] at holds
    by_cases same : other = worker
    · subst same
      rw [Function.update_self] at holds
      exact own msg holds
    · rw [Function.update_of_ne same] at holds
      exact stocked.held other msg holds

theorem Stocked.advance (stocked : Stocked admits state) (progress : Progress) :
    Stocked admits (state.advance worker progress) :=
  stocked.setHandling (stocked.held worker)

omit [DecidableEq Worker] in
theorem Stocked.setRow (stocked : Stocked admits state) (messageId : String)
    (row : ProcessedMessage Worker) : Stocked admits (state.setRow consumer messageId row) :=
  ⟨stocked.queued, stocked.held⟩

omit [DecidableEq Worker] in
theorem Stocked.enqueue (stocked : Stocked admits state) (topology : Topology) {msg : Message}
    (admitted : admits msg.body) : Stocked admits (state.enqueue topology msg) where
  queued consumer copy member := by
    rcases State.mem_enqueue.mp member with kept | ⟨_, rfl⟩
    · exact stocked.queued consumer copy kept
    · exact admitted
  held := stocked.held

omit [DecidableEq Worker] in
theorem Stocked.setQueue (stocked : Stocked admits state) {messages : List Message}
    (own : ∀ msg ∈ messages, admits msg.body) : Stocked admits
      { state with queue := Function.update state.queue consumer messages } where
  queued other msg member := by
    change msg ∈ Function.update state.queue consumer messages other at member
    by_cases same : other = consumer
    · subst same
      rw [Function.update_self] at member
      exact own msg member
    · rw [Function.update_of_ne same] at member
      exact stocked.queued other msg member
  held := stocked.held

theorem Stocked.requeue (stocked : Stocked admits state) :
    Stocked admits (state.requeue worker consumer) := by
  rcases state.requeue_cases worker consumer with same | ⟨message, holds, _, result⟩
  · rw [same]
    exact stocked
  · rw [result]
    have queued : ∀ msg ∈ message :: state.queue consumer, admits msg.body := by
      intro msg member
      rcases List.mem_cons.mp member with rfl | member
      · exact stocked.held worker msg holds
      · exact stocked.queued consumer msg member
    exact (stocked.setQueue queued).setHandling (stocked.held worker)

theorem Stocked.deadLetter (stocked : Stocked admits state) :
    Stocked admits (state.deadLetter worker consumer) := by
  unfold State.deadLetter
  split
  · apply Stocked.setHandling
    · exact ⟨stocked.queued, stocked.held⟩
    · exact stocked.held worker
  · exact stocked

theorem Stocked.receive (stocked : Stocked admits state) {position : ℕ} {msg : Message}
    (queued : (state.queue consumer)[position]? = some msg) :
    Stocked admits (state.receive worker consumer position msg) := by
  have left : ∀ copy ∈ (state.queue consumer).eraseIdx position, admits copy.body :=
    fun copy member => stocked.queued consumer copy (List.mem_of_mem_eraseIdx member)
  apply (stocked.setQueue left).setHandling
  rintro copy ⟨⟩
  exact stocked.queued consumer msg (List.mem_of_getElem? queued)

theorem Stocked.output (stocked : Stocked admits state) (choice : Choice) (output : Output) :
    Stocked admits (state.output worker consumer choice output) := by
  rcases state.output_cases worker consumer choice output with same | same
  · rw [same]
    exact stocked.advance _
  · rw [same]
    have recorded : Stocked admits (state.record worker consumer output) :=
      ⟨stocked.queued, stocked.held⟩
    exact recorded.advance _

omit [DecidableEq Worker] in
theorem Stocked.rowWrite {messageId : String} {written : ProcessedMessage Worker → Prop}
    (stocked : Stocked admits before) (write : RowWrite consumer messageId written before after) :
    Stocked admits after := by
  cases write with
  | skips => exact stocked
  | writes row _ => exact stocked.setRow messageId row

/-- A request leaves no message behind but those that were there and those it publishes. -/
theorem Stocked.performed {topology : Topology} {command : Command} {choice : Choice}
    {answer : command.Answer} (stocked : Stocked admits before)
    (copies : ∀ copy, command = .publish copy → admits copy.body)
    (performed : Performed consumer topology worker choice before command answer after) :
    Stocked admits after := by
  cases performed with
  | receives queued => exact stocked.receive queued
  | @claims messageId _ _ row taken =>
      have granted : Stocked admits ((before.setRow consumer messageId row).advance
          worker (.dispatching messageId)) := (stocked.setRow messageId row).advance _
      exact ⟨granted.queued, granted.held⟩
  | unclaimed refused write => exact (stocked.rowWrite write).advance _
  | completes => exact (stocked.setRow _ _).advance _
  | uncompleted write => exact stocked.rowWrite write
  | marks write => exact (stocked.rowWrite write).advance _
  | audits => exact stocked.output choice _
  | mails => exact stocked.output choice _
  | finds | unpublished | unacked | unrejected => exact stocked
  | @publishes msg => exact (stocked.enqueue topology (copies msg rfl)).advance _
  | acks => exact stocked.setHandling (stocked.held worker)
  | requeues => exact stocked.requeue
  | deadLetters => exact stocked.deadLetter

end Stock

/-! ## Runs -/

section Runs

variable {Worker : Type} [DecidableEq Worker] {deployment : Deployment Worker}
  {admits more : Message → Prop} {contacts further : String → CustomerContact → Prop}
  {current following : Configuration Worker}

structure Track.Sourced (admits : Message → Prop) (contacts : String → CustomerContact → Prop)
    (track : Track) : Prop where
  received : ∀ msg ∈ track.received, admits msg.body
  contacts : ∀ id customer, track.contacts id customer → contacts id customer

omit [DecidableEq Worker] in
/-- All messages are admitted, and all outputs are made of them with the contacts, under
their identifiers. -/
structure Sourced (deployment : Deployment Worker) (admits : Message → Prop)
    (contacts : String → CustomerContact → Prop) (current : Configuration Worker) : Prop where
  stocked : Stocked admits current.shared
  effects : ∀ effect ∈ current.shared.effects, ∃ msg messageId, admits msg.body ∧
    keyOf deployment.config msg = some messageId ∧ effect.messageId = some messageId ∧
    Derived deployment.config contacts msg effect.consumer effect.output
  tracks : ∀ worker, ∃ track : Track, track.Sourced admits contacts ∧
    track.received = (current.shared.handling worker).message ∧
    (handles deployment.config (deployment.consumers worker)).Follows (fun _ _ => True)
      (current.program worker) track

omit [DecidableEq Worker] in
theorem sourced_initial (deployment : Deployment Worker) (admits : Message → Prop)
    (contacts : String → CustomerContact → Prop) (now : ℕ) :
    Sourced deployment admits contacts (deployment.initial now) where
  stocked := by
    constructor
    · rintro consumer msg ⟨⟩
    · rintro worker msg ⟨⟩
  effects := by
    rintro effect ⟨⟩
  tracks worker := by
    refine ⟨{}, ⟨?_, ?_⟩, rfl, follows_consume _ _⟩
    · rintro msg ⟨⟩
    · rintro id customer ⟨⟩

omit [DecidableEq Worker] in
theorem Sourced.mono (sourced : Sourced deployment admits contacts current)
    (grow : ∀ msg, admits msg → more msg)
    (found : ∀ id customer, contacts id customer → further id customer) :
    Sourced deployment more further current where
  stocked := sourced.stocked.mono grow
  effects effect member := by
    rcases sourced.effects effect member with ⟨msg, messageId, admitted, key, named, derived⟩
    exact ⟨msg, messageId, grow _ admitted, key, named, derived.mono found⟩
  tracks worker := by
    rcases sourced.tracks worker with ⟨track, known, same, follows⟩
    exact ⟨track, ⟨fun msg received => grow _ (known.received msg received),
      fun id customer contact => found _ _ (known.contacts id customer contact)⟩, same, follows⟩

/-- Admitted messages are published, and the customers that are found are known. -/
def Supplied (admits : Message → Prop) (contacts : String → CustomerContact → Prop)
    (current : Configuration Worker) : Label Worker → Prop
  | .environment (.publish msg) => admits msg.body
  | .environment _ => True
  | .perform worker choice => ∀ id next, current.program worker = .call (.customerFindUnique id) next →
      ∀ customer ∈ choice.customer, contacts id customer

theorem Track.Sourced.after {track : Track} {consumers : Worker → Consumer} {topology : Topology}
    {worker : Worker} {command : Command} {choice : Choice} {before after : State Worker}
    {answer : command.Answer} (known : track.Sourced admits contacts)
    (stocked : Stocked admits before)
    (found : ∀ id, command = .customerFindUnique id →
      ∀ customer ∈ choice.customer, contacts id customer)
    (performed : State.perform consumers topology worker command choice before =
      some (answer, after)) : (track.after command answer).Sourced admits contacts := by
  have alive := alive_of_performed performed
  simp only [State.perform, alive, Bool.false_eq_true, if_false] at performed
  cases command with
  | receive =>
      rcases Option.map_eq_some_iff.mp performed with ⟨msg, queued, same⟩
      cases same
      have received : ∀ copy ∈ some answer, admits copy.body := by
        rintro _ ⟨⟩
        exact stocked.queued _ answer (List.mem_of_getElem? queued)
      exact ⟨received, known.contacts⟩
  | customerFindUnique id =>
      have answered : choice.answer choice.customer = answer :=
        congrArg Prod.fst (Option.some.inj performed)
      cases answer with
      | error error => exact known
      | ok customer =>
          cases customer with
          | none => exact known
          | some customer =>
              refine ⟨known.received, ?_⟩
              rintro _ _ ⟨⟩
              apply found id rfl
              unfold Choice.answer at answered
              split at answered
              · exact Except.ok.inj answered
              · cases answered
  | _ => exact known

theorem Track.after_received {track : Track} {consumer : Consumer} {topology : Topology}
    {worker : Worker} {command : Command} {choice : Choice} {before after : State Worker}
    {answer : command.Answer} (same : track.received = (before.handling worker).message)
    (performed : Performed consumer topology worker choice before command answer after) :
    (track.after command answer).received = (after.handling worker).message := by
  cases command with
  | receive =>
      cases performed with
      | receives queued => simp [Track.after, State.receive]
  | customerFindUnique id =>
      rw [performed.message (by rintro ⟨⟩), ← same]
      cases answer with
      | error error => rfl
      | ok customer =>
          cases customer with
          | none => rfl
          | some customer => rfl
  | _ =>
      rw [performed.message (by rintro ⟨⟩), ← same]
      rfl

/-! ### The claim behind an output -/

/-- A worker that is about to produce an output has claimed its message. -/
def Labelled (config : ConsumerConfig) (state : State Worker) : Prop :=
  ∀ worker msg messageId, state.Handles worker msg (.dispatching messageId) →
    keyOf config msg = some messageId

theorem Labelled.change {config : ConsumerConfig} {consumer : Consumer} {worker : Worker}
    {command : Command} {choice : Choice} {before after : State Worker}
    (labelled : Labelled config before)
    (change : Change config consumer worker before command choice after) :
    Labelled config after := by
  intro other msg messageId handles
  by_cases same : other = worker
  · subst same
    rcases handles with ⟨message, progress⟩
    cases change with
    | receives idle queued => simp [State.receive] at progress
    | claims received parsed succeeds taken =>
        simp only [State.grant, State.advance_handling, State.setRow_handling,
          Progress.dispatching.injEq] at message progress
        rw [received.1] at message
        cases message
        rw [keyOf_of_parsed parsed, progress]
    | completionFails handles claimed parsed write =>
        rw [write.handling] at message progress
        exact labelled other msg messageId ⟨message, progress⟩
    | observes => exact labelled other msg messageId ⟨message, progress⟩
    | acks settled =>
        simp only [State.ack, State.setHandling_handling, Function.update_self] at progress
        rw [settled] at progress
        cases progress
    | rejects handles gives =>
        simp only [State.deadLetter, handles.1] at progress
        simp at progress
    | publishes failed unacked parsed addressed remain =>
        rw [State.advance_handling] at progress
        cases written : choice.writable <;> simp [written] at progress
    | refuses | claimFails | completes | marks | outputs =>
        simp at progress
  · have kept := change.others same
    unfold State.Handles at handles
    rw [kept] at handles
    exact labelled other msg messageId handles

/-- Only a worker that has claimed its message changes the outputs. -/
theorem Change.effects {config : ConsumerConfig} {consumer : Consumer} {worker : Worker}
    {command : Command} {choice : Choice} {before after : State Worker}
    (change : Change config consumer worker before command choice after) :
    after.effects = before.effects ∨
      ∃ msg messageId, before.Handles worker msg (.dispatching messageId) := by
  cases change with
  | outputs handles outcome => exact .inr ⟨_, _, handles⟩
  | receives | claims | refuses | completes | observes | publishes | acks => exact .inl rfl
  | claimFails received parsed write => exact .inl write.effects
  | completionFails handles claimed parsed write => exact .inl write.effects
  | marks handles claimed parsed write => exact .inl write.effects
  | rejects handles gives =>
      left
      unfold State.deadLetter
      split <;> rfl

def labelledInvariant (deployment : Deployment Worker) : Invariant deployment {} where
  holds := Labelled deployment.config
  acts labelled acted := by
    rcases acted with ⟨command, choice, _, _, change⟩
    exact labelled.change change
  environment labelled _ happened := by
    intro worker msg messageId handles
    have rely : Rely worker _ _ := .environment happened
    exact labelled worker msg messageId
      ⟨rely.message.symm.trans handles.1, rely.progress.symm.trans handles.2⟩

omit [DecidableEq Worker] in
theorem labelled_initial (deployment : Deployment Worker) (now : ℕ) :
    Labelled deployment.config (deployment.initial now).shared := by
  rintro worker msg messageId ⟨⟨⟩, _⟩

omit [DecidableEq Worker] in
theorem allowed_anything (current : Configuration Worker) (label : Label Worker) :
    Condition.allowed {} current label := by
  cases label with
  | perform worker choice => exact fun _ _ _ => True.intro
  | environment event => exact True.intro

theorem acted_of_step {now : ℕ} {worker : Worker} {choice : Choice}
    (run : Run deployment.step Unrestricted (deployment.initial now) current)
    (taken : deployment.step current (.perform worker choice) = some following) :
    Labelled deployment.config current.shared ∧
      Acted deployment (fun _ _ _ _ => True) worker current.shared following.shared := by
  have allowed := run.mono fun current label _ => allowed_anything current label
  have sound := (labelledInvariant deployment).sound (labelled_initial deployment now) allowed
  have restricted := Condition.restricts (allowed_anything current _) taken
  exact ⟨sound.1, (sound.acts restricted.2).1⟩

/-! ### Steps -/

theorem Sourced.environment {event : Occurrence Worker} {shared : State Worker}
    (sourced : Sourced deployment admits contacts current)
    (supplied : Supplied admits contacts current (.environment event))
    (happened : State.environment deployment.consumers deployment.config.topology event
      current.shared = some shared) :
    Sourced deployment admits contacts { current with shared } where
  stocked := by
    cases event with
    | publish msg =>
        cases happened
        have queued := sourced.stocked.enqueue deployment.config.topology supplied
        exact ⟨queued.queued, queued.held⟩
    | crash worker =>
        cases happened
        have requeued : Stocked admits
            (current.shared.requeue worker (deployment.consumers worker)) :=
          sourced.stocked.requeue
        exact requeued.setHandling (requeued.held worker)
    | disconnect worker =>
        cases happened
        exact sourced.stocked.requeue
    | tick now =>
        rcases Option.ite_none_right_eq_some.mp happened with ⟨_, same⟩
        cases same
        exact ⟨sourced.stocked.queued, sourced.stocked.held⟩
  effects effect member := sourced.effects effect (environment_effects happened ▸ member)
  tracks worker := by
    rcases sourced.tracks worker with ⟨track, known, same, follows⟩
    have rely : Rely worker current.shared shared := .environment happened
    exact ⟨track, known, same.trans rely.message.symm, follows⟩

theorem Sourced.step {now : ℕ} {label : Label Worker}
    (sourced : Sourced deployment admits contacts current)
    (run : Run deployment.step Unrestricted (deployment.initial now) current)
    (supplied : Supplied admits contacts current label)
    (taken : deployment.step current label = some following) :
    Sourced deployment admits contacts following := by
  cases label with
  | environment event =>
      rcases Machine.step_environment taken with ⟨shared, happened, rfl⟩
      exact sourced.environment supplied happened
  | perform worker choice =>
      rcases acted_of_step run taken with ⟨labelled, _, _, _, _, change⟩
      rcases Machine.step_perform taken with
        ⟨command, next, answer, shared, program, performed, rfl⟩
      have done := performed_of_perform performed
      rcases sourced.tracks worker with ⟨track, known, received, follows⟩
      rw [program] at follows
      have learned := known.after sourced.stocked (fun id same => by
        subst same
        exact supplied id next program) performed
      refine ⟨?_, fun effect member => ?_, fun other => ?_⟩
      · refine sourced.stocked.performed (fun copy same => ?_) done
        subst same
        rcases follows.1 with ⟨msg, held, same⟩
        rw [same]
        exact known.received msg held
      · rcases done.effects with same | ⟨output, asked, same⟩
        · exact sourced.effects effect (same ▸ member)
        · rcases change.effects with unchanged | ⟨msg, messageId, handles⟩
          · rw [unchanged] at member
            exact sourced.effects effect member
          · change effect ∈ shared.effects at member
            rw [same] at member
            rcases List.mem_cons.mp member with rfl | old
            · have held : track.received = some msg := received.trans handles.1
              have made : Derived deployment.config track.contacts msg
                  (deployment.consumers worker) output := by
                have permitted := follows.1
                cases command with
                | auditLogCreate data =>
                    rcases permitted with ⟨own, mine, derived⟩
                    cases Option.some.inj (held.symm.trans mine)
                    rw [← Option.some.inj asked]
                    exact derived
                | sendMail mail =>
                    rcases permitted with ⟨own, mine, derived⟩
                    cases Option.some.inj (held.symm.trans mine)
                    rw [← Option.some.inj asked]
                    exact derived
                | _ => cases asked
              refine ⟨msg, messageId, known.received msg held,
                labelled worker msg messageId handles, ?_, made.mono known.contacts⟩
              rw [handles.2]
              rfl
            · exact sourced.effects effect old
      · by_cases same : other = worker
        · subst same
          refine ⟨track.after command answer, learned, Track.after_received received done, ?_⟩
          simpa using follows.2 answer _ rfl
        · rcases sourced.tracks other with ⟨others, knows, mine, obeys⟩
          refine ⟨others, knows, ?_, ?_⟩
          · exact mine.trans (congrArg Handling.message (done.others same)).symm
          · simpa [same] using obeys

/-! ### What has been published -/

theorem requeue_published (state : State Worker) (worker : Worker)
    (consumer : Consumer) : (state.requeue worker consumer).published = state.published := by
  rcases state.requeue_cases worker consumer with same | ⟨message, _, _, same⟩
  · rw [same]
  · rw [same]
    rfl

/-- The consumers only publish again what they were handed. -/
theorem step_published {now : ℕ} {label : Label Worker}
    (run : Run deployment.step Unrestricted (deployment.initial now) current)
    (unpublished : ∀ message, label ≠ .environment (.publish message))
    (taken : deployment.step current label = some following) :
    following.shared.published = current.shared.published := by
  cases label with
  | environment event =>
      rcases Machine.step_environment taken with ⟨shared, happened, rfl⟩
      cases event with
      | publish message => exact absurd rfl (unpublished message)
      | crash worker =>
          cases happened
          exact requeue_published _ _ _
      | disconnect worker =>
          cases happened
          exact requeue_published _ _ _
      | tick later =>
          rcases Option.ite_none_right_eq_some.mp happened with ⟨_, same⟩
          cases same
          rfl
  | perform worker choice =>
      rcases acted_of_step run taken with ⟨_, _, _, _, _, change⟩
      exact change.published

end Runs

end BankingBackend.Messaging
