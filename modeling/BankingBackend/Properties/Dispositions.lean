import BankingBackend.Foundation.Monitor
import BankingBackend.Properties.SingleEffect

/-! # What becomes of a delivery -/

namespace BankingBackend.Messaging

open Foundation

/-- The requests of `handleMessage` with their answers, each of which may be a failure. -/
abbrev Trace := List (Σ command : Command, command.Answer)

/-! ## Dispositions -/

inductive Settlement
  | ack
  | nack (requeue : Bool)
  deriving DecidableEq, Repr

namespace Trace

def settlement? : Command → Option Settlement
  | .ack => some .ack
  | .nack requeue => some (.nack requeue)
  | _ => none

/-- A message is sent unless `publish` throws, also when it returns `false`. -/
def copy? : (command : Command) → command.Answer → Option Message
  | .publish message, .ok _ => some message
  | _, _ => none

/-- `publish` neither throws nor returns `false`. -/
def accepted : (command : Command) → command.Answer → Bool
  | .publish _, .ok writable => writable
  | .publish _, .error _ => false
  | _, _ => true

variable (trace : Trace)

/-- The calls of `ack` and `nack`. One that throws is skipped, and the broker takes the
delivery back from the closed channel. -/
def settlements : List Settlement := trace.filterMap fun exchange => settlement? exchange.1

def copies : List Message := trace.filterMap fun exchange => copy? exchange.1 exchange.2

def Accepted : Prop := ∀ exchange ∈ trace, accepted exchange.1 exchange.2 = true

end Trace

inductive Disposition (msg : Message) (trace : Trace) : Prop
  | acknowledged (settled : trace.settlements = [.ack]) (copies : trace.copies = [])
  | retried (settled : trace.settlements = [.ack])
      (copies : trace.copies = [msg.retry (getConsumeMessageAttempts msg + 1)])
  | nacked (settled : trace.settlements = [.nack false]) (copies : trace.copies = [])

/-- `handleMessage` resolves, and the delivery has one disposition. -/
def Disposed (msg : Message) (result : Result) (trace : Trace) : Prop :=
  result = .ok () ∧ Disposition msg trace

/-! ## One request after another -/

namespace Trace

variable (first rest : Trace) (command : Command) (answer : command.Answer)

@[simp] theorem settlements_nil : settlements [] = [] := rfl

@[simp] theorem settlements_cons :
    settlements (⟨command, answer⟩ :: rest) = (settlement? command).toList ++ settlements rest := by
  unfold settlements
  rw [List.filterMap_cons]
  cases settlement? command <;> rfl

@[simp] theorem settlements_append :
    settlements (first ++ rest) = settlements first ++ settlements rest := List.filterMap_append

@[simp] theorem copies_nil : copies [] = [] := rfl

@[simp] theorem copies_cons :
    copies (⟨command, answer⟩ :: rest) = (copy? command answer).toList ++ copies rest := by
  unfold copies
  rw [List.filterMap_cons]
  cases copy? command answer <;> rfl

@[simp] theorem copies_append : copies (first ++ rest) = copies first ++ copies rest :=
  List.filterMap_append

@[simp] theorem accepted_nil : Accepted [] := by rintro exchange ⟨⟩

@[simp] theorem accepted_cons :
    Accepted (⟨command, answer⟩ :: rest) ↔ accepted command answer = true ∧ Accepted rest := by
  simp [Accepted]

@[simp] theorem accepted_append : Accepted (first ++ rest) ↔ Accepted first ∧ Accepted rest := by
  simp [Accepted, or_imp, forall_and]

end Trace

/-! ## Requests before the disposition -/

structure Trace.Quiet (trace : Trace) : Prop where
  settlements : trace.settlements = []
  copies : trace.copies = []
  accepted : trace.Accepted

def Command.quiet : Command → Prop
  | .publish _ | .ack | .nack _ => False
  | _ => True

theorem Trace.Quiet.empty : Trace.Quiet [] := ⟨rfl, rfl, accepted_nil⟩

theorem Trace.Quiet.snoc {trace : Trace} (quiet : trace.Quiet) {command : Command}
    (silent : command.quiet) (answer : command.Answer) :
    Trace.Quiet (trace ++ [⟨command, answer⟩]) := by
  have nothing : settlement? command = none ∧ copy? command answer = none ∧
      Trace.accepted command answer = true := by
    cases command
    case publish | ack | nack => cases silent
    all_goals exact ⟨rfl, rfl, rfl⟩
  exact ⟨by simp [quiet.settlements, nothing.1], by simp [quiet.copies, nothing.2.1],
    by simp [quiet.accepted, nothing.2.2]⟩

section Issues

open Program (Issues)

variable {config : ConsumerConfig} {type payload : Option Json}

theorem issues_request (command : Command) (silent : command.quiet) :
    Issues Command.quiet (request command) := ⟨silent, fun _ => trivial⟩

theorem issues_orThrow {α : Type} (result : Except Thrown α) :
    Issues Command.quiet (orThrow result) := by
  cases result with
  | ok value => exact Program.issues_pure value
  | error error => exact Program.issues_throw error

theorem issues_asking {α β : Type} {command : Command} {next : α → Service β}
    {answer : command.Answer → Except Thrown α} (silent : command.quiet)
    (rest : ∀ value, Issues Command.quiet (next value)) :
    Issues Command.quiet (do next (← orThrow (answer (← request command)))) :=
  (issues_request command silent).bind fun _ => (issues_orThrow _).bind rest

theorem issues_claim (msg : Message) : Issues Command.quiet (claim config msg) :=
  (issues_orThrow _).bind fun _ => issues_asking trivial fun _ => Program.issues_pure _

theorem issues_record (input : AuditRecordInput) (outcome : Postgres.Outcome) :
    Issues Command.quiet (record input outcome) :=
  (issues_request (.auditLogCreate _) trivial).bind fun answer => issues_orThrow answer

theorem issues_dispatch : Issues Command.quiet (dispatch config type payload) := by
  unfold dispatch
  split
  · exact (issues_orThrow _).bind fun _ => issues_record _ _
  · split
    · exact (issues_orThrow _).bind fun _ => issues_record _ _
    · exact Program.issues_throw _

theorem issues_send (email : EmailConfig) (message : EmailMessage) :
    Issues Command.quiet (send email message) := by
  unfold send
  split
  · split
    · unfold sendgridSend
      split
      · exact Program.issues_throw _
      · exact Program.issues_throw _
    · unfold smtpSend
      split
      · exact Program.issues_throw _
      · exact (issues_request (.sendMail _) trivial).bind fun answer => issues_orThrow answer
  · exact Program.issues_pure _

theorem issues_findCustomer (actorId : String) : Issues Command.quiet (findCustomer actorId) := by
  refine issues_asking trivial fun customer => ?_
  cases customer with
  | some customer => exact Program.issues_pure _
  | none => exact Program.issues_throw _

theorem issues_dispatchEmail : Issues Command.quiet (dispatchEmail config type payload) := by
  unfold dispatchEmail
  split
  · exact (issues_orThrow _).bind fun _ => (issues_findCustomer _).bind fun _ => issues_send _ _
  · split
    · exact (issues_orThrow _).bind fun _ => (issues_findCustomer _).bind fun _ => issues_send _ _
    · exact Program.issues_throw _

theorem issues_markCompleted (consumer : Consumer) (messageId : String) :
    Issues Command.quiet (markCompleted consumer messageId) := by
  refine issues_asking trivial fun updated => ?_
  split
  · exact Program.issues_throw _
  · exact Program.issues_pure _

theorem issues_process (consumer : Consumer) (message : ParsedMessage) :
    Issues Command.quiet (process config consumer message) := by
  cases consumer with
  | rabbitMq => exact issues_dispatch.bind fun _ => issues_markCompleted _ _
  | email => exact issues_dispatchEmail.bind fun _ => issues_markCompleted _ _

end Issues

/-! ## `handleMessage` -/

section Programs

variable {trace : Trace} {config : ConsumerConfig} {consumer : Consumer} {msg : Message}

/-- The disposition is the one of three just when every copy is taken for published. -/
def Disposes (msg : Message) (result : Result) (trace : Trace) : Prop :=
  Disposed msg result trace ↔ trace.Accepted

theorem records_request {command : Command}
    {post : Except Thrown command.Answer → Trace → Prop}
    (answered : ∀ answer, post (.ok answer) (trace ++ [⟨command, answer⟩])) :
    (Monitor.recorder interface).Obeys post (request command) trace := by
  refine ⟨trivial, ?_⟩
  rintro answer _ rfl
  exact answered answer

theorem records_quiet {α : Type} {program : Service α} (quiet : trace.Quiet)
    (issues : Program.Issues Command.quiet program) :
    (Monitor.recorder interface).Obeys (fun _ final => Trace.Quiet final) program trace := by
  refine Monitor.Follows.of_only Trace.Quiet issues (fun trace command silent quiet => ?_) quiet
  refine ⟨trivial, ?_⟩
  rintro answer _ rfl
  exact quiet.snoc silent answer

theorem records_settling {command : Command} {post : Result → Trace → Prop}
    (settled : ∀ answer, post (.ok ()) (trace ++ [⟨command, answer⟩])) :
    (Monitor.recorder interface).Obeys post (do let _ ← request command; pure ()) trace := by
  have asked : (Monitor.recorder interface).Obeys (fun result final => ∃ answer,
      result = .ok answer ∧ final = trace ++ [⟨command, answer⟩]) (request command) trace :=
    records_request fun answer => ⟨answer, rfl, rfl⟩
  refine asked.bind ?_ ?_
  · rintro error final ⟨answer, ⟨⟩, _⟩
  · rintro answer final ⟨_, ⟨⟩, rfl⟩
    exact .pure (settled answer)

theorem records_safeAck {post : Result → Trace → Prop}
    (acks : ∀ answer, post (.ok ()) (trace ++ [⟨.ack, answer⟩])) :
    (Monitor.recorder interface).Obeys post safeAck trace := records_settling acks

theorem records_safeNack {post : Result → Trace → Prop}
    (nacks : ∀ answer, post (.ok ()) (trace ++ [⟨.nack false, answer⟩])) :
    (Monitor.recorder interface).Obeys post safeNack trace := records_settling nacks

theorem disposes_acknowledged (quiet : trace.Quiet) (answer : Command.ack.Answer) :
    Disposes msg (.ok ()) (trace ++ [⟨.ack, answer⟩]) := by
  refine ⟨fun _ => ?_, fun _ => ⟨rfl, .acknowledged ?_ ?_⟩⟩
  · simp [quiet.accepted, Trace.accepted]
  · simp [quiet.settlements, Trace.settlement?]
  · simp [quiet.copies, Trace.copy?]

theorem disposes_nacked (quiet : trace.Quiet) (answer : (Command.nack false).Answer) :
    Disposes msg (.ok ()) (trace ++ [⟨.nack false, answer⟩]) := by
  refine ⟨fun _ => ?_, fun _ => ⟨rfl, .nacked ?_ ?_⟩⟩
  · simp [quiet.accepted, Trace.accepted]
  · simp [quiet.settlements, Trace.settlement?]
  · simp [quiet.copies, Trace.copy?]

inductive Attempted (msg : Message) (trace : Trace) (result : Except Thrown Bool)
    (final : Trace) : Prop
  | kept (refused : result = .ok false) (same : final = trace)
  | published (answer : (Command.publish (msg.retry (getConsumeMessageAttempts msg + 1))).Answer)
      (answered : result = answer) (sent : final = trace ++ [⟨.publish _, answer⟩])

theorem records_republish (error : Thrown) :
    (Monitor.recorder interface).Obeys (Attempted msg trace) (republish config msg error)
      trace := by
  unfold republish
  dsimp only
  split
  · unfold republishForRetry
    split
    · exact .pure (.kept rfl rfl)
    · have asked : (Monitor.recorder interface).Obeys (fun result final => ∃ answer,
          result = .ok answer ∧ final = trace ++ [⟨.publish _, answer⟩])
          (request (.publish (msg.retry (getConsumeMessageAttempts msg + 1)))) trace :=
        records_request fun answer => ⟨answer, rfl, rfl⟩
      refine asked.bind ?_ ?_
      · rintro error final ⟨answer, ⟨⟩, _⟩
      · rintro answer final ⟨_, ⟨⟩, rfl⟩
        cases answer with
        | ok writable => exact .pure (.published (.ok writable) rfl rfl)
        | error error => exact .throw (.published (.error error) rfl rfl)
  · exact .pure (.kept rfl rfl)

theorem disposes_retried (quiet : trace.Quiet) (answer : Command.ack.Answer) :
    Disposes msg (.ok ()) (trace ++
      [⟨.publish (msg.retry (getConsumeMessageAttempts msg + 1)), .ok true⟩] ++ [⟨.ack, answer⟩]) := by
  refine ⟨fun _ => ?_, fun _ => ⟨rfl, .retried ?_ ?_⟩⟩
  · simp [quiet.accepted, Trace.accepted]
  · simp [quiet.settlements, Trace.settlement?]
  · simp [quiet.copies, Trace.copy?]

/-- A copy that was published is in the way of a rejection. -/
theorem disposes_returned (quiet : trace.Quiet) (answer : (Command.nack false).Answer) :
    Disposes msg (.ok ()) (trace ++
      [⟨.publish (msg.retry (getConsumeMessageAttempts msg + 1)), .ok false⟩] ++
        [⟨.nack false, answer⟩]) := by
  refine ⟨?_, fun accepted => ?_⟩
  · rintro ⟨_, settled | settled | ⟨_, copies⟩⟩
    · simp [quiet.settlements, Trace.settlement?] at settled
    · simp [quiet.settlements, Trace.settlement?] at settled
    · simp [quiet.copies, Trace.copy?] at copies
  · simp [Trace.accepted] at accepted

/-- Neither is there a disposition when the copy cannot be published. -/
theorem disposes_thrown (error : Thrown) :
    Disposes msg (.error error) (trace ++
      [⟨.publish (msg.retry (getConsumeMessageAttempts msg + 1)), .error error⟩]) := by
  refine ⟨?_, fun accepted => ?_⟩
  · rintro ⟨⟨⟩, _⟩
  · simp [Trace.accepted] at accepted

theorem records_giveBack (quiet : trace.Quiet) (error : Thrown) :
    (Monitor.recorder interface).Obeys (Disposes msg) (giveBack config msg error) trace := by
  refine (records_republish error).bind ?_ ?_
  · rintro thrown _ (⟨⟨⟩, _⟩ | ⟨answer, rfl, rfl⟩)
    exact disposes_thrown thrown
  · rintro republished _ (⟨⟨⟩, rfl⟩ | ⟨answer, rfl, rfl⟩)
    · exact records_safeNack (disposes_nacked quiet)
    · cases republished with
      | true => exact records_safeAck (disposes_retried quiet)
      | false => exact records_safeNack (disposes_returned quiet)

theorem records_process (quiet : trace.Quiet) (message : ParsedMessage) :
    (Monitor.recorder interface).Obeys (Disposes msg)
      (do
        match ← Program.attempt (process config consumer message) with
        | .ok _ => safeAck
        | .error error =>
            markFailed message.messageId error
            giveBack config msg error) trace := by
  refine Monitor.Obeys.attempt (records_quiet quiet (issues_process consumer message)) ?_
  intro outcome between quiet
  cases outcome with
  | ok value => exact records_safeAck (disposes_acknowledged quiet)
  | error error =>
      have marked : (Monitor.recorder interface).Obeys
          (fun result final => result = .ok () ∧ Trace.Quiet final)
          (markFailed message.messageId error) between :=
        records_settling fun answer => ⟨rfl, quiet.snoc (by exact trivial) answer⟩
      refine marked.bind ?_ ?_
      · rintro thrown final ⟨⟨⟩, _⟩
      · rintro _ final ⟨_, quiet⟩
        exact records_giveBack quiet error

/-- A delivery has one disposition just when `publish` accepts each copy. -/
theorem one_disposition (config : ConsumerConfig) (consumer : Consumer) (msg : Message) :
    (Monitor.recorder interface).Follows
      (fun result trace => Disposed msg result trace ↔ Trace.Accepted trace)
      (handleMessage config consumer msg).run [] := by
  refine Monitor.Obeys.attempt (records_quiet .empty (issues_claim msg)) ?_
  intro outcome between quiet
  rcases outcome with error | ⟨message, _ | _⟩
  · exact records_giveBack quiet error
  · exact records_safeAck (disposes_acknowledged quiet)
  · exact records_process quiet message

/-- The database cannot be reached, and the write buffer of the channel is full. -/
def congested : (command : Command) → command.Answer
  | .receive => depositMessage
  | .claim _ _ _ => .error (.error .prismaInitializationError "Can't reach database server" none
      .undefined [])
  | .markCompleted _ => .ok 1
  | .markFailed _ _ => .ok ()
  | .auditLogCreate _ => .ok ()
  | .customerFindUnique _ => .ok none
  | .sendMail _ => .ok ()
  | .publish _ => .ok false
  | .ack => .ok ()
  | .nack _ => .ok ()

/-- The copy is published, and the delivery is rejected all the same. -/
theorem congested_returned : ¬∀ config consumer msg, (Monitor.recorder interface).Follows
    (Disposed msg) (handleMessage config consumer msg).run [] := by
  intro disposed
  have answered := (disposed {} .rabbitMq depositMessage).answered congested
  have both : Trace.settlements (Monitor.answered congested
        (handleMessage {} .rabbitMq depositMessage).run).2 = [.nack false] ∧
      (Trace.copies (Monitor.answered congested
        (handleMessage {} .rabbitMq depositMessage).run).2).length = 1 := by decide +kernel
  rcases answered with ⟨_, settled | settled | ⟨_, copies⟩⟩
  · rw [List.nil_append, both.1] at settled
    cases settled
  · rw [List.nil_append, both.1] at settled
    cases settled
  · rw [List.nil_append] at copies
    simp [copies] at both

end Programs

end BankingBackend.Messaging
