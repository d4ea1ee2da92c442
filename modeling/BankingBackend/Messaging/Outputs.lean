import BankingBackend.Foundation.Monitor
import BankingBackend.Messaging.Deliveries

/-! # Outputs of a message

A consumer writes and sends only what it makes of the message it was handed, and
publishes only that message again.
-/

namespace BankingBackend.Messaging

open Foundation
open Postgres (Outcome)

/-! ## What a message is made into -/

/-- A retry keeps all of a message but its headers. -/
def Message.body (msg : Message) : Message := { msg with headers := [] }

@[simp] theorem body_retry (msg : Message) (attempts : ℕ) :
    (msg.retry attempts).body = msg.body := rfl

theorem parseMessage_body (config : ConsumerConfig) (msg : Message) :
    parseMessage config msg.body = parseMessage config msg := rfl

/-- The row that `AuditService` creates. -/
def auditRow (input : AuditRecordInput) (outcome : Outcome) : AuditLogData where
  action := input.action
  outcome
  customerId := input.customerId
  entityType := input.entityType
  entityId := input.entityId
  actorId := input.actorId.getD input.customerId
  resourceId := input.resourceId.getD input.entityId
  traceId := input.traceId
  reasonCode := input.reasonCode
  metadata := input.metadata
  ipAddress := input.ipAddress
  userAgent := input.userAgent

/-- The message that `EmailService` sends. -/
def mailTo (config : ConsumerConfig) (customer : CustomerContact) (content : String × String) :
    EmailMessage where
  sender := config.email.sender
  to_ := customer.email
  subject := content.1
  text := content.2

/-- What a consumer makes of parsed content, with the customers that `contacts` knows. -/
inductive Tells (config : ConsumerConfig) (contacts : String → CustomerContact → Prop)
    (parsed : Json) : Consumer → Output → Prop
  | completed {payload : ValidatedPayload}
      (type : isType (parsed.property "type") "TRANSACTION_COMPLETED" = true)
      (valid : validateTransactionEventPayload (parsed.property "payload") = .ok payload) :
      Tells config contacts parsed .rabbitMq (.auditLog (auditRow (auditInput payload) .success))
  | failed {payload : ValidatedPayload}
      (type : isType (parsed.property "type") "TRANSACTION_FAILED" = true)
      (valid : validateTransactionEventPayload (parsed.property "payload") = .ok payload) :
      Tells config contacts parsed .rabbitMq (.auditLog
        (auditRow { auditInput payload with reasonCode := payload.reasonCode } .failure))
  | notifies {payload : ValidatedPayload} {customer : CustomerContact} {completed : Bool}
      (type : isType (parsed.property "type") "TRANSACTION_COMPLETED" = completed)
      (known : completed = false →
        isType (parsed.property "type") "TRANSACTION_FAILED" = true)
      (valid : validateTransactionEventPayload (parsed.property "payload") = .ok payload)
      (found : contacts payload.actorId customer) :
      Tells config contacts parsed .email (.email (mailTo config customer
        (buildTransactionEmailContent config customer.name completed payload)))
  | welcomes {payload : UserRegisteredPayload} {customer : CustomerContact}
      (type : isType (parsed.property "type") "USER_REGISTERED" = true)
      (valid : validateUserRegisteredPayload (parsed.property "payload") = .ok payload)
      (found : contacts payload.actorId customer) :
      Tells config contacts parsed .email (.email (mailTo config customer
        (buildWelcomeEmailContent customer.name)))

def Derived (config : ConsumerConfig) (contacts : String → CustomerContact → Prop)
    (msg : Message) (consumer : Consumer) (output : Output) : Prop :=
  ∃ message, parseMessage config msg = .ok message ∧
    Tells config contacts message.parsed consumer output

section Derived

variable {config : ConsumerConfig} {contacts more : String → CustomerContact → Prop}
  {msg copy : Message} {parsed : Json} {consumer : Consumer} {output : Output}

theorem Tells.mono (tells : Tells config contacts parsed consumer output)
    (grow : ∀ id customer, contacts id customer → more id customer) :
    Tells config more parsed consumer output := by
  cases tells with
  | completed type valid => exact .completed type valid
  | failed type valid => exact .failed type valid
  | notifies type known valid found => exact .notifies type known valid (grow _ _ found)
  | welcomes type valid found => exact .welcomes type valid (grow _ _ found)

theorem Derived.mono (derived : Derived config contacts msg consumer output)
    (grow : ∀ id customer, contacts id customer → more id customer) :
    Derived config more msg consumer output := by
  rcases derived with ⟨message, parsed, tells⟩
  exact ⟨message, parsed, tells.mono grow⟩

theorem Derived.of_body (derived : Derived config contacts msg consumer output)
    (same : msg.body = copy.body) : Derived config contacts copy consumer output := by
  rcases derived with ⟨message, parsed, tells⟩
  refine ⟨message, ?_, tells⟩
  rw [← parseMessage_body, ← same, parseMessage_body, parsed]

end Derived

/-! ## The requests of a worker -/

structure Track where
  received : Option Message := none
  contact : Option (String × CustomerContact) := none

def Track.contacts (track : Track) (id : String) (customer : CustomerContact) : Prop :=
  track.contact = some (id, customer)

def Track.after (track : Track) : (command : Command) → command.Answer → Track
  | .receive, msg => { track with received := some msg }
  | .customerFindUnique id, .ok (some customer) => { track with contact := some (id, customer) }
  | _, _ => track

/-- Copies and outputs are those of the message that was handed over. -/
def handles (config : ConsumerConfig) (consumer : Consumer) : Monitor interface Track where
  permits track command :=
    match command with
    | .publish copy => ∃ msg ∈ track.received, copy.body = msg.body
    | .auditLogCreate data => ∃ msg ∈ track.received,
        Derived config track.contacts msg consumer (.auditLog data)
    | .sendMail mail => ∃ msg ∈ track.received,
        Derived config track.contacts msg consumer (.email mail)
    | _ => True
  moves track command answer following := following = track.after command answer

def Harmless (config : ConsumerConfig) (consumer : Consumer) (msg : Message) : Command → Prop
  | .receive | .sendMail _ => False
  | .publish copy => copy.body = msg.body
  | .auditLogCreate data => ∀ contacts, Derived config contacts msg consumer (.auditLog data)
  | _ => True

section Programs

open Program (Issues)

variable {config : ConsumerConfig} {consumer : Consumer} {msg : Message}
  {message : ParsedMessage} {track : Track}

def Holding {α : Type} (msg : Message) (_ : Except Thrown α) (track : Track) : Prop :=
  track.received = some msg

theorem obeys_harmless {α : Type} {program : Service α} (received : track.received = some msg)
    (issues : Issues (Harmless config consumer msg) program) :
    (handles config consumer).Obeys (Holding msg) program track := by
  refine Monitor.Follows.of_only (fun track : Track => track.received = some msg) issues ?_ received
  intro track command harmless received
  constructor
  · cases command with
    | receive | sendMail => exact harmless.elim
    | publish copy => exact ⟨msg, received, harmless⟩
    | auditLogCreate data => exact ⟨msg, received, harmless _⟩
    | _ => trivial
  · rintro answer _ rfl
    cases command with
    | receive | sendMail => exact harmless.elim
    | customerFindUnique id =>
        cases answer with
        | error error => exact received
        | ok found =>
            cases found with
            | none => exact received
            | some customer => exact received
    | _ => exact received

theorem harmless_request (command : Command)
    (harmless : Harmless config consumer msg command) :
    Issues (Harmless config consumer msg) (request command) := ⟨harmless, fun _ => trivial⟩

theorem harmless_orThrow {α : Type} (result : Except Thrown α) :
    Issues (Harmless config consumer msg) (orThrow result) := by
  cases result with
  | ok value => exact Program.issues_pure value
  | error error => exact Program.issues_throw error

theorem harmless_asking {α β : Type} {command : Command} {next : α → Service β}
    {answer : command.Answer → Except Thrown α} (harmless : Harmless config consumer msg command)
    (rest : ∀ value, Issues (Harmless config consumer msg) (next value)) :
    Issues (Harmless config consumer msg) (do next (← orThrow (answer (← request command)))) :=
  (harmless_request command harmless).bind fun _ => (harmless_orThrow _).bind rest

theorem harmless_claim : Issues (Harmless config consumer msg) (claim config msg) :=
  (harmless_orThrow _).bind fun _ => harmless_asking trivial fun _ => Program.issues_pure _

theorem gives_orThrow {α : Type} {result : Except Thrown α} :
    Program.Gives (fun value => result = .ok value) (orThrow result) := by
  cases result with
  | ok value => exact Program.gives_pure rfl
  | error error => exact Program.gives_throw error

theorem gives_claim : Program.Gives
    (fun result : ParsedMessage × Bool => parseMessage config msg = .ok result.1)
    (claim config msg) :=
  gives_orThrow.bind_gives fun _ parsed => .bind fun _ => .bind fun _ => Program.gives_pure parsed

theorem obeys_claim (received : track.received = some msg) :
    (handles config consumer).Obeys (fun result final => final.received = some msg ∧
      ∀ value, result = .ok value → parseMessage config msg = .ok value.1) (claim config msg)
      track :=
  Monitor.Follows.and_yields (obeys_harmless received harmless_claim) gives_claim

theorem harmless_markCompleted (messageId : String) :
    Issues (Harmless config consumer msg) (markCompleted consumer messageId) := by
  refine harmless_asking trivial fun updated => ?_
  split
  · exact Program.issues_throw _
  · exact Program.issues_pure _

theorem harmless_markFailed (messageId : String) (error : Thrown) :
    Issues (Harmless config consumer msg) (markFailed messageId error) :=
  (harmless_request (.markFailed _ _) trivial).bind fun _ => Program.issues_pure _

theorem harmless_safeAck : Issues (Harmless config consumer msg) safeAck :=
  (harmless_request .ack trivial).bind fun _ => Program.issues_pure _

theorem harmless_giveBack (error : Thrown) :
    Issues (Harmless config consumer msg) (giveBack config msg error) := by
  have republishes : Issues (Harmless config consumer msg) (republish config msg error) := by
    unfold republish republishForRetry
    dsimp only
    split
    · split
      · exact Program.issues_pure _
      · exact (harmless_request (.publish _) rfl).bind fun _ => harmless_orThrow _
    · exact Program.issues_pure _
  refine republishes.bind fun republished => ?_
  split
  · exact harmless_safeAck
  · exact (harmless_request (.nack false) trivial).bind fun _ => Program.issues_pure _

/-! ### The dispatchers -/

theorem harmless_record {input : AuditRecordInput} {outcome : Outcome}
    (derived : ∀ contacts, Derived config contacts msg consumer
      (.auditLog (auditRow input outcome))) :
    Issues (Harmless config consumer msg) (record input outcome) :=
  (harmless_request (.auditLogCreate _) derived).bind fun _ => harmless_orThrow _

theorem harmless_dispatch (parsed : parseMessage config msg = .ok message) :
    Issues (Harmless config .rabbitMq msg)
      (dispatch config (message.parsed.property "type") (message.parsed.property "payload")) := by
  unfold dispatch
  split
  · rename_i completed
    refine Issues.bind_gives (harmless_orThrow _) gives_orThrow fun payload valid => ?_
    exact harmless_record fun _ => ⟨message, parsed, .completed completed valid⟩
  · split
    · rename_i failed
      refine Issues.bind_gives (harmless_orThrow _) gives_orThrow fun payload valid => ?_
      exact harmless_record fun _ => ⟨message, parsed, .failed failed valid⟩
    · exact Program.issues_throw _

theorem obeys_request {command : Command} {post : Except Thrown command.Answer → Track → Prop}
    (permits : (handles config consumer).permits track command)
    (answered : ∀ answer, post (.ok answer) (track.after command answer)) :
    (handles config consumer).Obeys post (request command) track := by
  refine ⟨permits, ?_⟩
  rintro answer _ rfl
  exact answered answer

theorem obeys_findCustomer (actorId : String) (received : track.received = some msg) :
    (handles config consumer).Obeys (fun result final => final.received = some msg ∧
      ∀ customer, result = .ok customer → final.contacts actorId customer)
      (findCustomer actorId) track := by
  have asked : (handles config consumer).Obeys (fun result final => final.received = some msg ∧
      ∀ customer, result = .ok (.ok (some customer)) → final.contacts actorId customer)
      (request (.customerFindUnique actorId)) track := by
    refine obeys_request trivial fun answer => ?_
    cases answer with
    | error error => exact ⟨received, by rintro _ ⟨⟩⟩
    | ok found =>
        cases found with
        | none => exact ⟨received, by rintro _ ⟨⟩⟩
        | some customer =>
            refine ⟨received, ?_⟩
            rintro _ ⟨⟩
            rfl
  refine asked.bind (fun error final stays => ⟨stays.1, by rintro _ ⟨⟩⟩) ?_
  rintro answer final ⟨received, found⟩
  cases answer with
  | error error => exact ⟨received, by rintro _ ⟨⟩⟩
  | ok customer =>
      cases customer with
      | none => exact ⟨received, by rintro _ ⟨⟩⟩
      | some customer =>
          refine ⟨received, ?_⟩
          rintro _ ⟨⟩
          exact found customer rfl

theorem obeys_sendTo {customer : CustomerContact} {content : String × String}
    (received : track.received = some msg)
    (derived : Derived config track.contacts msg consumer
      (.email (mailTo config customer content))) :
    (handles config consumer).Obeys (Holding msg) (sendTo config customer content) track := by
  unfold sendTo send
  split
  · split
    · unfold sendgridSend
      split
      · exact .throw received
      · exact .throw received
    · unfold smtpSend
      split
      · exact .throw received
      · have asked : (handles config consumer).Obeys (Holding msg)
            (request (.sendMail (mailTo config customer content))) track :=
          obeys_request ⟨msg, received, derived⟩ fun _ => received
        refine asked.bind (fun _ _ stays => stays) fun answer final stays => ?_
        exact obeys_harmless stays (harmless_orThrow _)
  · exact .pure received

theorem obeys_mailing {α : Type} {validated : Except Thrown α} {actorId : α → String}
    {content : α → CustomerContact → String × String} (received : track.received = some msg)
    (derived : ∀ payload customer contacts, validated = .ok payload →
      contacts (actorId payload) customer → Derived config contacts msg consumer
        (.email (mailTo config customer (content payload customer)))) :
    (handles config consumer).Obeys (Holding msg)
      (orThrow validated >>= fun payload => findCustomer (actorId payload) >>= fun customer =>
        sendTo config customer (content payload customer)) track := by
  cases validated with
  | error error => exact .throw received
  | ok payload =>
      refine (obeys_findCustomer (actorId payload) received).bind (fun _ _ stays => stays.1) ?_
      rintro customer between ⟨received, found⟩
      exact obeys_sendTo received (derived payload customer _ rfl (found customer rfl))

theorem obeys_dispatchEmail (parsed : parseMessage config msg = .ok message)
    (received : track.received = some msg) :
    (handles config .email).Obeys (Holding msg)
      (dispatchEmail config (message.parsed.property "type") (message.parsed.property "payload"))
      track := by
  unfold dispatchEmail
  split
  · rename_i transaction
    refine obeys_mailing received fun payload customer contacts valid found =>
      ⟨message, parsed, .notifies rfl ?_ valid found⟩
    intro uncompleted
    rw [uncompleted] at transaction
    exact transaction
  · split
    · rename_i registered
      exact obeys_mailing received fun payload customer contacts valid found =>
        ⟨message, parsed, .welcomes registered valid found⟩
    · exact .throw received

/-! ### `handleMessage` -/

theorem obeys_process (parsed : parseMessage config msg = .ok message)
    (received : track.received = some msg) :
    (handles config consumer).Obeys (Holding msg) (process config consumer message) track := by
  cases consumer with
  | rabbitMq =>
      exact obeys_harmless received
        ((harmless_dispatch parsed).bind fun _ => harmless_markCompleted _)
  | email =>
      refine (obeys_dispatchEmail parsed received).bind (fun _ _ stays => stays) ?_
      intro _ between stays
      exact obeys_harmless stays (harmless_markCompleted _)

theorem obeys_handleMessage (received : track.received = some msg) :
    (handles config consumer).Obeys (fun _ _ => True) (handleMessage config consumer msg)
      track := by
  have ends {α : Type} {program : Service α} {track : Track}
      (received : track.received = some msg)
      (issues : Issues (Harmless config consumer msg) program) :
      (handles config consumer).Obeys (fun _ _ => True) program track :=
    (obeys_harmless received issues).mono fun _ _ _ => trivial
  refine (obeys_claim received).attempt fun outcome between claimed => ?_
  rcases claimed with ⟨received, parsed⟩
  cases outcome with
  | error error => exact ends received (harmless_giveBack error)
  | ok value =>
      rcases value with ⟨message, claimed⟩
      cases claimed with
      | false => exact ends received harmless_safeAck
      | true =>
          refine (obeys_process (parsed _ rfl) received).attempt fun outcome final stays => ?_
          cases outcome with
          | ok _ => exact ends stays harmless_safeAck
          | error error =>
              exact ends stays
                ((harmless_markFailed _ error).bind fun _ => harmless_giveBack error)

theorem follows_consume (config : ConsumerConfig) (consumer : Consumer) :
    (handles config consumer).Follows (fun _ _ => True) (consume config consumer).run {} := by
  refine ⟨trivial, ?_⟩
  rintro msg _ rfl
  exact obeys_handleMessage rfl

end Programs

end BankingBackend.Messaging
