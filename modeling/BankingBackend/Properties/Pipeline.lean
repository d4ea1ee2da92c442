import BankingBackend.Messaging.Recording
import BankingBackend.Platform.Letters
import BankingBackend.Outbox.Interleaving
import BankingBackend.Properties.Balances
import BankingBackend.Properties.Custody

/-! # From a transaction to its audit row

What the consumers write and send repeats a transaction that was committed, and each
transaction is recorded once.
-/

namespace BankingBackend.Platform

open Foundation
open Auth (UserRegisteredEvent)
open Messaging (CustomerContact EventSettings Message)
open Outbox (Contents)
open Postgres (Event EventType Transaction Uuid)

variable {Thread Visitor Publisher Worker : Type} [DecidableEq Thread] [Fintype Thread]
  [DecidableEq Visitor] [DecidableEq Publisher] [DecidableEq Worker]

section Statements

variable (settings : Settings Worker) (requests : Thread → Request)
  (visits : Visitor → Auth.Request)

/-- The name and the address that the customer had at some time. -/
def ContactOf (state : State Thread Visitor Publisher Worker) (id : Uuid)
    (contact : CustomerContact) : Prop :=
  ∃ earlier, Reachable settings requests visits earlier ∧
    Run (step settings) Unrestricted earlier state ∧
    ∃ customer, earlier.auth.shared.server.customers.committed id = some customer ∧
      contact = { email := customer.email, name := customer.name }

variable (Publisher)

/-- Every audit row is that of a committed transaction, and quotes it. -/
def AuditsTruthful : Prop :=
  ∀ state : State Thread Visitor Publisher Worker, Reachable settings requests visits state →
    ∀ effect ∈ state.consumers.shared.effects, ∀ data, effect.output = .auditLog data →
      ∃ row ∈ state.bank.shared.server.database.transactions,
        ∃ event ∈ state.bank.shared.server.database.events,
          Quotes row event ∧ data = auditOf row event.payload

/-- Every e-mail tells a customer of a transaction of theirs that was committed, or welcomes
a customer who has registered. -/
def MailsTruthful : Prop :=
  ∀ state : State Thread Visitor Publisher Worker, Reachable settings requests visits state →
    ∀ effect ∈ state.consumers.shared.effects, ∀ mail, effect.output = .email mail →
      (∃ row ∈ state.bank.shared.server.database.transactions,
        ∃ event ∈ state.bank.shared.server.database.events, Quotes row event ∧ ∃ contact,
          ContactOf settings requests visits state row.actorCustomerId contact ∧
          ∃ cents, Approximates event.payload.metadata.amount row.amount cents ∧
            mail = noticeTo settings.events.consumers contact row cents) ∨
      ∃ event ∈ state.auth.shared.server.events, ∃ contact,
        ContactOf settings requests visits state event.actorId contact ∧
          mail = welcomeTo settings.events.consumers contact

end Statements

section Truth

variable {settings : Settings Worker} {requests : Thread → Request}
  {visits : Visitor → Auth.Request} {state : State Thread Visitor Publisher Worker}

theorem Reached.contactOf {id : Uuid} {contact : CustomerContact}
    (reached : Reached settings requests visits state id.toText contact) :
    ContactOf settings requests visits state id contact := by
  rcases reached with ⟨earlier, reachable, run, found⟩
  refine ⟨earlier, reachable, run, ?_⟩
  rcases Option.map_eq_some_iff.mp found with ⟨customer, committed, same⟩
  rw [Uuid.parse?_toText] at committed
  exact ⟨customer, committed, same.symm⟩

theorem Linked.tells (linked : Linked settings requests visits state)
    {effect : Messaging.Effect} (member : effect ∈ state.consumers.shared.effects) :
    (∃ row ∈ state.bank.shared.server.database.transactions,
      ∃ event ∈ state.bank.shared.server.database.events, Quotes row event ∧
        effect.messageId = some event.id.toText ∧
        (effect.consumer = .rabbitMq ∧ effect.output = .auditLog (auditOf row event.payload) ∨
          effect.consumer = .email ∧ ∃ contact,
            ContactOf settings requests visits state row.actorCustomerId contact ∧
            ∃ cents, Approximates event.payload.metadata.amount row.amount cents ∧
              effect.output = .email (noticeTo settings.events.consumers contact row cents))) ∨
    effect.consumer = .email ∧ ∃ event ∈ state.auth.shared.server.events, ∃ contact,
      ContactOf settings requests visits state event.actorId contact ∧
        effect.output = .email (welcomeTo settings.events.consumers contact) := by
  rcases linked.sourced.effects effect member with
    ⟨msg, messageId, ⟨row, listed, same⟩, key, named, derived⟩
  rcases derived.of_body same with ⟨message, parsed, tells⟩
  have keyed : Messaging.keyOf settings.events.consumers (messageOf settings.events row) =
      some messageId := by
    unfold Messaging.keyOf at key ⊢
    rw [← Messaging.parseMessage_body, ← same, Messaging.parseMessage_body]
    exact key
  have typed : row.type ≠ "" := by
    cases linked.committed row listed with
    | transaction event committed same =>
        rw [same]
        exact typeName_filled event.type
    | registration createdAt id event committed same =>
        rw [same]
        exact typeName_filled .userRegistered
  rw [Settings.deployment, parse_messageOf _ typed] at parsed
  cases parsed
  have identified : messageId = row.id.toText := by
    rw [Messaging.keyOf, parse_messageOf _ typed] at keyed
    exact (Option.some.inj keyed).symm
  cases linked.committed row listed with
  | transaction event committed same =>
      subst same
      rcases linked.bank.quoted committed with ⟨settled, row, quotes⟩
      have carried : effect.messageId = some event.id.toText := by
        rw [named, identified]
        rfl
      refine .inl ⟨settled, row, event, committed, quotes, carried, ?_⟩
      rcases transaction_tells quotes tells with
        ⟨own, output⟩ | ⟨own, customer, found, cents, close, output⟩
      · exact .inl ⟨own, output⟩
      · exact .inr ⟨own, customer, found.contactOf, cents, close, output⟩
  | registration createdAt id event committed same =>
      subst same
      rcases registration_tells tells with ⟨own, customer, found, output⟩
      exact .inr ⟨own, event, committed, customer, found.contactOf, output⟩

theorem audits_truthful (settings : Settings Worker) (requests : Thread → Request)
    (visits : Visitor → Auth.Request) : AuditsTruthful Publisher settings requests visits := by
  intro state reachable effect member data output
  rcases reachable.linked.tells member with
    ⟨row, listed, event, committed, quotes, _, audits | mails⟩ | ⟨_, event, _, contact, _, welcomes⟩
  · rw [audits.2] at output
    cases output
    exact ⟨row, listed, event, committed, quotes, rfl⟩
  · rcases mails with ⟨_, contact, _, cents, _, mails⟩
    rw [mails] at output
    cases output
  · rw [welcomes] at output
    cases output

theorem mails_truthful (settings : Settings Worker) (requests : Thread → Request)
    (visits : Visitor → Auth.Request) : MailsTruthful Publisher settings requests visits := by
  intro state reachable effect member mail output
  rcases reachable.linked.tells member with
    ⟨row, listed, event, recorded, quotes, _, audits | mails⟩ |
      ⟨_, event, committed, contact, found, welcomes⟩
  · rw [audits.2] at output
    cases output
  · rcases mails with ⟨_, contact, found, cents, close, mails⟩
    rw [mails] at output
    cases output
    exact .inl ⟨row, listed, event, recorded, quotes, contact, found, cents, close, rfl⟩
  · rw [welcomes] at output
    cases output
    exact .inr ⟨event, committed, contact, found, rfl⟩

end Truth

/-! ## Each transaction is recorded once -/

section Once

variable (settings : Settings Worker) (requests : Thread → Request)
  (visits : Visitor → Auth.Request)

omit [DecidableEq Thread] [Fintype Thread] [DecidableEq Visitor] [DecidableEq Publisher]
  [DecidableEq Worker] in
def State.auditsOf (state : State Thread Visitor Publisher Worker) (row : Transaction) :
    List Messaging.Effect :=
  state.consumers.shared.effects.filter fun effect =>
    match effect.output with
    | .auditLog data => data.entityId == row.id.toText
    | .email _ => false

/-- The event of a transaction is still to be published, or its message is still with
`RabbitMqConsumer`, or the transaction has its audit row. -/
inductive Whereabouts (state : State Thread Visitor Publisher Worker) (row : Transaction) : Prop
  | unpublished (event : Event) (committed : event ∈ state.bank.shared.server.database.events)
      (quotes : Quotes row event)
      (stored : Outbox.Event EventPayload) (listed : stored ∈ state.outbox.shared.events)
      (same : stored.contents = transactionRow event) (unprocessed : stored.status ≠ .processed)
  | unfinished (event : Event) (committed : event ∈ state.bank.shared.server.database.events)
      (quotes : Quotes row event)
      (accounted : Messaging.Accounted settings.deployment
        (messageOf settings.events (transactionRow event)) .rabbitMq state.consumers.shared)
      (uncompleted : ¬state.consumers.shared.Completed .rabbitMq event.id.toText)
  | recorded (once : (state.auditsOf row).length = 1)

/-- The consumers refuse claims only for completed messages and for held ones, and a
completed message is marked as failed only by a worker that still has its delivery. -/
def Holding (state : State Thread Visitor Publisher Worker) :
    Label Thread Visitor Publisher Worker → Prop
  | .consumers label =>
      (Messaging.held settings.deployment).allowed state.consumers (state.answering label)
  | _ => True

/-- Moreover no claim takes over a message whose output was or is about to be produced. -/
def Delivering (state : State Thread Visitor Publisher Worker) :
    Label Thread Visitor Publisher Worker → Prop
  | .consumers label =>
      (Messaging.held settings.deployment).allowed state.consumers (state.answering label) ∧
        (Messaging.unproduced settings.deployment).allowed state.consumers (state.answering label)
  | _ => True

variable (Publisher)

/-- In every state reached, each event that the bank or `AuthService` has committed has its row,
and once the row is processed both consumers account for its message. -/
structure CarriesAll
    (allowed : State Thread Visitor Publisher Worker →
      Label Thread Visitor Publisher Worker → Prop) : Prop where
  transactions : ∀ redis now visited listed queued state, Run (step settings) allowed
    (initial Publisher settings requests visits redis now visited listed queued) state →
      ∀ event ∈ state.bank.shared.server.database.events,
        ∃ stored ∈ state.outbox.shared.events, stored.contents = transactionRow event ∧
          (stored.status = .processed → ∀ consumer, Messaging.Accounted settings.deployment
            (messageOf settings.events stored.contents) consumer state.consumers.shared)
  registrations : ∀ redis now visited listed queued state, Run (step settings) allowed
    (initial Publisher settings requests visits redis now visited listed queued) state →
      ∀ event ∈ state.auth.shared.server.events,
        ∃ stored ∈ state.outbox.shared.events,
          (∃ createdAt id, stored.contents = registrationRow createdAt id event) ∧
          (stored.status = .processed → ∀ consumer, Messaging.Accounted settings.deployment
            (messageOf settings.events stored.contents) consumer state.consumers.shared)

/-- In every state reached, each committed transaction has at most one audit row, and it has
one unless its message is still on its way. -/
structure RecordedOnce
    (allowed : State Thread Visitor Publisher Worker →
      Label Thread Visitor Publisher Worker → Prop) : Prop where
  atMostOnce : ∀ redis now visited listed queued state, Run (step settings) allowed
    (initial Publisher settings requests visits redis now visited listed queued) state →
      ∀ row ∈ state.bank.shared.server.database.transactions,
        (state.auditsOf row).length ≤ 1
  whereabouts : ∀ redis now visited listed queued state, Run (step settings) allowed
    (initial Publisher settings requests visits redis now visited listed queued) state →
      ∀ row ∈ state.bank.shared.server.database.transactions,
        Whereabouts settings state row

end Once

section Once

variable {settings : Settings Worker} {requests : Thread → Request}
  {visits : Visitor → Auth.Request} {before after state : State Thread Visitor Publisher Worker}
  {row : Transaction} {event : Event}

/-! ### The run of the consumers -/

theorem consumers_of_step {label : Label Thread Visitor Publisher Worker}
    (taken : step settings before label = some after) :
    after.consumers = before.consumers ∨
      (∃ message, settings.deployment.step before.consumers (.environment (.publish message)) =
        some after.consumers) ∨
      ∃ moved, label = .consumers moved ∧
        settings.deployment.step before.consumers (before.answering moved) =
          some after.consumers := by
  unfold step at taken
  split at taken
  · rcases Option.bind_eq_some_iff.mp taken with ⟨bank, moved, rest⟩
    rcases Option.bind_eq_some_iff.mp rest with ⟨outbox, inserted, same⟩
    cases same
    exact .inl rfl
  · rcases Option.bind_eq_some_iff.mp taken with ⟨auth, moved, rest⟩
    rcases Option.ite_none_right_eq_some.mp rest with ⟨drawn, rest⟩
    rcases Option.bind_eq_some_iff.mp rest with ⟨outbox, inserted, same⟩
    cases same
    exact .inl rfl
  · cases taken
  · rename_i label created
    rcases Option.bind_eq_some_iff.mp taken with ⟨outbox, moved, rest⟩
    rcases Option.bind_eq_some_iff.mp rest with ⟨consumers, received, same⟩
    cases same
    cases arrived : arrives settings.events before.outbox label with
    | none =>
        rw [arrived] at received
        exact .inl (Option.some.inj received).symm
    | some message =>
        rw [arrived] at received
        exact .inr (.inl ⟨message, received⟩)
  · cases taken
  · rename_i label unpublished
    rcases Option.bind_eq_some_iff.mp taken with ⟨consumers, moved, same⟩
    cases same
    exact .inr (.inr ⟨label, rfl, moved⟩)

theorem consumers_run (condition : Messaging.Condition Worker)
    {allowed : State Thread Visitor Publisher Worker →
      Label Thread Visitor Publisher Worker → Prop}
    (meets : ∀ current moved, allowed current (.consumers moved) →
      condition.allowed current.consumers (current.answering moved))
    (happens : ∀ message current, condition.happens (.publish message) current)
    {redis : Redis.Store} {now visited listed queued : ℕ}
    (run : Run (step settings) allowed
      (initial Publisher settings requests visits redis now visited listed queued) state) :
    Run settings.deployment.step condition.allowed (settings.deployment.initial queued)
      state.consumers := by
  refine run.invariant (fun between => Run settings.deployment.step condition.allowed
    (settings.deployment.initial queued) between.consumers) .start ?_
  intro between label following reached allows taken
  rcases consumers_of_step taken with same | ⟨message, published⟩ | ⟨moved, rfl, stepped⟩
  · rwa [same]
  · exact .next (.environment (.publish message)) reached (happens message _) published
  · exact .next _ reached (meets between moved allows) stepped

/-! ### One event for each transaction -/

theorem Linked.matched (linked : Linked settings requests visits state) :
    Matching Quotes Transaction.id (fun event : Event => event.payload.resourceId)
      state.bank.shared.server.database.transactions state.bank.shared.server.database.events :=
  matching_of_forall₂ linked.bank.quotes (fun _ _ quotes => quotes.names.2.1)
    linked.bank.corresponds.ids

theorem Linked.event_unique (linked : Linked settings requests visits state)
    {first second : Transaction} {one other : Event}
    (oneMember : one ∈ state.bank.shared.server.database.events)
    (otherMember : other ∈ state.bank.shared.server.database.events)
    (quotes : Quotes first one) (others : Quotes second other) (same : first.id = second.id) :
    one = other := by
  apply List.inj_on_of_nodup_map linked.matched.rightDistinct oneMember otherMember
  rw [quotes.names.2.1, others.names.2.1, same]

theorem Linked.contents_unique (linked : Linked settings requests visits state)
    {first second : Contents EventPayload} (one : first ∈ state.outbox.shared.contents)
    (other : second ∈ state.outbox.shared.contents) (same : first.id = second.id) :
    first = second := by
  rcases List.mem_map.mp one with ⟨stored, listed, rfl⟩
  rcases List.mem_map.mp other with ⟨kept, member, rfl⟩
  rw [linked.outbox.invariant.unique listed member same]

/-! ### One audit row for each event -/

/-- The audit rows about a transaction were made of the message of its event. -/
theorem Linked.auditsOf_named (linked : Linked settings requests visits state)
    (committed : event ∈ state.bank.shared.server.database.events) (quotes : Quotes row event)
    {effect : Messaging.Effect} (member : effect ∈ state.consumers.shared.effects)
    {data : Messaging.AuditLogData} (output : effect.output = .auditLog data)
    (about : data.entityId = row.id.toText) :
    effect.consumer = .rabbitMq ∧ effect.messageId = some event.id.toText := by
  rcases linked.tells member with
    ⟨other, _, told, listed, others, named, ⟨own, audits⟩ | ⟨_, _, _, _, _, mails⟩⟩ |
      ⟨_, _, _, _, _, welcomes⟩
  · rw [audits] at output
    cases output
    have same : other.id = row.id := Uuid.toText_injective about
    rw [linked.event_unique committed listed quotes others same.symm]
    exact ⟨own, named⟩
  · rw [mails] at output
    cases output
  · rw [welcomes] at output
    cases output

theorem Linked.auditsOf_le (linked : Linked settings requests visits state)
    (committed : event ∈ state.bank.shared.server.database.events) (quotes : Quotes row event) :
    (state.auditsOf row).length ≤
      state.consumers.shared.produced .rabbitMq event.id.toText := by
  unfold State.auditsOf Messaging.State.produced
  rw [← List.countP_eq_length_filter]
  apply List.countP_mono_left
  intro effect member about
  cases output : effect.output with
  | email mail =>
      simp only [output] at about
      cases about
  | auditLog data =>
      simp only [output] at about
      have named := linked.auditsOf_named committed quotes member output (beq_iff_eq.mp about)
      simp [named.1, named.2]

/-- A message that is completed has left an audit row about its transaction. -/
theorem Linked.auditsOf_pos (linked : Linked settings requests visits state)
    (committed : event ∈ state.bank.shared.server.database.events) (quotes : Quotes row event)
    (completed : state.consumers.shared.Completed .rabbitMq event.id.toText) :
    0 < (state.auditsOf row).length := by
  rcases linked.consumers with ⟨now, run⟩
  rcases Messaging.completed_recorded run completed with ⟨effect, member, own, named⟩
  rcases linked.tells member with
    ⟨other, _, told, listed, others, label, ⟨_, audits⟩ | ⟨mails, _⟩⟩ | ⟨welcomes, _⟩
  · have same : told.id = event.id :=
      Uuid.toText_injective (Option.some.inj (label.symm.trans named))
    have equal := linked.contents_unique (linked.stored told listed)
      (linked.stored event committed) same
    have payload : told.payload = event.payload :=
      EventPayload.transaction.inj (congrArg Contents.payload equal)
    have about : other.id = row.id := by
      rw [← others.names.2.1, payload, quotes.names.2.1]
    apply List.length_pos_of_mem
    apply List.mem_filter.mpr
    refine ⟨member, ?_⟩
    simp [audits, auditOf, about]
  · rw [own] at mails
    cases mails
  · rw [own] at welcomes
    cases welcomes

/-! ### The message of an event -/

theorem routes_typed (settings : EventSettings) (type : EventType) {row : Contents EventPayload}
    (typed : row.type = typeName type) (consumer : Messaging.Consumer) :
    settings.consumers.topology.routes (messageOf settings row) consumer = true := by
  have bound : Messaging.Topology.bound consumer row.type.toLower = true := by
    have completed : "TRANSACTION_COMPLETED".toLower = "transaction_completed" := by
      decide +kernel
    have failed : "TRANSACTION_FAILED".toLower = "transaction_failed" := by decide +kernel
    have registered : "USER_REGISTERED".toLower = "user_registered" := by decide +kernel
    rw [typed]
    cases type with
    | transactionCompleted =>
        rw [typeName, completed]
        cases consumer <;> decide
    | transactionFailed =>
        rw [typeName, failed]
        cases consumer <;> decide
    | userRegistered =>
        rw [typeName, registered]
        cases consumer <;> decide
  have exchange : (messageOf settings row).exchange = settings.outbox.exchange := rfl
  unfold Messaging.Topology.routes
  rw [if_neg (exchange ▸ settings.named), exchange, settings.shared, beq_self_eq_true,
    Bool.true_and]
  exact bound

omit [DecidableEq Thread] [Fintype Thread] [DecidableEq Visitor] [DecidableEq Publisher]
  [DecidableEq Worker] in
theorem Committed.typed {row : Contents EventPayload} (committed : Committed state row) :
    ∃ type, row.type = typeName type := by
  cases committed with
  | transaction event member same => exact ⟨event.type, congrArg Contents.type same⟩
  | registration createdAt id event member same =>
      exact ⟨.userRegistered, congrArg Contents.type same⟩

theorem Linked.processed_published (linked : Linked settings requests visits state)
    {stored : Outbox.Event EventPayload} (listed : stored ∈ state.outbox.shared.events)
    (processed : stored.status = .processed) :
    messageOf settings.events stored.contents ∈ state.consumers.shared.published := by
  have confirmed := linked.outbox.invariant.confirmed stored listed processed
  rcases linked.confirmed stored.id confirmed with ⟨row, member, named, published⟩
  rw [← linked.contents_unique member (List.mem_map_of_mem listed) named]
  exact published

/-! ### The runs -/

theorem Run.reachable {allowed : State Thread Visitor Publisher Worker →
      Label Thread Visitor Publisher Worker → Prop}
    {redis : Redis.Store} {now visited listed queued : ℕ}
    (run : Run (step settings) allowed
      (initial Publisher settings requests visits redis now visited listed queued) state) :
    Reachable settings requests visits state :=
  ⟨redis, now, visited, listed, queued, run.mono fun _ _ _ => trivial⟩

theorem accounted_of_run {allowed : State Thread Visitor Publisher Worker →
      Label Thread Visitor Publisher Worker → Prop}
    (meets : ∀ current moved, allowed current (.consumers moved) →
      (Messaging.held settings.deployment).allowed current.consumers (current.answering moved))
    {redis : Redis.Store} {now visited listed queued : ℕ}
    (run : Run (step settings) allowed
      (initial Publisher settings requests visits redis now visited listed queued) state)
    {stored : Outbox.Event EventPayload} (member : stored ∈ state.outbox.shared.events)
    (processed : stored.status = .processed) (consumer : Messaging.Consumer) :
    Messaging.Accounted settings.deployment (messageOf settings.events stored.contents) consumer
      state.consumers.shared := by
  have linked := (Run.reachable run).linked
  have custody := (Messaging.custodyInvariant settings.deployment).reached
    (Messaging.custody_initial settings.deployment queued)
    (consumers_run (Messaging.held settings.deployment) meets (fun _ _ => trivial) run)
  rcases (linked.committed stored.contents (List.mem_map_of_mem member)).typed with ⟨type, typed⟩
  have kept := custody.kept _ (linked.processed_published member processed) consumer
    (routes_typed settings.events type typed consumer)
  exact kept.accounted

theorem carries_all (settings : Settings Worker) (requests : Thread → Request)
    (visits : Visitor → Auth.Request) :
    CarriesAll Publisher settings requests visits (Holding settings) where
  transactions redis now visited listed queued state run event committed := by
    have linked := (Run.reachable run).linked
    rcases List.mem_map.mp (linked.stored event committed) with ⟨stored, member, same⟩
    refine ⟨stored, member, same, fun processed consumer => ?_⟩
    exact accounted_of_run (fun _ _ allows => allows) run member processed consumer
  registrations redis now visited listed queued state run event committed := by
    have linked := (Run.reachable run).linked
    rcases linked.registered event committed with ⟨createdAt, id, present⟩
    rcases List.mem_map.mp present with ⟨stored, member, same⟩
    refine ⟨stored, member, ⟨createdAt, id, same⟩, fun processed consumer => ?_⟩
    exact accounted_of_run (fun _ _ allows => allows) run member processed consumer

theorem recorded_once (settings : Settings Worker) (requests : Thread → Request)
    (visits : Visitor → Auth.Request) :
    RecordedOnce Publisher settings requests visits (Delivering settings) := by
  have atMost (redis now visited listed queued)
      (state : State Thread Visitor Publisher Worker)
      (run : Run (step settings) (Delivering settings)
        (initial Publisher settings requests visits redis now visited listed queued) state)
      (row : Transaction) (member : row ∈ state.bank.shared.server.database.transactions) :
      (state.auditsOf row).length ≤ 1 := by
    have linked := (Run.reachable run).linked
    rcases exists_related linked.bank.quotes member with ⟨event, committed, quotes⟩
    have delivered := consumers_run (Messaging.unproduced settings.deployment)
      (fun _ _ allows => allows.2) (fun _ _ => trivial) run
    have single := (Messaging.singleInvariant settings.deployment).reached
      (Messaging.single_initial settings.deployment queued) delivered
    exact (linked.auditsOf_le committed quotes).trans (single.once _ _)
  refine ⟨atMost, ?_⟩
  intro redis now visited listed queued state run row member
  have linked := (Run.reachable run).linked
  rcases exists_related linked.bank.quotes member with ⟨event, committed, quotes⟩
  rcases List.mem_map.mp (linked.stored event committed) with ⟨stored, present, same⟩
  by_cases processed : stored.status = .processed
  · by_cases completed : state.consumers.shared.Completed .rabbitMq event.id.toText
    · have least := linked.auditsOf_pos committed quotes completed
      have most := atMost redis now visited listed queued state run row member
      exact .recorded (by omega)
    · have accounted := accounted_of_run (fun _ _ allows => allows.1) run present processed
        .rabbitMq
      rw [same] at accounted
      exact .unfinished event committed quotes accounted completed
  · exact .unpublished event committed quotes stored present same processed

end Once

/-! ### From the calls to the consumers -/

def datedSettings : EventSettings :=
  Messaging.defaultSettings fun _ => "2024-01-01T00:00:00.000Z"

/-- The first worker is of `RabbitMqConsumer`, the others are of `EmailConsumer`. -/
def mailingSettings : Settings (Fin 3) where
  auth := Auth.sampleConfig
  events :=
    { datedSettings with
      consumers := { datedSettings.consumers with email := { smtpHost := some "localhost" } } }
  consumers worker := if worker = 0 then .rabbitMq else .email

def visiting (_ : Unit) : Auth.Request :=
  { Auth.registering with context := { traceId := some "1" } }

def openingAndDeposit : Fin 3 → Request
  | 0 => { userId := ⟨7⟩, operation := .createAccount ⟨.USD⟩ }
  | _ => { userId := ⟨7⟩, operation := sampleDeposit }

/-- A customer registers and makes a deposit, the outbox publishes both events, and each
worker takes a message. -/
def depositSteps : List (Label (Fin 3) Unit Unit (Fin 3)) :=
  List.replicate 5 (.auth (Auth.act () 7) []) ++
    [.auth (Auth.act () 7) [⟨5⟩], .auth (Auth.act () 7) [],
      .bank (act 0), .bank (act 0 sampleId), .bank (act 0)] ++
    List.replicate 8 (.bank (act 1 3)) ++ List.replicate 11 (.outbox (.perform () {})) ++
    .consumers (.perform 0 { position := 1 }) :: List.replicate 4 (.consumers (.perform 0 {})) ++
    List.replicate 6 (.consumers (.perform 1 {})) ++ List.replicate 6 (.consumers (.perform 2 {}))

/-- The deposit is recorded, and the customer is welcomed and told of it. -/
example : ((execute (step mailingSettings) (fun _ _ => true)
    (initial Unit mailingSettings openingAndDeposit visiting .empty 0 0 0 0) depositSteps).map
    fun state => state.consumers.shared.effects.map fun effect =>
      match effect.output with
      | .auditLog data => (effect.consumer, data.entityId)
      | .email mail => (effect.consumer, mail.text)) = some
    [(.email, "Hi A, your DEPOSIT transaction (00000000-0000-0000-0000-000000000003) for 5.00 has completed successfully."),
      (.email, "Hi A, welcome to Banking Backend. Your account registration is complete."),
      (.rabbitMq, "00000000-0000-0000-0000-000000000003")] := by
  decide +kernel

end BankingBackend.Platform
