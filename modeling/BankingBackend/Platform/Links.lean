import BankingBackend.Auth.Events
import BankingBackend.Messaging.Provenance
import BankingBackend.Platform.System
import BankingBackend.Properties.Quotes

/-! # What links the parts

Every row of the event table is one that a call committed, every message at the
broker is that of a row, and every message the broker has confirmed is there.
-/

namespace BankingBackend.Platform

open Foundation
open Auth (UserRegisteredEvent)
open Messaging (CustomerContact EventSettings Message Sourced Supplied)
open Outbox (Contents)
open Postgres (Event EventType Uuid)

variable {Thread Visitor Publisher Worker : Type} [DecidableEq Thread] [Fintype Thread]
  [DecidableEq Visitor] [DecidableEq Publisher] [DecidableEq Worker]

/-! ## What a step is -/

inductive Moves (settings : Settings Worker)
    (before after : State Thread Visitor Publisher Worker) : Prop
  | bank {label : BankingBackend.Label Thread}
      (taken : BankingBackend.step before.bank label = some after.bank)
      (inserted : insert before.outbox ((after.bank.shared.server.database.events.drop
        before.bank.shared.server.database.events.length).map transactionRow) = some after.outbox)
      (auth : after.auth = before.auth) (consumers : after.consumers = before.consumers)
  | auth {label : Auth.Label Visitor} {newIds : List Uuid} {createdAt : ℕ}
      (taken : Auth.step settings.auth before.auth label = some after.auth)
      (drawn : newIds.length = (after.auth.shared.server.events.drop
        before.auth.shared.server.events.length).length)
      (inserted : insert before.outbox (List.zipWith (registrationRow createdAt) newIds
        (after.auth.shared.server.events.drop before.auth.shared.server.events.length)) =
          some after.outbox)
      (bank : after.bank = before.bank) (consumers : after.consumers = before.consumers)
  | outbox {label : Outbox.Label Publisher EventPayload}
      (taken : Outbox.step before.outbox label = some after.outbox)
      (contents : after.outbox.shared.contents = before.outbox.shared.contents)
      (received : receive settings before.consumers
        (arrives settings.events before.outbox label) = some after.consumers)
      (bank : after.bank = before.bank) (auth : after.auth = before.auth)
  | consumers {label : Messaging.Label Worker}
      (unpublished : ∀ message, label ≠ .environment (.publish message))
      (taken : settings.deployment.step before.consumers (before.answering label) =
        some after.consumers)
      (bank : after.bank = before.bank) (auth : after.auth = before.auth)
      (outbox : after.outbox = before.outbox)

section Steps

variable {settings : Settings Worker} {before after : State Thread Visitor Publisher Worker}

omit [DecidableEq Thread] [Fintype Thread] [DecidableEq Visitor] [DecidableEq Worker] in
theorem contents_of_step {before after : Outbox.Configuration Publisher EventPayload}
    {label : Outbox.Label Publisher EventPayload}
    (created : ∀ id type payload createdAt,
      label ≠ .environment (.create id type payload createdAt))
    (taken : Outbox.step before label = some after) :
    after.shared.contents = before.shared.contents := by
  cases label with
  | perform publisher choice =>
      rcases Machine.step_perform taken with ⟨op, next, answer, shared, _, performed, rfl⟩
      exact Outbox.perform_contents performed
  | environment event =>
      cases event with
      | create id type payload createdAt => exact absurd rfl (created id type payload createdAt)
      | tick now =>
          rcases Machine.step_environment taken with ⟨shared, happened, rfl⟩
          have moved : before.shared.now ≤ now ∧ { before.shared with now } = shared := by
            simpa [Outbox.machine, Outbox.State.environment] using happened
          rw [← moved.2]
          rfl

theorem moves_of_step {label : Label Thread Visitor Publisher Worker}
    (taken : step settings before label = some after) : Moves settings before after := by
  unfold step at taken
  split at taken
  · rename_i label
    rcases Option.bind_eq_some_iff.mp taken with ⟨bank, moved, rest⟩
    rcases Option.bind_eq_some_iff.mp rest with ⟨outbox, inserted, same⟩
    cases same
    exact .bank moved inserted rfl rfl
  · rename_i label newIds
    rcases Option.bind_eq_some_iff.mp taken with ⟨auth, moved, rest⟩
    rcases Option.ite_none_right_eq_some.mp rest with ⟨drawn, rest⟩
    rcases Option.bind_eq_some_iff.mp rest with ⟨outbox, inserted, same⟩
    cases same
    exact .auth moved drawn inserted rfl rfl
  · cases taken
  · rename_i label created
    rcases Option.bind_eq_some_iff.mp taken with ⟨outbox, moved, rest⟩
    rcases Option.bind_eq_some_iff.mp rest with ⟨consumers, received, same⟩
    cases same
    refine .outbox moved (contents_of_step ?_ moved) received rfl rfl
    rintro id type payload createdAt rfl
    exact created id type payload createdAt rfl
  · cases taken
  · rename_i label unpublished
    rcases Option.bind_eq_some_iff.mp taken with ⟨consumers, moved, same⟩
    cases same
    refine .consumers ?_ moved rfl rfl rfl
    rintro message rfl
    exact unpublished message rfl

/-! ## Rows that are inserted -/

omit [DecidableEq Thread] [Fintype Thread] [DecidableEq Visitor] [DecidableEq Worker] in
structure Inserted (rows : List (Contents EventPayload))
    (before after : Outbox.Configuration Publisher EventPayload) : Prop where
  contents : after.shared.contents = before.shared.contents ++ rows
  confirmed : after.shared.confirmed = before.shared.confirmed
  run : Run Outbox.step Unrestricted before after

omit [DecidableEq Thread] [Fintype Thread] [DecidableEq Visitor] [DecidableEq Worker] in
theorem inserted_of_insert {rows : List (Contents EventPayload)}
    {before after : Outbox.Configuration Publisher EventPayload}
    (done : insert before rows = some after) : Inserted rows before after := by
  induction rows generalizing before with
  | nil =>
      cases done
      exact ⟨(List.append_nil _).symm, rfl, .start⟩
  | cons row rows induction =>
      rcases Option.bind_eq_some_iff.mp done with ⟨between, taken, rest⟩
      have later := induction rest
      have first : Run Outbox.step Unrestricted before between := .next _ .start trivial taken
      rcases Machine.step_environment taken with ⟨shared, happened, rfl⟩
      rcases Option.ite_none_left_eq_some.mp happened with ⟨_, same⟩
      cases same
      refine ⟨?_, later.confirmed, first.trans later.run⟩
      rw [later.contents]
      unfold Outbox.State.contents
      rw [List.map_append, List.append_assoc]
      rfl

end Steps

/-! ## Committed events stay -/

section Events

variable {settings : Settings Worker}

omit [DecidableEq Visitor] [DecidableEq Publisher] [DecidableEq Worker] in
theorem bank_events {fraud : Fraud.FraudConfig} {requests : Thread → Request}
    {before after : BankingBackend.Configuration Thread} {label : BankingBackend.Label Thread}
    (reachable : BankingBackend.Reachable fraud requests before)
    (taken : BankingBackend.step before label = some after) :
    ∃ events, after.shared.server.database.events =
      before.shared.server.database.events ++ events := by
  rcases reachable.step_cases taken with same | ⟨thread, choice, _, effect⟩
  · exact ⟨[], by rw [same, List.append_nil]⟩
  · generalize after.shared.server = later at effect
    cases effect with
    | unchanged => exact ⟨[], (List.append_nil _).symm⟩
    | works => exact ⟨[], (List.append_nil _).symm⟩
    | commits tx => exact ⟨tx.events, rfl⟩

omit [DecidableEq Thread] [Fintype Thread] [DecidableEq Publisher] [DecidableEq Worker] in
theorem auth_events {config : Auth.AuthConfig} {before after : Auth.Configuration Visitor}
    {label : Auth.Label Visitor} (taken : Auth.step config before label = some after) :
    ∃ events, after.shared.server.events = before.shared.server.events ++ events := by
  cases label with
  | environment event =>
      rcases Machine.step_environment taken with ⟨shared, happened, rfl⟩
      cases event with
      | tick now =>
          rcases Option.ite_none_right_eq_some.mp happened with ⟨_, same⟩
          cases same
          exact ⟨[], (List.append_nil _).symm⟩
      | crash visitor =>
          cases happened
          exact ⟨[], (List.append_nil _).symm⟩
  | perform visitor choice =>
      rcases Machine.step_perform taken with ⟨command, next, answer, shared, _, performed, rfl⟩
      rcases Option.ite_none_left_eq_some.mp performed with ⟨_, performed⟩
      cases command with
      | query statement =>
          rcases Option.map_eq_some_iff.mp performed with ⟨⟨reply, server⟩, done, same⟩
          cases same
          cases Auth.perform_performs done with
          | answered executes => exact ⟨_, executes.progress.2⟩
          | failed error thrown fails =>
              cases fails with
              | kept same => exact ⟨[], by rw [same, List.append_nil]⟩
              | ended ends result => exact ⟨[], by rw [result]; exact (List.append_nil _).symm⟩
              | executed answer executes => exact ⟨_, executes.progress.2⟩
      | date | bcryptHash | randomBytes | signAsync =>
          cases performed
          exact ⟨[], (List.append_nil _).symm⟩

end Events

/-! ## The links -/

def messageOf (settings : EventSettings) (row : Contents EventPayload) : Message :=
  sent settings settings.outbox.exchange row.type.toLower
    { eventId := row.id
      type := row.type
      occurredAt := row.createdAt
      schemaVersion := Outbox.BANKING_EVENT_SCHEMA_VERSION
      payload := row.payload }
    { messageId := row.id
      timestamp := row.createdAt
      headers :=
        { eventType := row.type
          source := "banking-backend"
          schemaVersion := Outbox.BANKING_EVENT_SCHEMA_VERSION } }

inductive Committed (state : State Thread Visitor Publisher Worker)
    (row : Contents EventPayload) : Prop
  | transaction (event : Event) (committed : event ∈ state.bank.shared.server.database.events)
      (same : row = transactionRow event)
  | registration (createdAt : ℕ) (id : Uuid) (event : UserRegisteredEvent)
      (committed : event ∈ state.auth.shared.server.events)
      (same : row = registrationRow createdAt id event)

section Links

variable (settings : Settings Worker) (requests : Thread → Request)
  (visits : Visitor → Auth.Request)

/-- The customer was to be reached so at some time. -/
def Reached (state : State Thread Visitor Publisher Worker) (id : String)
    (contact : CustomerContact) : Prop :=
  ∃ earlier, Reachable settings requests visits earlier ∧
    Run (step settings) Unrestricted earlier state ∧ earlier.contact? id = some contact

/-- The message is that of a row, but for its headers. -/
def OfRow (state : State Thread Visitor Publisher Worker) (body : Message) : Prop :=
  ∃ row ∈ state.outbox.shared.contents, body = (messageOf settings.events row).body

structure Linked (state : State Thread Visitor Publisher Worker) : Prop where
  bank : BankingBackend.Reachable settings.fraud requests state.bank
  auth : Auth.Reachable settings.auth visits Unrestricted state.auth
  outbox : Outbox.Reachable settings.events.outbox state.outbox
  consumers : ∃ now, Run settings.deployment.step Unrestricted (settings.deployment.initial now)
    state.consumers
  committed : ∀ row ∈ state.outbox.shared.contents, Committed state row
  stored : ∀ event ∈ state.bank.shared.server.database.events,
    transactionRow event ∈ state.outbox.shared.contents
  registered : ∀ event ∈ state.auth.shared.server.events, ∃ createdAt id,
    registrationRow createdAt id event ∈ state.outbox.shared.contents
  published : ∀ message ∈ state.consumers.shared.published,
    ∃ row ∈ state.outbox.shared.contents, message = messageOf settings.events row
  confirmed : ∀ id ∈ state.outbox.shared.confirmed, ∃ row ∈ state.outbox.shared.contents,
    row.id = id ∧ messageOf settings.events row ∈ state.consumers.shared.published
  sourced : Sourced settings.deployment (OfRow settings state)
    (Reached settings requests visits state) state.consumers

variable {settings requests visits} {before after : State Thread Visitor Publisher Worker}

theorem Reached.step {label : Label Thread Visitor Publisher Worker} {id : String}
    {contact : CustomerContact} (reached : Reached settings requests visits before id contact)
    (taken : step settings before label = some after) :
    Reached settings requests visits after id contact := by
  rcases reached with ⟨earlier, reachable, run, found⟩
  exact ⟨earlier, reachable, .next label run trivial taken, found⟩

omit [DecidableEq Thread] [Fintype Thread] [DecidableEq Visitor] [DecidableEq Publisher]
  [DecidableEq Worker] in
theorem Committed.mono {row : Contents EventPayload} (committed : Committed before row)
    (bank : before.bank.shared.server.database.events ⊆ after.bank.shared.server.database.events)
    (auth : before.auth.shared.server.events ⊆ after.auth.shared.server.events) :
    Committed after row := by
  cases committed with
  | transaction event member same => exact .transaction event (bank member) same
  | registration createdAt id event member same =>
      exact .registration createdAt id event (auth member) same

omit [DecidableEq Thread] [Fintype Thread] [DecidableEq Visitor] [DecidableEq Publisher]
  [DecidableEq Worker] in
theorem OfRow.mono {body : Message} (ofRow : OfRow settings before body)
    (grow : before.outbox.shared.contents ⊆ after.outbox.shared.contents) :
    OfRow settings after body := by
  rcases ofRow with ⟨row, member, same⟩
  exact ⟨row, grow member, same⟩

theorem Linked.inserts {label : Label Thread Visitor Publisher Worker}
    {rows : List (Contents EventPayload)}
    (linked : Linked settings requests visits before)
    (taken : step settings before label = some after)
    (inserted : Inserted rows before.outbox after.outbox)
    (consumers : after.consumers = before.consumers)
    (bank : BankingBackend.Reachable settings.fraud requests after.bank)
    (auth : Auth.Reachable settings.auth visits Unrestricted after.auth)
    (committed : ∀ row ∈ after.outbox.shared.contents, Committed after row)
    (stored : ∀ event ∈ after.bank.shared.server.database.events,
      transactionRow event ∈ after.outbox.shared.contents)
    (registered : ∀ event ∈ after.auth.shared.server.events, ∃ createdAt id,
      registrationRow createdAt id event ∈ after.outbox.shared.contents) :
    Linked settings requests visits after := by
  have grow : before.outbox.shared.contents ⊆ after.outbox.shared.contents := by
    rw [inserted.contents]
    exact List.subset_append_left _ _
  refine
    { bank, auth, committed, stored, registered
      outbox := ?_
      consumers := by
        rw [consumers]
        exact linked.consumers
      published := fun message member => ?_
      confirmed := fun id member => ?_
      sourced := ?_ }
  · rcases linked.outbox with ⟨now, run⟩
    exact ⟨now, run.trans inserted.run⟩
  · rw [consumers] at member
    rcases linked.published message member with ⟨row, listed, same⟩
    exact ⟨row, grow listed, same⟩
  · rw [inserted.confirmed] at member
    rcases linked.confirmed id member with ⟨row, listed, named, published⟩
    rw [consumers]
    exact ⟨row, grow listed, named, published⟩
  · rw [consumers]
    exact linked.sourced.mono (fun _ ofRow => ofRow.mono grow) fun _ _ reached =>
      reached.step taken

theorem Linked.bank_step {label : Label Thread Visitor Publisher Worker}
    {moved : BankingBackend.Label Thread} (linked : Linked settings requests visits before)
    (taken : step settings before label = some after)
    (stepped : BankingBackend.step before.bank moved = some after.bank)
    (inserted : insert before.outbox ((after.bank.shared.server.database.events.drop
      before.bank.shared.server.database.events.length).map transactionRow) = some after.outbox)
    (auth : after.auth = before.auth) (consumers : after.consumers = before.consumers) :
    Linked settings requests visits after := by
  rcases bank_events linked.bank stepped with ⟨events, grown⟩
  rw [grown, List.drop_left] at inserted
  have rows := inserted_of_insert inserted
  refine linked.inserts taken rows consumers (linked.bank.next stepped) (auth ▸ linked.auth)
    ?_ ?_ ?_
  · intro row member
    rw [rows.contents] at member
    rcases List.mem_append.mp member with old | new
    · apply (linked.committed row old).mono
      · rw [grown]
        exact List.subset_append_left _ _
      · rw [auth]
        exact List.Subset.refl _
    · rcases List.mem_map.mp new with ⟨event, listed, rfl⟩
      apply Committed.transaction event _ rfl
      rw [grown]
      exact List.mem_append_right _ listed
  · intro event member
    rw [grown] at member
    rw [rows.contents]
    rcases List.mem_append.mp member with old | new
    · exact List.mem_append_left _ (linked.stored event old)
    · exact List.mem_append_right _ (List.mem_map_of_mem new)
  · intro event member
    rw [auth] at member
    rcases linked.registered event member with ⟨createdAt, id, listed⟩
    rw [rows.contents]
    exact ⟨createdAt, id, List.mem_append_left _ listed⟩

theorem Linked.auth_step {label : Label Thread Visitor Publisher Worker}
    {moved : Auth.Label Visitor} {newIds : List Uuid} {createdAt : ℕ}
    (linked : Linked settings requests visits before)
    (taken : step settings before label = some after)
    (stepped : Auth.step settings.auth before.auth moved = some after.auth)
    (drawn : newIds.length = (after.auth.shared.server.events.drop
      before.auth.shared.server.events.length).length)
    (inserted : insert before.outbox (List.zipWith (registrationRow createdAt) newIds
      (after.auth.shared.server.events.drop before.auth.shared.server.events.length)) =
        some after.outbox)
    (bank : after.bank = before.bank) (consumers : after.consumers = before.consumers) :
    Linked settings requests visits after := by
  rcases auth_events stepped with ⟨events, grown⟩
  rw [grown, List.drop_left] at inserted drawn
  have rows := inserted_of_insert inserted
  have reachable : Auth.Reachable settings.auth visits Unrestricted after.auth := by
    rcases linked.auth with ⟨now, run⟩
    exact ⟨now, .next moved run trivial stepped⟩
  refine linked.inserts taken rows consumers (bank ▸ linked.bank) reachable ?_ ?_ ?_
  · intro row member
    rw [rows.contents] at member
    rcases List.mem_append.mp member with old | new
    · apply (linked.committed row old).mono
      · rw [bank]
        exact List.Subset.refl _
      · rw [grown]
        exact List.subset_append_left _ _
    · rcases List.mem_iff_getElem.mp new with ⟨index, within, rfl⟩
      rw [List.length_zipWith] at within
      rw [List.getElem_zipWith]
      refine .registration createdAt _ _ ?_ rfl
      rw [grown]
      exact List.mem_append_right _ (List.getElem_mem _)
  · intro event member
    rw [bank] at member
    rw [rows.contents]
    exact List.mem_append_left _ (linked.stored event member)
  · intro event member
    rw [grown] at member
    rw [rows.contents]
    rcases List.mem_append.mp member with old | new
    · rcases linked.registered event old with ⟨earlier, id, listed⟩
      exact ⟨earlier, id, List.mem_append_left _ listed⟩
    · rcases List.mem_iff_getElem.mp new with ⟨index, within, rfl⟩
      have listed : index < newIds.length := by omega
      refine ⟨createdAt, newIds[index], List.mem_append_right _ ?_⟩
      have zipped : index < (List.zipWith (registrationRow createdAt) newIds events).length := by
        rw [List.length_zipWith]
        omega
      have present := List.getElem_mem zipped
      rwa [List.getElem_zipWith] at present

/-! ### Messages to the broker -/

omit [DecidableEq Thread] [Fintype Thread] [DecidableEq Visitor] [DecidableEq Worker] in
/-- Whatever the outbox hands to the broker is the message of a row. -/
theorem arrives_row {config : EventSettings}
    {outbox : Outbox.Configuration Publisher EventPayload}
    {label : Outbox.Label Publisher EventPayload} {message : Message}
    (reachable : Outbox.Reachable config.outbox outbox)
    (arrived : arrives config outbox label = some message) :
    ∃ row ∈ outbox.shared.contents, message = messageOf config row := by
  unfold arrives at arrived
  split at arrived
  · cases arrived
  · split at arrived
    · rename_i exchange routingKey message options next program
      rcases reachable.publishes program with ⟨row, listed, same⟩
      cases same
      have handed := (Option.ite_none_right_eq_some.mp arrived).2
      exact ⟨row, listed, (Option.some.inj handed).symm⟩
    · cases arrived

omit [DecidableEq Thread] [Fintype Thread] [DecidableEq Visitor] [DecidableEq Worker] in
theorem arrives_confirmed {config : EventSettings}
    {outbox later : Outbox.Configuration Publisher EventPayload}
    {label : Outbox.Label Publisher EventPayload} {id : Uuid}
    (reachable : Outbox.Reachable config.outbox outbox)
    (taken : Outbox.step outbox label = some later) (confirmed : id ∈ later.shared.confirmed)
    (created : later.shared.contents = outbox.shared.contents) :
    id ∈ outbox.shared.confirmed ∨ ∃ row ∈ outbox.shared.contents, row.id = id ∧
      arrives config outbox label = some (messageOf config row) := by
  cases label with
  | environment event =>
      rcases Machine.step_environment taken with ⟨shared, happened, rfl⟩
      left
      cases event with
      | tick now =>
          have moved : outbox.shared.now ≤ now ∧ { outbox.shared with now } = shared := by
            simpa [Outbox.machine, Outbox.State.environment] using happened
          rw [← moved.2] at confirmed
          exact confirmed
      | create rowId type payload createdAt =>
          rcases Option.ite_none_left_eq_some.mp happened with ⟨_, same⟩
          cases same
          exact confirmed
  | perform publisher choice =>
      rcases Machine.step_perform taken with ⟨op, next, answer, shared, program, performed, rfl⟩
      rcases Outbox.perform_confirmed performed confirmed with
        old | ⟨succeeds, exchange, routingKey, message, options, rfl, rfl⟩
      · exact .inl old
      · right
        rcases reachable.publishes program with ⟨row, listed, same⟩
        cases same
        refine ⟨row, listed, rfl, ?_⟩
        simp only [arrives, program, succeeds, Option.all_none, if_true]
        rfl

theorem Linked.outbox_step {label : Label Thread Visitor Publisher Worker}
    {moved : Outbox.Label Publisher EventPayload} (linked : Linked settings requests visits before)
    (taken : step settings before label = some after)
    (stepped : Outbox.step before.outbox moved = some after.outbox)
    (contents : after.outbox.shared.contents = before.outbox.shared.contents)
    (received : receive settings before.consumers
      (arrives settings.events before.outbox moved) = some after.consumers)
    (bank : after.bank = before.bank) (auth : after.auth = before.auth) :
    Linked settings requests visits after := by
  have known : Sourced settings.deployment (OfRow settings after)
      (Reached settings requests visits after) before.consumers := by
    refine linked.sourced.mono (fun _ ofRow => ofRow.mono ?_) fun _ _ reached => reached.step taken
    rw [contents]
    exact List.Subset.refl _
  have consumers : (∃ now, Run settings.deployment.step Unrestricted
        (settings.deployment.initial now) after.consumers) ∧
      Sourced settings.deployment (OfRow settings after) (Reached settings requests visits after)
        after.consumers ∧
      (∀ message, message ∈ after.consumers.shared.published ↔
        message ∈ before.consumers.shared.published ∨
          arrives settings.events before.outbox moved = some message) := by
    cases arrived : arrives settings.events before.outbox moved with
    | none =>
        rw [arrived] at received
        have same : before.consumers = after.consumers := Option.some.inj received
        rw [← same]
        refine ⟨linked.consumers, known, fun message => ?_⟩
        simp
    | some message =>
        rw [arrived] at received
        change settings.deployment.step before.consumers (.environment (.publish message)) =
          some after.consumers at received
        rcases arrives_row linked.outbox arrived with ⟨row, listed, same⟩
        rcases linked.consumers with ⟨now, run⟩
        refine ⟨⟨now, .next _ run trivial received⟩, known.step run ?_ received, fun other => ?_⟩
        · exact ⟨row, contents ▸ listed, congrArg Message.body same⟩
        · rcases Machine.step_environment received with ⟨shared, happened, same⟩
          cases happened
          rw [same]
          simp [eq_comm, or_comm]
  refine
    { bank := bank ▸ linked.bank
      auth := auth ▸ linked.auth
      outbox := ?_
      consumers := consumers.1
      committed := fun row member => ?_
      stored := ?_
      registered := ?_
      published := fun message member => ?_
      confirmed := fun id member => ?_
      sourced := consumers.2.1 }
  · rcases linked.outbox with ⟨now, run⟩
    exact ⟨now, .next moved run trivial stepped⟩
  · rw [contents] at member
    apply (linked.committed row member).mono
    · rw [bank]
      exact List.Subset.refl _
    · rw [auth]
      exact List.Subset.refl _
  · rw [bank, contents]
    exact linked.stored
  · rw [auth, contents]
    exact linked.registered
  · rw [contents]
    rcases (consumers.2.2 message).mp member with old | new
    · exact linked.published message old
    · exact arrives_row linked.outbox new
  · rw [contents]
    rcases arrives_confirmed linked.outbox stepped member contents with
      old | ⟨row, listed, named, arrived⟩
    · rcases linked.confirmed id old with ⟨row, listed, named, published⟩
      exact ⟨row, listed, named, (consumers.2.2 _).mpr (.inl published)⟩
    · exact ⟨row, listed, named, (consumers.2.2 _).mpr (.inr arrived)⟩

theorem Linked.consumers_step {label : Label Thread Visitor Publisher Worker}
    {moved : Messaging.Label Worker} (linked : Linked settings requests visits before)
    (reachable : Reachable settings requests visits before)
    (taken : step settings before label = some after)
    (unpublished : ∀ message, moved ≠ .environment (.publish message))
    (stepped : settings.deployment.step before.consumers (before.answering moved) =
      some after.consumers)
    (bank : after.bank = before.bank) (auth : after.auth = before.auth)
    (outbox : after.outbox = before.outbox) : Linked settings requests visits after := by
  have quiet : ∀ message, before.answering moved ≠ .environment (.publish message) := by
    intro message same
    unfold State.answering at same
    split at same
    · rename_i event
      exact unpublished message same
    · split at same
      · cases same
      · cases same
  have supplied : Supplied (OfRow settings after) (Reached settings requests visits after)
      before.consumers (before.answering moved) := by
    unfold State.answering
    split
    · rename_i event
      cases event with
      | publish message => exact absurd rfl (unpublished message)
      | crash | disconnect | tick => trivial
    · rename_i worker choice
      split
      · rename_i id next program
        intro other rest asks customer found
        rw [program] at asks
        cases asks
        have now : Reached settings requests visits before id customer :=
          ⟨before, reachable, .start, found⟩
        exact now.step taken
      · rename_i others
        intro id next program
        exact absurd program (others id next)
  have known : Sourced settings.deployment (OfRow settings after)
      (Reached settings requests visits after) before.consumers := by
    refine linked.sourced.mono (fun _ ofRow => ofRow.mono ?_) fun _ _ reached => reached.step taken
    rw [outbox]
    exact List.Subset.refl _
  rcases linked.consumers with ⟨now, run⟩
  have published := Messaging.step_published run quiet stepped
  exact
    { bank := bank ▸ linked.bank
      auth := auth ▸ linked.auth
      outbox := outbox ▸ linked.outbox
      consumers := ⟨now, .next _ run trivial stepped⟩
      committed := fun row member => by
        rw [outbox] at member
        apply (linked.committed row member).mono
        · rw [bank]
          exact List.Subset.refl _
        · rw [auth]
          exact List.Subset.refl _
      stored := by
        rw [bank, outbox]
        exact linked.stored
      registered := by
        rw [auth, outbox]
        exact linked.registered
      published := by
        rw [published, outbox]
        exact linked.published
      confirmed := by
        rw [published, outbox]
        exact linked.confirmed
      sourced := known.step run supplied stepped }

theorem Linked.step {label : Label Thread Visitor Publisher Worker}
    (linked : Linked settings requests visits before)
    (reachable : Reachable settings requests visits before)
    (taken : step settings before label = some after) : Linked settings requests visits after := by
  cases moves_of_step taken with
  | bank moved inserted auth consumers =>
      exact linked.bank_step taken moved inserted auth consumers
  | auth moved drawn inserted bank consumers =>
      exact linked.auth_step taken moved drawn inserted bank consumers
  | outbox moved contents received bank auth =>
      exact linked.outbox_step taken moved contents received bank auth
  | consumers unpublished moved bank auth outbox =>
      exact linked.consumers_step reachable taken unpublished moved bank auth outbox

theorem linked_initial (redis : Redis.Store) (now visited listed queued : ℕ) :
    Linked settings requests visits
      (initial Publisher settings requests visits redis now visited listed queued) where
  bank := ⟨redis, now, .start⟩
  auth := ⟨visited, .start⟩
  outbox := ⟨listed, .start⟩
  consumers := ⟨queued, .start⟩
  committed := by
    rintro row ⟨⟩
  stored := by
    rintro event ⟨⟩
  registered := by
    rintro event ⟨⟩
  published := by
    rintro message ⟨⟩
  confirmed := by
    rintro id ⟨⟩
  sourced := Messaging.sourced_initial _ _ _ _

/-- The parts are linked in every state that is reached. -/
theorem Reachable.linked {state : State Thread Visitor Publisher Worker}
    (reachable : Reachable settings requests visits state) :
    Linked settings requests visits state := by
  rcases reachable with ⟨redis, now, visited, listed, queued, run⟩
  have everywhere : Reachable settings requests visits state ∧
      Linked settings requests visits state := by
    refine run.invariant (fun between => Reachable settings requests visits between ∧
      Linked settings requests visits between)
      ⟨⟨redis, now, visited, listed, queued, .start⟩, linked_initial _ _ _ _ _⟩ ?_
    rintro between label following ⟨reachable, linked⟩ _ taken
    refine ⟨?_, linked.step reachable taken⟩
    rcases reachable with ⟨redis, now, visited, listed, queued, run⟩
    exact ⟨redis, now, visited, listed, queued, .next label run trivial taken⟩
  exact everywhere.2

end Links

end BankingBackend.Platform
