import BankingBackend.Foundation.Monitor
import BankingBackend.Outbox.Service

/-! # What the outbox publishes

A row keeps what it was created with. A worker publishes only the message of a row it
has claimed, so every message is that of a row of the table.
-/

namespace BankingBackend.Outbox

open Foundation
open Postgres (Uuid)

/-! ## Contents of a row -/

/-- The columns that no update writes. -/
structure Contents (Payload : Type) where
  id : Uuid
  type : String
  payload : Payload
  createdAt : ℕ

section Contents

variable {Worker Payload : Type}

def Event.contents (event : Event Payload) : Contents Payload where
  id := event.id
  type := event.type
  payload := event.payload
  createdAt := event.createdAt

def ClaimedEventRow.contents (row : ClaimedEventRow Payload) : Contents Payload where
  id := row.id
  type := row.type
  payload := row.payload
  createdAt := row.createdAt

def State.contents (state : State Worker Payload) : List (Contents Payload) :=
  state.events.map Event.contents

/-- What `publishEvent` asks of the publisher for a row. -/
def Contents.publication (config : OutboxConfig) (contents : Contents Payload) :
    Command Payload :=
  .publish config.exchange contents.type.toLower
    { eventId := contents.id
      type := contents.type
      occurredAt := contents.createdAt
      schemaVersion := BANKING_EVENT_SCHEMA_VERSION
      payload := contents.payload }
    { messageId := contents.id
      timestamp := contents.createdAt
      headers :=
        { eventType := contents.type
          source := "banking-backend"
          schemaVersion := BANKING_EVENT_SCHEMA_VERSION } }

theorem contents_claim (event : Event Payload) (now : ℕ) :
    (event.claim now).contents = event.contents := rfl

theorem contents_apply (update : EventUpdate) (event : Event Payload) :
    (update.apply event).contents = event.contents := by
  cases update with
  | processed => rfl
  | failed => rfl

theorem contents_claimAll (state : State Worker Payload) (worker : Worker) (batch : List Uuid) :
    (state.claimAll worker batch).contents = state.contents := by
  unfold State.contents State.claimAll
  rw [List.map_map]
  apply List.map_congr_left
  intro event member
  by_cases listed : event.id ∈ batch
  · simp [listed, contents_claim]
  · simp [listed]

theorem contents_finalize (state : State Worker Payload) (worker : Worker) (id : Uuid)
    (claimedAt : Option ℕ) (update : EventUpdate) :
    (state.finalize worker id claimedAt update).contents = state.contents := by
  unfold State.contents State.finalize
  rw [List.map_map]
  apply List.map_congr_left
  intro event member
  by_cases claimed : event.isClaimed id claimedAt = true
  · simp [claimed, contents_apply]
  · simp [claimed]

theorem contents_after {choice : Choice} {before after : State Worker Payload}
    (same : after.contents = before.contents) :
    (choice.after before after).contents = before.contents := by
  unfold Choice.after
  split
  · exact same
  · split
    · exact same
    · rfl

theorem updateMany_after {worker : Worker} {id : Uuid} {claimedAt : Option ℕ}
    {update : EventUpdate} {choice : Choice} {before after : State Worker Payload}
    {answer : Except String ℕ}
    (performed : before.perform worker (.updateMany id claimedAt update) choice =
      some (answer, after)) :
    after = before ∨ after = choice.after before (before.finalize worker id claimedAt update) := by
  simp only [State.perform] at performed
  split at performed
  · cases performed
    rcases before.updateMany_cases worker id claimedAt update with same | ⟨_, same⟩
    · left
      rw [same]
      unfold Choice.after
      split
      · rfl
      · exact ite_self before
    · right
      rw [same]
  · cases performed
    exact .inl rfl

/-- No request of a worker changes what the rows were created with. -/
theorem perform_contents {worker : Worker} {command : Command Payload} {choice : Choice}
    {before after : State Worker Payload} {answer : command.Answer}
    (performed : before.perform worker command choice = some (answer, after)) :
    after.contents = before.contents := by
  cases command with
  | claimNextBatch batchSize claimTtlMs =>
      cases performed
      exact contents_after (contents_claimAll before worker _)
  | updateMany id claimedAt update =>
      rcases updateMany_after performed with rfl | rfl
      · rfl
      · exact contents_after (contents_finalize before worker id claimedAt update)
  | publish exchange routingKey message options =>
      cases performed
      cases failure : choice.failure with
      | none => rfl
      | some failed => rfl
  | getPublisherChannel | assertExchange | dateNow =>
      cases performed
      rfl

/-- Only a publish that succeeds confirms a message. -/
theorem perform_confirmed {worker : Worker} {command : Command Payload} {choice : Choice}
    {before after : State Worker Payload} {answer : command.Answer} {id : Uuid}
    (performed : before.perform worker command choice = some (answer, after))
    (confirmed : id ∈ after.confirmed) :
    id ∈ before.confirmed ∨ choice.failure = none ∧
      ∃ exchange routingKey message options,
        command = .publish exchange routingKey message options ∧ options.messageId = id := by
  have chosen (result : State Worker Payload) (same : result.confirmed = before.confirmed) :
      (choice.after before result).confirmed = before.confirmed := by
    unfold Choice.after
    split
    · exact same
    · split
      · exact same
      · rfl
  cases command with
  | claimNextBatch batchSize claimTtlMs =>
      cases performed
      rw [chosen (before.claimAll worker _) rfl] at confirmed
      exact .inl confirmed
  | updateMany id claimedAt update =>
      rcases updateMany_after performed with rfl | rfl
      · exact .inl confirmed
      · rw [chosen (before.finalize worker _ _ _) rfl] at confirmed
        exact .inl confirmed
  | publish exchange routingKey message options =>
      cases performed
      cases failure : choice.failure with
      | none =>
          simp only [failure] at confirmed
          rcases List.mem_cons.mp confirmed with rfl | old
          · exact .inr ⟨rfl, _, _, _, _, rfl, rfl⟩
          · exact .inl old
      | some failed =>
          simp only [failure] at confirmed
          exact .inl confirmed
  | getPublisherChannel | assertExchange | dateNow =>
      cases performed
      exact .inl confirmed

end Contents

/-! ## The requests of a worker -/

section Programs

variable {Payload : Type}

def claimedAfter (rows : List (ClaimedEventRow Payload)) :
    (command : Command Payload) → command.Answer → List (ClaimedEventRow Payload)
  | .claimNextBatch _ _, .ok claimed => claimed
  | _, _ => rows

def PublishesOnly (config : OutboxConfig) (rows : List (ClaimedEventRow Payload))
    (command : Command Payload) : Prop :=
  ∀ exchange routingKey message options, command = .publish exchange routingKey message options →
    ∃ row ∈ rows, command = row.contents.publication config

/-- The state of the monitor is the rows that have been claimed. -/
def publications (config : OutboxConfig) :
    Monitor (interface Payload) (List (ClaimedEventRow Payload)) where
  permits := PublishesOnly config
  moves rows command answer following := following = claimedAfter rows command answer

def ForRow (config : OutboxConfig) (row : ClaimedEventRow Payload) : Command Payload → Prop
  | .claimNextBatch _ _ => False
  | .publish exchange routingKey message options =>
      Command.publish exchange routingKey message options = row.contents.publication config
  | _ => True

variable {config : OutboxConfig} {row : ClaimedEventRow Payload}
  {rows left : List (ClaimedEventRow Payload)}

open Program (Issues)

theorem asks_request (command : Command Payload) (asks : ForRow config row command) :
    Issues (ForRow config row) (request command) := ⟨asks, fun _ => trivial⟩

theorem asks_orThrow {α : Type} (answer : Except String α) :
    Issues (ForRow config row) (orThrow answer : Service Payload α) := by
  cases answer with
  | ok value => exact Program.issues_pure value
  | error message => exact Program.issues_throw message

theorem asks_publishEvent : Issues (ForRow config row) (publishEvent config row) := by
  apply (asks_request (.getPublisherChannel _) trivial).bind
  intro ready
  apply (asks_orThrow ready).bind
  intro _
  apply (asks_request (.assertExchange _) trivial).bind
  intro asserted
  apply (asks_orThrow asserted).bind
  intro _
  apply (asks_request (.publish _ _ _ _) rfl).bind
  intro confirmed
  exact asks_orThrow confirmed

theorem asks_processEvent : Issues (ForRow config row) (processEvent config row) := by
  unfold processEvent
  apply asks_publishEvent.attempt.bind
  intro outcome
  cases outcome with
  | ok _ =>
      apply (asks_request .dateNow trivial).bind
      intro publishedAt
      exact (asks_request (.updateMany _ _ _) trivial).bind fun _ => Program.issues_pure _
  | error error =>
      have scheduled (retries : ℕ) : Issues (ForRow config row)
          (nextRetryAt config retries : Service Payload (Option ℕ)) := by
        unfold nextRetryAt
        split
        · exact (asks_request .dateNow trivial).bind fun _ => Program.issues_pure _
        · exact Program.issues_pure _
      apply (scheduled _).bind
      intro date
      apply (asks_request (.updateMany _ _ _) trivial).bind
      intro updated
      exact (asks_orThrow updated).bind fun _ => Program.issues_pure _

/-- Working on a claimed row claims nothing and publishes nothing else. -/
theorem obeys_processEvent (claimed : row ∈ rows) :
    (publications config).Obeys (fun _ final => final = rows) (processEvent config row) rows := by
  refine Monitor.Follows.of_only (fun track => track = rows) asks_processEvent ?_ rfl
  rintro _ command asks rfl
  constructor
  · rintro exchange routingKey message options rfl
    exact ⟨row, claimed, asks⟩
  · rintro answer _ rfl
    cases command with
    | claimNextBatch => exact asks.elim
    | _ => rfl

theorem obeys_processEvents (claimed : ∀ row ∈ left, row ∈ rows) :
    (publications config).Obeys (fun _ _ => True) (processEvents config left) rows := by
  induction left with
  | nil => exact .pure trivial
  | cons row left induction =>
      apply (obeys_processEvent (claimed row (.head _))).bind (fun _ _ _ => trivial)
      rintro _ _ rfl
      exact induction fun other member => claimed other (.tail _ member)

theorem follows_processPendingEvents (config : OutboxConfig) :
    (publications config).Follows (fun _ _ => True)
      (processPendingEvents config : Service Payload Unit).run [] := by
  refine ⟨(by rintro _ _ _ _ ⟨⟩), ?_⟩
  rintro answer _ rfl
  cases answer with
  | error message => exact trivial
  | ok rows => exact obeys_processEvents fun row member => member

end Programs

/-! ## Runs -/

section Runs

variable {Worker Payload : Type} [DecidableEq Worker] {config : OutboxConfig}
  {current following : Configuration Worker Payload}

def Claimed (_ : Worker) (rows : List (ClaimedEventRow Payload)) (state : State Worker Payload) :
    Prop :=
  ∀ row ∈ rows, row.contents ∈ state.contents

omit [DecidableEq Worker] in
theorem Claimed.acts {worker : Worker} {rows : List (ClaimedEventRow Payload)}
    {command : Command Payload} {choice : Choice} {before after : State Worker Payload}
    {answer : command.Answer} (claimed : Claimed worker rows before)
    (performed : before.perform worker command choice = some (answer, after)) :
    Claimed worker (claimedAfter rows command answer) after := by
  have kept := perform_contents performed
  have stays : Claimed worker rows after := fun row member => kept ▸ claimed row member
  cases command with
  | claimNextBatch batchSize claimTtlMs =>
      cases answer with
      | error message => exact stays
      | ok returned =>
          intro row member
          rw [kept]
          have answered := congrArg Prod.fst (Option.some.inj performed)
          unfold Choice.answer at answered
          split at answered
          · cases answered
            rcases mem_returning.mp member with ⟨event, picked, rfl⟩
            have present := List.mem_map_of_mem (f := Event.contents) (mem_candidates picked).1
            exact present
          · cases answered
  | _ => exact stays

omit [DecidableEq Worker] in
theorem contents_of_environment {event : Occurrence Payload} {before after : State Worker Payload}
    (happened : before.environment event = some after) :
    before.contents ⊆ after.contents := by
  cases event with
  | tick now =>
      have moved : before.now ≤ now ∧ { before with now } = after := by
        simpa [State.environment] using happened
      rw [← moved.2]
      exact List.Subset.refl _
  | create id type payload createdAt =>
      rcases Option.ite_none_left_eq_some.mp happened with ⟨_, same⟩
      cases same
      unfold State.contents
      rw [List.map_append]
      exact List.subset_append_left _ _

omit [DecidableEq Worker] in
theorem claimed_reflects (config : OutboxConfig) :
    Monitor.Reflects (fun _ : Worker => publications config) (machine Worker Payload)
      Claimed where
  acts claimed _ performed := ⟨_, rfl, claimed.acts performed⟩
  others _ claimed performed := fun row member => perform_contents performed ▸ claimed row member
  environment claimed happened := fun row member =>
    contents_of_environment happened (claimed row member)

theorem Reachable.tracks (reachable : Reachable config current) :
    Monitor.Tracks (fun _ : Worker => publications config) Claimed (fun _ _ _ => True)
      current := by
  rcases reachable with ⟨now, run⟩
  apply Monitor.Tracks.run _ (claimed_reflects config) run
  intro worker
  refine ⟨[], ?_, follows_processPendingEvents config⟩
  rintro row ⟨⟩

/-- What a worker publishes is the message of a row. -/
theorem Reachable.publishes (reachable : Reachable config current) {worker : Worker}
    {exchange routingKey : String} {message : OutboxPublishMessage Payload}
    {options : PublishOptions}
    {next : (Command.publish exchange routingKey message options).Answer →
      Program (interface Payload) WorkerResult}
    (program : current.program worker = .call (.publish exchange routingKey message options) next) :
    ∃ contents ∈ current.shared.contents,
      Command.publish exchange routingKey message options = contents.publication config := by
  rcases reachable.tracks worker with ⟨rows, claimed, follows⟩
  rw [program] at follows
  rcases follows.1 _ _ _ _ rfl with ⟨row, member, same⟩
  exact ⟨row.contents, claimed row member, same⟩

end Runs

end BankingBackend.Outbox
