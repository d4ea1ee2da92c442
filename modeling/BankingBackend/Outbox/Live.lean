import BankingBackend.Foundation.Restriction
import BankingBackend.Outbox.Interleaving

/-! # Workers whose claims do not expire

Where every statement succeeds, every publish is confirmed and no claim takes an
event that is being published, a worker publishes its events while its claims
stand, and nobody else has published them.
-/

namespace BankingBackend.Outbox

open Foundation
open Postgres (Uuid EventStatus)

/-! ## The table -/

section Table

variable {Worker Payload : Type}

/-- An event that waits to be claimed has not been published, and none has been twice. -/
structure LiveInvariant (state : State Worker Payload) : Prop where
  invariant : Invariant state
  once : state.confirmed.Nodup
  known : ∀ id ∈ state.confirmed, ∃ event ∈ state.events, event.id = id
  unpublished : ∀ event ∈ state.events, event.status = .pending ∨ event.status = .failed →
    event.id ∉ state.confirmed

inductive LiveEffect (claimTtlMs : ℕ) (worker : Worker) (before after : State Worker Payload) : Prop
  | observes (handed : List Uuid) (result : after = { before with handed })
  | publishes (id : Uuid) (token : ℕ) (held : Lease.current id before.history = some (worker, token))
      (first : id ∉ before.confirmed)
      (result : after = { before with confirmed := id :: before.confirmed })
  | claims (batch : List Uuid) (distinct : batch.Nodup)
      (claimable : ∀ event ∈ before.events, event.id ∈ batch →
        event.claimable before.now claimTtlMs = true)
      (free : ∀ event ∈ before.events, event.id ∈ batch → event.status ≠ .publishing)
      (known : ∀ id ∈ batch, ∃ event ∈ before.events, event.id = id)
      (result : after = before.claimAll worker batch)
  | finalizes (id : Uuid) (token publishedAt : ℕ)
      (held : Lease.current id before.history = some (worker, token))
      (published : id ∈ before.confirmed)
      (result : after = before.finalize worker id (some token) (.processed publishedAt))

variable {before after : State Worker Payload} {worker other : Worker} {claimTtlMs : ℕ}

theorem LiveEffect.effect (effect : LiveEffect claimTtlMs worker before after) :
    Effect claimTtlMs worker before after := by
  cases effect with
  | observes handed result =>
      rw [result]
      exact .observes rfl rfl rfl (List.Subset.refl _)
  | publishes id token held first result =>
      rw [result]
      exact .observes rfl rfl rfl (List.subset_cons_self _ _)
  | claims batch distinct claimable free known result =>
      exact .claims batch distinct claimable known result
  | finalizes id token publishedAt held published result =>
      exact .finalizes id token (.processed publishedAt) held rfl published result

theorem LiveInvariant.effect (live : LiveInvariant before) (ttl : 0 < claimTtlMs)
    (effect : LiveEffect claimTtlMs worker before after) : LiveInvariant after := by
  have invariant : Invariant after := live.invariant.effect ttl effect.effect
  cases effect with
  | observes handed result =>
      rw [result] at invariant ⊢
      exact ⟨invariant, live.once, live.known, live.unpublished⟩
  | publishes id token held first result =>
      rw [result] at invariant ⊢
      refine ⟨invariant, List.nodup_cons.mpr ⟨first, live.once⟩, ?_, ?_⟩
      · intro key listed
        rcases List.mem_cons.mp listed with rfl | listed
        · exact live.invariant.known key _ (Lease.latest_of_current held)
        · exact live.known key listed
      · intro event member waits
        have different : event.id ≠ id := by
          rintro rfl
          have marked := live.invariant.leased event member _ held
          rw [marked.1] at waits
          simp at waits
        simpa [different] using live.unpublished event member waits
  | claims batch distinct claimable free known result =>
      rw [result] at invariant ⊢
      refine ⟨invariant, live.once, ?_, ?_⟩
      · intro key listed
        rw [← List.mem_map (f := Event.id), State.claimAll_ids, List.mem_map]
        exact live.known key listed
      · intro row member waits
        rcases State.mem_claimAll member with ⟨event, present, ⟨_, rfl⟩ | ⟨_, rfl⟩⟩
        · simp at waits
        · exact live.unpublished _ present waits
  | finalizes id token publishedAt held published result =>
      rw [result] at invariant ⊢
      refine ⟨invariant, live.once, ?_, ?_⟩
      · intro key listed
        rw [← List.mem_map (f := Event.id), State.finalize_ids, List.mem_map]
        exact live.known key listed
      · intro row member waits
        rcases live.invariant.mem_finalize held member with ⟨event, present, ⟨_, rfl⟩ | ⟨_, rfl⟩⟩
        · simp [EventUpdate.apply] at waits
        · exact live.unpublished _ present waits

theorem LiveInvariant.environment (live : LiveInvariant before) {event : Occurrence Payload}
    (happened : before.environment event = some after) : LiveInvariant after := by
  have invariant : Invariant after := environment_invariant live.invariant happened
  rcases environment_cases happened with ⟨now, _, rfl⟩ | ⟨id, type, payload, createdAt, fresh, rfl⟩
  · exact ⟨invariant, live.once, live.known, live.unpublished⟩
  · refine ⟨invariant, live.once, ?_, ?_⟩
    · intro key listed
      rcases live.known key listed with ⟨event, member, same⟩
      exact ⟨event, List.mem_append_left _ member, same⟩
    · intro row member waits listed
      rcases mem_created member with present | rfl
      · exact live.unpublished row present waits listed
      · rcases live.known _ listed with ⟨event, present, same⟩
        exact fresh event present same

/-! ## What a worker knows of its rows -/

variable {evt : ClaimedEventRow Payload} {rows : List (ClaimedEventRow Payload)}

def Holds (worker : Worker) (evt : ClaimedEventRow Payload) (state : State Worker Payload) : Prop :=
  ∃ token, evt.claimedAt = some token ∧ Lease.current evt.id state.history = some (worker, token)

structure LiveRely (worker : Worker) (before after : State Worker Payload) : Prop where
  invariant : LiveInvariant before → LiveInvariant after
  holds : ∀ evt, Holds worker evt before → Holds worker evt after
  fresh : ∀ evt, Holds worker evt before → evt.id ∉ before.confirmed → evt.id ∉ after.confirmed
  confirmed : before.confirmed ⊆ after.confirmed

/-- A worker has distinct claimed rows left to publish. -/
structure LiveReady (worker : Worker) (rows : List (ClaimedEventRow Payload))
    (state : State Worker Payload) : Prop where
  live : LiveInvariant state
  distinct : (rows.map ClaimedEventRow.id).Nodup
  holds : ∀ evt ∈ rows, Holds worker evt state
  fresh : ∀ evt ∈ rows, evt.id ∉ state.confirmed

structure LivePublished (worker : Worker) (evt : ClaimedEventRow Payload)
    (rows : List (ClaimedEventRow Payload)) (state : State Worker Payload) : Prop where
  ready : LiveReady worker rows state
  unlisted : evt.id ∉ rows.map ClaimedEventRow.id
  holds : Holds worker evt state
  published : evt.id ∈ state.confirmed

theorem LiveRely.refl (state : State Worker Payload) : LiveRely worker state state :=
  ⟨id, fun _ => id, fun _ _ => id, List.Subset.refl _⟩

theorem LiveRely.trans {state : State Worker Payload} (first : LiveRely worker state before)
    (second : LiveRely worker before after) : LiveRely worker state after where
  invariant live := second.invariant (first.invariant live)
  holds evt holds := second.holds evt (first.holds evt holds)
  fresh evt holds fresh := second.fresh evt (first.holds evt holds) (first.fresh evt holds fresh)
  confirmed := List.Subset.trans first.confirmed second.confirmed

theorem LiveRely.ready (rely : LiveRely worker before after) (ready : LiveReady worker rows before) :
    LiveReady worker rows after where
  live := rely.invariant ready.live
  distinct := ready.distinct
  holds evt member := rely.holds evt (ready.holds evt member)
  fresh evt member := rely.fresh evt (ready.holds evt member) (ready.fresh evt member)

theorem LiveRely.published (rely : LiveRely worker before after)
    (published : LivePublished worker evt rows before) : LivePublished worker evt rows after where
  ready := rely.ready published.ready
  unlisted := published.unlisted
  holds := rely.holds evt published.holds
  published := rely.confirmed published.published

theorem LiveRely.observes {handed : List Uuid}
    (invariant : LiveInvariant { before with handed }) :
    LiveRely worker before { before with handed } :=
  ⟨fun _ => invariant, fun _ => id, fun _ _ => id, List.Subset.refl _⟩

/-- Others publish and finalize only rows they hold, and claim only rows nobody holds. -/
theorem LiveRely.interference (live : LiveInvariant before) (ttl : 0 < claimTtlMs)
    (different : other ≠ worker) (effect : LiveEffect claimTtlMs other before after) :
    LiveRely worker before after := by
  have invariant := live.effect ttl effect
  have apart : ∀ id token, Lease.current id before.history = some (other, token) →
      ∀ evt, Holds worker evt before → evt.id ≠ id := by
    intro id token held evt ⟨mine, _, holds⟩ same
    rw [same, held] at holds
    cases holds
    exact different rfl
  cases effect with
  | observes handed result =>
      rw [result] at invariant ⊢
      exact .observes invariant
  | publishes id token held first result =>
      rw [result] at invariant ⊢
      refine ⟨fun _ => invariant, fun _ held => held, fun evt holds fresh => ?_, ?_⟩
      · simpa [apart id token held evt holds] using fresh
      · exact List.subset_cons_self _ _
  | claims batch distinct claimable free known result =>
      rw [result] at invariant ⊢
      refine ⟨fun _ => invariant, fun evt holds => ?_, fun _ _ fresh => fresh, List.Subset.refl _⟩
      rcases holds with ⟨token, claimedAt, held⟩
      have unlisted : evt.id ∉ batch := fun listed => by
        rcases known evt.id listed with ⟨event, member, same⟩
        have marked := live.invariant.leased event member _ (same ▸ held)
        exact free event member (same ▸ listed) marked.1
      refine ⟨token, claimedAt, ?_⟩
      rwa [State.claimAll, Lease.current_claimAll, if_neg unlisted]
  | finalizes id token publishedAt held published result =>
      rw [result] at invariant ⊢
      refine ⟨fun _ => invariant, fun evt holds => ?_, fun _ _ fresh => fresh, List.Subset.refl _⟩
      have unrelated : id ≠ evt.id := Ne.symm (apart id token held evt holds)
      rcases holds with ⟨token, claimedAt, held⟩
      exact ⟨token, claimedAt, by simpa [State.finalize, Lease.current, unrelated] using held⟩

theorem LiveRely.environment (live : LiveInvariant before) {event : Occurrence Payload}
    (happened : before.environment event = some after) : LiveRely worker before after := by
  have invariant := live.environment happened
  rcases environment_cases happened with ⟨_, _, rfl⟩ | ⟨_, _, _, _, _, rfl⟩ <;>
    exact ⟨fun _ => invariant, fun _ => id, fun _ _ => id, List.Subset.refl _⟩

end Table

/-! ## Requests of a worker -/

section Requests

variable {Worker Payload : Type} {worker : Worker} {before after : State Worker Payload}
  {choice : Choice} {claimTtlMs : ℕ} {evt : ClaimedEventRow Payload}
  {rows : List (ClaimedEventRow Payload)}

/-- A claim statement takes no event that is being published. -/
def Timely (choice : Choice) (state : State Worker Payload) : Command Payload → Prop
  | .claimNextBatch batchSize claimTtlMs =>
      ∀ event ∈ candidates batchSize claimTtlMs state.now choice.toBatchChoice state.events,
        event.status ≠ .publishing
  | _ => True

def LivePermits (_ : Worker) (command : Command Payload) (choice : Choice)
    (state : State Worker Payload) : Prop :=
  choice.failure = none ∧ Timely choice state command

theorem Choice.answer_of_succeeds {α : Type} {value : α} (succeeds : choice.failure = none) :
    choice.answer value = .ok value := by
  rw [Choice.answer, succeeds]

theorem Choice.after_of_succeeds (succeeds : choice.failure = none) :
    choice.after before after = after := by
  rw [Choice.after, succeeds]

theorem LiveReady.observes {handed : List Uuid} (ready : LiveReady worker rows before) :
    LiveReady worker rows { before with handed } where
  live := ⟨ready.live.invariant.observes rfl le_rfl rfl (List.Subset.refl _), ready.live.once,
    ready.live.known, ready.live.unpublished⟩
  distinct := ready.distinct
  holds := ready.holds
  fresh := ready.fresh

theorem live_claimNextBatch (live : LiveInvariant before) (ttl : 0 < claimTtlMs) {batchSize : ℕ}
    {answer : Except String (List (ClaimedEventRow Payload))} (succeeds : choice.failure = none)
    (timely : Timely choice before (.claimNextBatch batchSize claimTtlMs : Command Payload))
    (performed : State.perform worker (.claimNextBatch batchSize claimTtlMs) choice before =
      some (answer, after)) :
    LiveEffect claimTtlMs worker before after ∧
      ∃ rows, answer = .ok rows ∧ LiveReady worker rows after := by
  have invariant := live.invariant
  cases performed
  rw [choice.answer_of_succeeds succeeds, choice.after_of_succeeds succeeds]
  have chosen : ∀ event ∈ candidates batchSize claimTtlMs before.now choice.toBatchChoice
      before.events, event ∈ before.events := fun _ picked => (mem_candidates picked).1
  have distinct : ((candidates batchSize claimTtlMs before.now choice.toBatchChoice
      before.events).map Event.id).Nodup := candidates_distinct invariant.distinct
  have effect : LiveEffect claimTtlMs worker before (before.claimAll worker _) :=
    .claims _ distinct
      (fun event member listed => (mem_candidates (invariant.mem_batch chosen member listed)).2)
      (fun event member listed => timely event (invariant.mem_batch chosen member listed))
      (fun id listed => by
        rcases List.mem_map.mp listed with ⟨event, picked, same⟩
        exact ⟨event, chosen event picked, same⟩) rfl
  refine ⟨effect, _, rfl, live.effect ttl effect, returning_distinct distinct, ?_, ?_⟩
  · intro evt returned
    rcases mem_returning.mp returned with ⟨event, picked, rfl⟩
    refine ⟨toTimestamp before.now, rfl, ?_⟩
    rw [State.claimAll, Lease.current_claimAll]
    exact if_pos (List.mem_map_of_mem picked)
  · intro evt returned
    rcases mem_returning.mp returned with ⟨event, picked, rfl⟩
    refine live.unpublished event (chosen event picked) ?_
    have claimable := (mem_candidates picked).2
    have free := timely event picked
    cases status : event.status with
    | pending => exact .inl rfl
    | failed => exact .inr rfl
    | publishing => exact absurd status free
    | processed => exact absurd status (Event.unprocessed_of_claimable claimable)

theorem LiveReady.publishes (ready : LiveReady worker (evt :: rows) before) (ttl : 0 < claimTtlMs) :
    LiveEffect claimTtlMs worker before { before with confirmed := evt.id :: before.confirmed } ∧
      LivePublished worker evt rows { before with confirmed := evt.id :: before.confirmed } := by
  have parts := List.nodup_cons.mp ready.distinct
  rcases ready.holds evt (.head _) with ⟨token, claimedAt, held⟩
  have effect : LiveEffect claimTtlMs worker before
      { before with confirmed := evt.id :: before.confirmed } :=
    .publishes evt.id token held (ready.fresh evt (.head _)) rfl
  refine ⟨effect, ⟨ready.live.effect ttl effect, parts.2,
    fun other member => ready.holds other (.tail _ member), fun other member => ?_⟩, parts.1,
    ⟨token, claimedAt, held⟩, .head _⟩
  have different : other.id ≠ evt.id := fun same => parts.1 (same ▸ List.mem_map_of_mem member)
  simpa [different] using ready.fresh other (.tail _ member)

theorem LivePublished.updateMany (published : LivePublished worker evt rows before)
    (ttl : 0 < claimTtlMs) (publishedAt : ℕ) :
    LiveEffect claimTtlMs worker before
        (before.updateMany worker evt.id evt.claimedAt (.processed publishedAt)).2 ∧
      LiveReady worker rows
        (before.updateMany worker evt.id evt.claimedAt (.processed publishedAt)).2 := by
  have ready := published.ready
  rcases published.holds with ⟨token, claimedAt, held⟩
  rcases before.updateMany_cases worker evt.id evt.claimedAt (.processed publishedAt) with
    same | ⟨_, result⟩
  · rw [same]
    exact ⟨.observes before.handed rfl, ready⟩
  · rw [result, claimedAt]
    have effect : LiveEffect claimTtlMs worker before
        (before.finalize worker evt.id (some token) (.processed publishedAt)) :=
      .finalizes evt.id token publishedAt held published.published rfl
    refine ⟨effect, ready.live.effect ttl effect, ready.distinct, fun other member => ?_,
      ready.fresh⟩
    have different : evt.id ≠ other.id := fun same =>
      published.unlisted (same ▸ List.mem_map_of_mem member)
    rcases ready.holds other member with ⟨otherToken, otherClaimed, otherHeld⟩
    exact ⟨otherToken, otherClaimed, by simpa [State.finalize, Lease.current, different] using
      otherHeld⟩

end Requests

/-! ## Programs of a worker -/

section Programs

variable {Worker Payload : Type} (worker : Worker) (claimTtlMs : ℕ)

abbrev LiveMeets {α : Type} (program : Service Payload α)
    (post : Except String α → State Worker Payload → Prop) (state : State Worker Payload) : Prop :=
  EnsuresResult (((machine Worker Payload).restrict LivePermits).perform worker) (LiveRely worker)
    (LiveEffect claimTtlMs worker) program post state

variable {worker claimTtlMs} {state : State Worker Payload} {evt : ClaimedEventRow Payload}
  {rows : List (ClaimedEventRow Payload)}

theorem live_request {command : Command Payload}
    {stage : command.Answer → State Worker Payload → Prop}
    (stays : ∀ before, LiveRely worker state before → ∀ choice answer after,
      choice.failure = none → Timely choice before command →
      State.perform worker command choice before = some (answer, after) →
        LiveEffect claimTtlMs worker before after ∧ stage answer after) :
    LiveMeets worker claimTtlMs (request command) (Answered stage) state := by
  intro before rely choice answer after performed
  rcases Machine.restrict_perform performed with ⟨⟨succeeds, timely⟩, performed⟩
  exact stays before rely choice answer after succeeds timely performed

theorem live_answered {α β : Type} {program : Service Payload α} {next : α → Service Payload β}
    {post : Except String β → State Worker Payload → Prop}
    (stage : α → State Worker Payload → Prop)
    (asked : LiveMeets worker claimTtlMs program (Answered stage) state)
    (continues : ∀ answer between, stage answer between →
      LiveMeets worker claimTtlMs (next answer) post between) :
    LiveMeets worker claimTtlMs (program >>= next) post state :=
  .bind asked (fun _ _ absurd => absurd.elim) continues

theorem live_succeeding {α β : Type} {program : Service Payload (Except String α)}
    {next : α → Service Payload β} {post : Except String β → State Worker Payload → Prop}
    (stage : α → State Worker Payload → Prop)
    (asked : LiveMeets worker claimTtlMs program
      (Answered fun answer final => ∃ value, answer = .ok value ∧ stage value final) state)
    (continues : ∀ value between, stage value between →
      LiveMeets worker claimTtlMs (next value) post between) :
    LiveMeets worker claimTtlMs (program >>= fun answer => orThrow answer >>= next) post state := by
  refine live_answered _ asked fun answer between holds => ?_
  rcases holds with ⟨value, rfl, holds⟩
  exact continues value between holds

theorem live_orThrow {α : Type} {program : Service Payload (Except String α)}
    {stage : α → State Worker Payload → Prop}
    (asked : LiveMeets worker claimTtlMs program
      (Answered fun answer final => ∃ value, answer = .ok value ∧ stage value final) state) :
    LiveMeets worker claimTtlMs (program >>= orThrow) (Answered stage) state := by
  refine live_answered _ asked fun answer between holds => ?_
  rcases holds with ⟨value, rfl, holds⟩
  exact .pure holds

theorem live_publishEvent (config : OutboxConfig) (ttl : 0 < claimTtlMs)
    (ready : LiveReady worker (evt :: rows) state) :
    LiveMeets worker claimTtlMs (publishEvent config evt)
      (Answered fun _ => LivePublished worker evt rows) state := by
  unfold publishEvent publish
  refine live_succeeding (fun _ => LiveReady worker (evt :: rows))
    (live_request fun before rely choice answer after succeeds _ performed => ?_)
    fun _ handed ready => ?_
  · cases performed
    rw [choice.answer_of_succeeds succeeds]
    exact ⟨.observes _ rfl, (), rfl, (rely.ready ready).observes⟩
  refine live_succeeding (fun _ => LiveReady worker (evt :: rows))
    (live_request fun before rely choice answer after succeeds _ performed => ?_)
    fun _ asserted ready => ?_
  · cases performed
    rw [choice.answer_of_succeeds succeeds]
    exact ⟨.observes before.handed rfl, (), rfl, rely.ready ready⟩
  refine live_orThrow (live_request fun before rely choice answer after succeeds _ performed => ?_)
  cases performed
  rw [choice.answer_of_succeeds succeeds, succeeds]
  have published := (rely.ready ready).publishes ttl
  exact ⟨published.1, (), rfl, published.2⟩

theorem live_processEvent (config : OutboxConfig) (ttl : 0 < claimTtlMs)
    (ready : LiveReady worker (evt :: rows) state) :
    LiveMeets worker claimTtlMs (processEvent config evt)
      (Answered fun _ => LiveReady worker rows) state := by
  refine .attempt (live_publishEvent config ttl ready) fun outcome published kept => ?_
  cases outcome with
  | error error => exact kept.elim
  | ok _ =>
      refine live_answered (fun _ => LivePublished worker evt rows)
        (live_request fun before rely choice answer after _ _ performed => ?_)
        fun publishedAt dated published => ?_
      · cases performed
        exact ⟨.observes before.handed rfl, rely.published kept⟩
      refine live_answered (fun _ => LiveReady worker rows)
        (live_request fun before rely choice answer after succeeds _ performed => ?_)
        fun _ _ rest => .pure rest
      cases performed
      rw [choice.after_of_succeeds succeeds]
      exact (rely.published published).updateMany ttl publishedAt

/-- One event after the other: the claimed rows still to come stay unpublished. -/
theorem live_processEvents (config : OutboxConfig) (ttl : 0 < claimTtlMs)
    (ready : LiveReady worker rows state) :
    LiveMeets worker claimTtlMs (processEvents config rows) (fun _ _ => True) state := by
  induction rows generalizing state with
  | nil => exact .pure trivial
  | cons evt rows induction =>
      exact .bind (live_processEvent config ttl ready) (fun _ _ _ => trivial)
        fun _ _ rest => induction rest

theorem live_processPendingEvents (config : OutboxConfig) (live : LiveInvariant state) :
    LiveMeets worker config.claimTtlMs (processPendingEvents config) (fun _ _ => True) state := by
  refine live_succeeding (fun rows => LiveReady worker rows)
    (live_request fun before rely choice answer after succeeds timely performed => ?_)
    fun rows _ ready => live_processEvents config config.claimTtlMsPositive ready
  exact live_claimNextBatch (rely.invariant live) config.claimTtlMsPositive succeeds timely performed

end Programs

/-! ## Interleavings -/

noncomputable def liveDiscipline (Worker Payload : Type) [DecidableEq Worker]
    (config : OutboxConfig) :
    Discipline ((machine Worker Payload).restrict LivePermits) WorkerResult where
  start _ := (processPendingEvents config).run
  allowed := Unrestricted
  invariant := LiveInvariant
  rely := LiveRely
  guarantee := LiveEffect config.claimTtlMs
  ready _ _ := True
  post _ _ _ := True
  rely_refl _ := .refl
  rely_trans _ _ _ _ := .trans
  begins live _ := live_processPendingEvents config live
  keeps live effect := live.effect config.claimTtlMsPositive effect
  interference different _ _ _ _ live effect :=
    .interference live config.claimTtlMsPositive (Ne.symm different) effect
  ready_stable _ _ _ := id
  post_stable _ _ _ := id
  environment _ live happened :=
    ⟨live.environment happened, fun _ => ⟨.environment live happened, id, fun _ => id⟩⟩

end BankingBackend.Outbox
