import BankingBackend.Outbox.Protocol

/-! # Interleavings of workers

What each request and each program of a worker keeps, and with it what holds of
every reachable configuration.
-/

namespace BankingBackend.Outbox

open Foundation
open Postgres (Uuid EventStatus)

/-! ## Requests of a worker -/

section Requests

variable {Worker Payload : Type} {worker : Worker} {before after : State Worker Payload}
  {choice : Choice} {claimTtlMs : ℕ}

theorem Invariant.unique (invariant : Invariant before) {first second : Event Payload}
    (firstMember : first ∈ before.events) (secondMember : second ∈ before.events)
    (same : first.id = second.id) : first = second :=
  List.inj_on_of_nodup_map invariant.distinct firstMember secondMember same

/-- A failing statement has its effect or none. -/
theorem Effect.choose {result : State Worker Payload} (choice : Choice)
    (effect : Effect claimTtlMs worker before result) :
    Effect claimTtlMs worker before (choice.after before result) := by
  unfold Choice.after
  split
  · exact effect
  · split
    · exact effect
    · exact .refl before

section Batch

variable {batch : List (Event Payload)} (invariant : Invariant before)
  (chosen : ∀ event ∈ batch, event ∈ before.events)
include invariant chosen

theorem Invariant.mem_batch {event : Event Payload} (member : event ∈ before.events)
    (listed : event.id ∈ batch.map Event.id) : event ∈ batch := by
  rcases List.mem_map.mp listed with ⟨other, picked, same⟩
  rwa [← invariant.unique (chosen other picked) member same]

theorem Invariant.claims_batch (distinct : (batch.map Event.id).Nodup)
    (claimable : ∀ event ∈ batch, event.claimable before.now claimTtlMs = true) :
    Effect claimTtlMs worker before (before.claimAll worker (batch.map Event.id)) := by
  refine .claims (batch.map Event.id) distinct ?_ ?_ rfl
  · intro event member listed
    exact claimable event (invariant.mem_batch chosen member listed)
  · intro id listed
    rcases List.mem_map.mp listed with ⟨event, picked, same⟩
    exact ⟨event, chosen event picked, same⟩

theorem Invariant.holding_claimed {event : Event Payload} (picked : event ∈ batch) :
    Holding worker (event.claim before.now).claimedRow
      (before.claimAll worker (batch.map Event.id)) := by
  have listed : event.id ∈ batch.map Event.id := List.mem_map_of_mem picked
  refine ⟨toTimestamp before.now, rfl, .stands ?_, ?_⟩
  · rw [State.claimAll, Lease.current_claimAll]
    exact if_pos listed
  · rintro - row member same
    rcases State.mem_claimAll member with ⟨other, present, ⟨_, rfl⟩ | ⟨unlisted, rfl⟩⟩
    · rw [invariant.unique present (chosen event picked) same]
      rfl
    · exact absurd ((same : _ = event.id) ▸ listed) unlisted

end Batch

theorem perform_claimNextBatch (ready : Ready worker [] before) (ttl : 0 < claimTtlMs)
    {batchSize : ℕ} {answer : Except String (List (ClaimedEventRow Payload))}
    (performed : State.perform worker (.claimNextBatch batchSize claimTtlMs) choice before =
      some (answer, after)) :
    Effect claimTtlMs worker before after ∧
      ∀ rows, answer = .ok rows → Ready worker rows after := by
  have invariant := ready.invariant
  cases performed
  have distinct : ((candidates batchSize claimTtlMs before.now choice.toBatchChoice
      before.events).map Event.id).Nodup := candidates_distinct invariant.distinct
  have effect : Effect claimTtlMs worker before (before.claimAll worker _) :=
    invariant.claims_batch (fun _ member => (mem_candidates member).1) distinct
      fun _ member => (mem_candidates member).2
  refine ⟨effect.choose choice, ?_⟩
  intro rows answered
  cases failure : choice.failure with
  | none =>
      simp only [Choice.answer, failure, Except.ok.injEq] at answered
      simp only [Choice.after, failure]
      refine ⟨invariant.effect ttl effect, ?_, ?_⟩
      · rw [← answered]
        exact returning_distinct distinct
      · rw [← answered]
        intro evt returned
        rcases mem_returning.mp returned with ⟨event, picked, rfl⟩
        exact invariant.holding_claimed (fun _ member => (mem_candidates member).1) picked
  | some failure' =>
      simp [Choice.answer, failure] at answered

/-- An update says what the worker found out about the row it was handed. -/
def EventUpdate.Reports (evt : ClaimedEventRow Payload) (state : State Worker Payload) :
    EventUpdate → Prop
  | .processed _ => evt.id ∈ state.confirmed
  | .failed retryCount _ _ => retryCount = evt.retryCount + 1

section Update

variable {evt : ClaimedEventRow Payload} {rows : List (ClaimedEventRow Payload)}
  {update : EventUpdate} (ready : Ready worker (evt :: rows) before)
include ready

/-- The token finds a row only while the worker's claim stands. -/
theorem Ready.held {event : Event Payload} (member : event ∈ before.events)
    (claimed : event.isClaimed evt.id evt.claimedAt = true) :
    ∃ token, evt.claimedAt = some token ∧
      Lease.current evt.id before.history = some (worker, token) := by
  rcases Event.isClaimed_iff.mp claimed with ⟨same, publishing, claimedAt⟩
  rcases ready.holding evt (.head _) with ⟨token, mine, standing, _⟩
  refine ⟨token, mine, ?_⟩
  cases current : Lease.current event.id before.history with
  | none => exact absurd publishing (ready.invariant.released event member current)
  | some claim =>
      have marked := ready.invariant.leased event member claim current
      rw [same] at current
      refine standing.stands_of_token current ?_
      rw [marked.2, mine] at claimedAt
      exact Option.some.inj claimedAt

theorem Ready.justified {token : ℕ} (mine : evt.claimedAt = some token)
    (held : Lease.current evt.id before.history = some (worker, token))
    (reports : update.Reports evt before) : update.Justified evt.id before := by
  rcases ready.holding evt (.head _) with ⟨other, claimedAt, _, counts⟩
  rw [mine] at claimedAt
  cases claimedAt
  cases update with
  | processed => exact reports
  | failed retryCount =>
      intro event member same
      rw [counts held event member same]
      exact reports

theorem Ready.rest : Ready worker rows before where
  invariant := ready.invariant
  distinct := (List.nodup_cons.mp ready.distinct).2
  holding other member := ready.holding other (.tail _ member)

theorem Ready.updateMany (fits : update.fits = true) (reports : update.Reports evt before) :
    Effect claimTtlMs worker before (before.updateMany worker evt.id evt.claimedAt update).2 ∧
      Ready worker rows (before.updateMany worker evt.id evt.claimedAt update).2 := by
  rcases before.updateMany_cases worker evt.id evt.claimedAt update with
    same | ⟨⟨event, member, claimed⟩, result⟩
  · rw [same]
    exact ⟨.refl before, ready.rest⟩
  · rcases ready.held member claimed with ⟨token, mine, held⟩
    have justified := ready.justified mine held reports
    rw [result, mine]
    refine ⟨.finalizes evt.id token update held fits justified rfl,
      ready.invariant.finalizes held fits justified, ready.rest.distinct, fun other listed => ?_⟩
    refine (ready.rest.holding other listed).finalizes ready.invariant (fun same => ?_) held
    exact absurd (same ▸ List.mem_map_of_mem listed) (List.nodup_cons.mp ready.distinct).1

theorem perform_updateMany (reports : update.Reports evt before) {answer : Except String ℕ}
    (performed : State.perform worker (.updateMany evt.id evt.claimedAt update) choice before =
      some (answer, after)) :
    Effect claimTtlMs worker before after ∧ Ready worker rows after := by
  simp only [State.perform] at performed
  split at performed
  · rename_i fits
    have updated : Effect claimTtlMs worker before _ ∧ Ready worker rows _ :=
      ready.updateMany fits reports
    cases performed
    refine ⟨updated.1.choose choice, ?_⟩
    unfold Choice.after
    split
    · exact updated.2
    · split
      · exact updated.2
      · exact ready.rest
  · cases performed
    exact ⟨.refl _, ready.rest⟩

end Update

end Requests

/-! ## Programs of a worker -/

section Programs

variable {Worker Payload : Type} (worker : Worker) (claimTtlMs : ℕ)

structure Rely (before after : State Worker Payload) : Prop where
  ready : ∀ rows, Ready worker rows before → Ready worker rows after
  confirmed : before.confirmed ⊆ after.confirmed

abbrev Meets {α : Type} (program : Service Payload α)
    (post : Except String α → State Worker Payload → Prop) (state : State Worker Payload) : Prop :=
  EnsuresResult (State.perform worker) (Rely worker) (Effect claimTtlMs worker) program post state

structure Observes (before after : State Worker Payload) : Prop where
  events : after.events = before.events
  now : after.now = before.now
  history : after.history = before.history
  confirmed : before.confirmed ⊆ after.confirmed

variable {worker claimTtlMs} {state before after : State Worker Payload}
  {rows : List (ClaimedEventRow Payload)} {evt : ClaimedEventRow Payload}

theorem Rely.refl (state : State Worker Payload) : Rely worker state state :=
  ⟨fun _ => id, List.Subset.refl _⟩

theorem Rely.trans (first : Rely worker state before) (second : Rely worker before after) :
    Rely worker state after :=
  ⟨fun rows ready => second.ready rows (first.ready rows ready),
    List.Subset.trans first.confirmed second.confirmed⟩

theorem Observes.refl (state : State Worker Payload) : Observes state state :=
  ⟨rfl, rfl, rfl, List.Subset.refl _⟩

theorem Observes.rely (observes : Observes before after) : Rely worker before after :=
  ⟨fun _ ready => ready.observes observes.events (by rw [observes.now]) observes.history
    observes.confirmed, observes.confirmed⟩

def Answered {α : Type} (stage : α → State Worker Payload → Prop) :
    Except String α → State Worker Payload → Prop
  | .ok answer, final => stage answer final
  | .error _, _ => False

theorem meets_answered {α β : Type} {program : Service Payload α} {next : α → Service Payload β}
    {post : Except String β → State Worker Payload → Prop}
    (stage : α → State Worker Payload → Prop)
    (asked : Meets worker claimTtlMs program (Answered stage) state)
    (continues : ∀ answer between, stage answer between →
      Meets worker claimTtlMs (next answer) post between) :
    Meets worker claimTtlMs (program >>= next) post state :=
  .bind asked (fun _ _ absurd => absurd.elim) continues

theorem meets_request {command : Command Payload}
    {stage : command.Answer → State Worker Payload → Prop}
    (stays : ∀ before, Rely worker state before → ∀ choice answer after,
      State.perform worker command choice before = some (answer, after) →
        Effect claimTtlMs worker before after ∧ stage answer after) :
    Meets worker claimTtlMs (request command) (Answered stage) state := stays

theorem meets_observation {command : Command Payload}
    (observes : ∀ before choice answer after,
      State.perform worker command choice before = some (answer, after) → Observes before after) :
    Meets worker claimTtlMs (request command) (Answered fun _ => Rely worker state) state := by
  refine meets_request fun before rely choice answer after performed => ?_
  have observed := observes before choice answer after performed
  exact ⟨.observes observed.events observed.now observed.history observed.confirmed,
    rely.trans observed.rely⟩

theorem meets_orThrow {α : Type} {result : Except String α}
    {post : Except String α → State Worker Payload → Prop} (holds : post result state) :
    Meets worker claimTtlMs (orThrow result) post state := by
  cases result with
  | ok value => exact .pure holds
  | error message => exact .throw holds

theorem meets_throwing {α β : Type} {program : Service Payload (Except String α)}
    {next : α → Service Payload β} {post : Except String β → State Worker Payload → Prop}
    (stage : Except String α → State Worker Payload → Prop)
    (asked : Meets worker claimTtlMs program (Answered stage) state)
    (fails : ∀ message final, stage (.error message) final → post (.error message) final)
    (continues : ∀ value between, stage (.ok value) between →
      Meets worker claimTtlMs (next value) post between) :
    Meets worker claimTtlMs (program >>= fun answer => orThrow answer >>= next) post state :=
  meets_answered stage asked fun _ _ holds => .bind (meets_orThrow holds) fails continues

/-- Publishing touches no row, and returns only when the broker has confirmed. -/
theorem meets_publishEvent (config : OutboxConfig) :
    Meets worker claimTtlMs (publishEvent config evt)
      (fun result final => Rely worker state final ∧
        (result = .ok () → evt.id ∈ final.confirmed)) state := by
  unfold publishEvent publish
  refine meets_throwing (fun _ => Rely worker state) (meets_observation ?_)
    (fun _ _ relied => ⟨relied, (by simp)⟩) fun _ handed relied => ?_
  · intro before choice answer after performed
    cases performed
    exact ⟨rfl, rfl, rfl, List.Subset.refl _⟩
  refine meets_throwing (fun _ => Rely worker handed) (meets_observation ?_)
    (fun _ _ further => ⟨relied.trans further, (by simp)⟩) fun _ asserted further => ?_
  · intro before choice answer after performed
    cases performed
    exact .refl _
  refine meets_answered (fun answer final => Rely worker state final ∧
      (answer = .ok () → evt.id ∈ final.confirmed))
    (meets_request fun before interference choice answer after performed => ?_)
    fun _ _ published => meets_orThrow published
  have relied := (relied.trans further).trans interference
  cases performed
  cases failure : choice.failure with
  | none =>
      have kept : Observes before { before with confirmed := evt.id :: before.confirmed } :=
        ⟨rfl, rfl, rfl, List.subset_cons_self _ _⟩
      exact ⟨.observes rfl rfl rfl kept.confirmed, relied.trans kept.rely, fun _ => .head _⟩
  | some failed =>
      refine ⟨.refl _, relied, ?_⟩
      simp [Choice.answer, failure]

theorem meets_dateNow : Meets worker claimTtlMs (request .dateNow)
    (Answered fun _ => Rely worker state) state := by
  refine meets_observation fun before choice answer after performed => ?_
  cases performed
  exact .refl _

theorem meets_nextRetryAt (config : OutboxConfig) {nextRetryCount : ℕ} :
    Meets worker claimTtlMs (nextRetryAt config nextRetryCount)
      (Answered fun _ => Rely worker state) state := by
  unfold nextRetryAt
  split
  · exact meets_answered _ meets_dateNow fun _ _ relied => .pure relied
  · exact .pure (.refl _)

theorem meets_updateMany {update : EventUpdate} (ready : Ready worker (evt :: rows) state)
    (reports : update.Reports evt state) :
    Meets worker claimTtlMs (request (.updateMany evt.id evt.claimedAt update))
      (Answered fun _ => Ready worker rows) state := by
  refine meets_request fun before rely choice answer after performed => ?_
  refine perform_updateMany (rely.ready _ ready) ?_ performed
  cases update with
  | processed => exact rely.confirmed reports
  | failed => exact reports

theorem meets_processEvent (config : OutboxConfig) (ready : Ready worker (evt :: rows) state) :
    Meets worker claimTtlMs (processEvent config evt)
      (fun _ => Ready worker rows) state := by
  refine .attempt (meets_publishEvent config) fun outcome published kept => ?_
  have ready := kept.1.ready _ ready
  cases outcome with
  | ok _ =>
      refine meets_answered _ meets_dateNow fun publishedAt dated relied => ?_
      have reports : evt.id ∈ dated.confirmed := relied.confirmed (kept.2 rfl)
      exact meets_answered _ (meets_updateMany (relied.ready _ ready) reports)
        fun _ _ rest => .pure rest
  | error error =>
      refine meets_answered _ (meets_nextRetryAt config) fun nextRetryAt scheduled relied => ?_
      exact meets_throwing _ (meets_updateMany (relied.ready _ ready) rfl)
        (fun _ _ rest => rest) fun _ _ rest => .pure rest

/-- One event after the other: the claimed rows still to come stay ready. -/
theorem meets_processEvents (config : OutboxConfig) (ready : Ready worker rows state) :
    Meets worker claimTtlMs (processEvents config rows) (fun _ _ => True) state := by
  induction rows generalizing state with
  | nil => exact .pure trivial
  | cons evt rows induction =>
      exact .bind (meets_processEvent config ready) (fun _ _ _ => trivial)
        fun _ _ rest => induction rest

theorem meets_processPendingEvents (config : OutboxConfig) (ready : Ready worker [] state) :
    Meets worker config.claimTtlMs (processPendingEvents config) (fun _ _ => True) state := by
  refine meets_throwing (fun answer final => ∀ rows, answer = .ok rows → Ready worker rows final)
    (meets_request fun before rely choice answer after performed => ?_)
    (fun _ _ _ => trivial) fun rows claimed holds => meets_processEvents config (holds rows rfl)
  exact perform_claimNextBatch (rely.ready _ ready) config.claimTtlMsPositive performed

end Programs

/-! ## Interleavings -/

section Interleavings

variable {Worker Payload : Type} [DecidableEq Worker]

omit [DecidableEq Worker] in
theorem environment_cases {before after : State Worker Payload} {event : Occurrence Payload}
    (happened : before.environment event = some after) :
    (∃ now, before.now ≤ now ∧ after = { before with now }) ∨
      ∃ id type payload createdAt, (∀ row ∈ before.events, row.id ≠ id) ∧
        after = { before with events := before.events ++ [.created id type payload createdAt] } := by
  cases event with
  | tick now =>
      simp only [State.environment] at happened
      split at happened
      · cases happened
        exact .inl ⟨now, by assumption, rfl⟩
      · cases happened
  | create id type payload createdAt =>
      simp only [State.environment] at happened
      split at happened
      · cases happened
      · rename_i absent
        cases happened
        exact .inr ⟨id, type, payload, createdAt, by simpa using absent, rfl⟩

omit [DecidableEq Worker] in
theorem environment_invariant {before after : State Worker Payload} {event : Occurrence Payload}
    (invariant : Invariant before) (happened : before.environment event = some after) :
    Invariant after := by
  rcases environment_cases happened with ⟨now, later, rfl⟩ | ⟨_, _, _, _, fresh, rfl⟩
  · exact invariant.observes rfl (toTimestamp_mono later) rfl (List.Subset.refl _)
  · exact invariant.creates fresh

omit [DecidableEq Worker] in
theorem environment_rely {worker : Worker} {before after : State Worker Payload}
    {event : Occurrence Payload} (happened : before.environment event = some after) :
    Rely worker before after := by
  rcases environment_cases happened with ⟨now, later, rfl⟩ | ⟨_, _, _, _, fresh, rfl⟩
  · exact ⟨fun _ ready => ready.observes rfl (toTimestamp_mono later) rfl (List.Subset.refl _),
      List.Subset.refl _⟩
  · exact ⟨fun _ ready => ready.creates fresh, List.Subset.refl _⟩

def discipline (Worker Payload : Type) [DecidableEq Worker] (config : OutboxConfig) :
    Discipline (machine Worker Payload) WorkerResult where
  start _ := (processPendingEvents config).run
  allowed := Unrestricted
  invariant := Invariant
  rely := Rely
  guarantee := Effect config.claimTtlMs
  ready _ _ := True
  post _ _ _ := True
  rely_refl _ := .refl
  rely_trans _ _ _ _ := .trans
  begins invariant _ := meets_processPendingEvents config ⟨invariant, .nil, (by simp)⟩
  keeps invariant effect := invariant.effect config.claimTtlMsPositive effect
  interference := by
    intro current worker other choice after different _ _ _ _ _ effect
    refine ⟨fun rows ready =>
      ready.interference config.claimTtlMsPositive (Ne.symm different) effect, ?_⟩
    exact effect.confirmed
  ready_stable _ _ _ := id
  post_stable _ _ _ := id
  environment := by
    intro current event after _ invariant happened
    exact ⟨environment_invariant invariant happened,
      fun worker => ⟨environment_rely happened, id, fun _ => id⟩⟩

end Interleavings

/-! ## Reachable configurations -/

section Reachable

variable {Worker Payload : Type} [DecidableEq Worker] {config : OutboxConfig}
  {current following : Configuration Worker Payload} {worker : Worker}

omit [DecidableEq Worker] in
theorem invariant_initial (now : ℕ) :
    Invariant (initial Worker Payload config now).shared where
  distinct := .nil
  lawful := trivial
  leased := by simp [initial]
  released := by simp [initial]
  tokens := by simp [initial, Lease.latest]
  known := by simp [initial, Lease.latest]
  confirmed := by simp [initial]
  counted := by simp [initial]
  scheduled := by simp [initial]

theorem Reachable.sound (reachable : Reachable config current) :
    (discipline Worker Payload config).Sound current := by
  rcases reachable with ⟨now, run⟩
  have sound : (discipline Worker Payload config).Sound (initial Worker Payload config now) :=
    ⟨invariant_initial now, fun _ => .waiting rfl rfl trivial⟩
  exact sound.run run

theorem Reachable.invariant (reachable : Reachable config current) : Invariant current.shared :=
  reachable.sound.1

theorem Reachable.step_cases {label : Label Worker Payload} (reachable : Reachable config current)
    (taken : step current label = some following) :
    (∃ worker choice, label = .perform worker choice ∧
      Effect config.claimTtlMs worker current.shared following.shared) ∨
    (∃ now, following.shared = { current.shared with now }) ∨
    ∃ id type payload createdAt, (∀ row ∈ current.shared.events, row.id ≠ id) ∧
      following.shared = { current.shared with
        events := current.shared.events ++ [.created id type payload createdAt] } := by
  cases label with
  | perform worker choice => exact .inl ⟨worker, choice, rfl, (reachable.sound.acts taken).1⟩
  | environment event =>
      rcases Machine.step_environment taken with ⟨shared, happened, rfl⟩
      rcases environment_cases happened with ⟨now, _, rfl⟩ | created
      · exact .inr (.inl ⟨now, rfl⟩)
      · exact .inr (.inr created)

end Reachable

end BankingBackend.Outbox
