import BankingBackend.Outbox.Interleaving

/-! # The outbox row protocol -/

namespace BankingBackend.Outbox

open Foundation
open Postgres (Uuid EventStatus)

/-! ## Changes of a row -/

section Rows

variable {Worker Payload : Type} {worker : Worker} {before after : State Worker Payload}
  {claimTtlMs : ℕ}

/-- How a step of a worker changes a row, and what the step records of it. -/
inductive RowChange (worker : Worker) (before after : State Worker Payload)
    (event row : Event Payload) : Prop
  | kept (same : row = event)
  | claimed (now : ℕ) (same : row = event.claim now) (unprocessed : event.status ≠ .processed)
  | finalized (token : ℕ) (update : EventUpdate)
      (held : Lease.current event.id before.history = some (worker, token))
      (justified : update.Justified event.id before) (same : row = update.apply event)
      (history : after.history = (event.id, .finalized worker) :: before.history)

theorem Effect.rowChange (effect : Effect claimTtlMs worker before after)
    (invariant : Invariant before) {event row : Event Payload} (member : event ∈ before.events)
    (rowMember : row ∈ after.events) (same : row.id = event.id) :
    RowChange worker before after event row := by
  cases effect with
  | observes events _ _ _ =>
      rw [events] at rowMember
      exact .kept (invariant.unique rowMember member same)
  | claims batch distinct claimable known result =>
      rw [result] at rowMember
      rcases State.mem_claimAll rowMember with ⟨source, present, ⟨listed, rfl⟩ | ⟨_, rfl⟩⟩
      · rw [invariant.unique present member same] at listed ⊢
        exact .claimed before.now rfl (Event.unprocessed_of_claimable (claimable _ member listed))
      · exact .kept (invariant.unique present member same)
  | finalizes id token update held _ justified result =>
      rw [result] at rowMember
      rcases invariant.mem_finalize held rowMember with ⟨source, present, ⟨here, rfl⟩ | ⟨_, rfl⟩⟩
      · rw [invariant.unique present member (Event.apply_id.symm.trans same)] at here ⊢
        rw [← here] at held justified result
        exact .finalized token update held justified rfl (congrArg State.history result)
      · exact .kept (invariant.unique present member same)

/-- A processed row is neither changed nor claimed by a worker. -/
theorem Effect.processed_kept (effect : Effect claimTtlMs worker before after)
    {event : Event Payload} (member : event ∈ before.events)
    (processed : event.status = .processed) :
    event ∈ after.events ∧
      Lease.claims event.id after.history = Lease.claims event.id before.history := by
  cases effect with
  | observes events _ history _ =>
      rw [events, history]
      exact ⟨member, rfl⟩
  | claims batch distinct claimable known result =>
      have unlisted : event.id ∉ batch := fun listed =>
        Event.unprocessed_of_claimable (claimable event member listed) processed
      rw [result]
      refine ⟨?_, Lease.claims_claimAll_of_notMem unlisted⟩
      have image := List.mem_map_of_mem
        (f := fun event => if event.id ∈ batch then event.claim before.now else event) member
      rwa [if_neg unlisted] at image
  | finalizes id token update held _ justified result =>
      have unclaimed : ¬event.isClaimed id (some token) = true := by
        simp [Event.isClaimed, processed]
      rw [result]
      refine ⟨?_, rfl⟩
      have image := List.mem_map_of_mem
        (f := fun event => if event.isClaimed id (some token) then update.apply event else event)
        member
      rwa [if_neg unclaimed] at image

end Rows

/-! ## The protocol -/

section Runs

variable {Worker Payload : Type} [DecidableEq Worker]

/-- What holds of the rows of `events` in every interleaving of the workers. -/
structure RowProtocol (Worker Payload : Type) [DecidableEq Worker] (config : OutboxConfig) :
    Prop where
  /-- A row is finalized only by the worker of its most recent claim. -/
  finalizer : ∀ (current following : Configuration Worker Payload) worker choice,
    Reachable config current → step current (.perform worker choice) = some following →
    ∀ event ∈ current.shared.events, ∀ row ∈ following.shared.events, row.id = event.id →
    row ≠ event → row.status ≠ .publishing →
      ∃ token, Lease.latest event.id current.shared.history = some (worker, token) ∧
        following.shared.history = (event.id, .finalized worker) :: current.shared.history
  /-- Each finalization ends a claim of its worker that was still open. -/
  once : ∀ current : Configuration Worker Payload, Reachable config current →
    ∀ id worker earlier, (id, .finalized worker) :: earlier <:+ current.shared.history →
      ∃ token, Lease.current id earlier = some (worker, token)
  /-- Only a finalization raises a retry count, by one. -/
  raised : ∀ (current following : Configuration Worker Payload) label,
    Reachable config current → step current label = some following →
    ∀ event ∈ current.shared.events, ∀ row ∈ following.shared.events, row.id = event.id →
      row.retryCount = event.retryCount ∨ row.retryCount = event.retryCount + 1 ∧
        ∃ worker, following.shared.history =
          (event.id, .finalized worker) :: current.shared.history
  /-- No row is retried more often than it is finalized, or finalized more often than
  it is claimed. -/
  counted : ∀ current : Configuration Worker Payload, Reachable config current →
    ∀ event ∈ current.shared.events,
      event.retryCount ≤ Lease.finalizations event.id current.shared.history ∧
        Lease.finalizations event.id current.shared.history ≤
          Lease.claims event.id current.shared.history
  /-- A processed row is never claimed and never changed again. -/
  absorbing : ∀ (current following : Configuration Worker Payload) label,
    Reachable config current → step current label = some following →
    ∀ event ∈ current.shared.events, event.status = .processed →
      event ∈ following.shared.events ∧
      (∀ row ∈ following.shared.events, row.id = event.id → row = event) ∧
      Lease.claims event.id following.shared.history =
        Lease.claims event.id current.shared.history
  /-- The broker has confirmed a publish of every processed event. -/
  confirmed : ∀ current : Configuration Worker Payload, Reachable config current →
    ∀ event ∈ current.shared.events, event.status = .processed →
      event.id ∈ current.shared.confirmed

theorem Reachable.rowChange {config : OutboxConfig} {current following : Configuration Worker Payload}
    {label : Label Worker Payload} (reachable : Reachable config current)
    (taken : step current label = some following) {event row : Event Payload}
    (member : event ∈ current.shared.events) (rowMember : row ∈ following.shared.events)
    (same : row.id = event.id) :
    row = event ∨ ∃ worker choice, label = .perform worker choice ∧
      RowChange worker current.shared following.shared event row := by
  rcases reachable.step_cases taken with ⟨worker, choice, acts, effect⟩ | ⟨now, ticked⟩ |
    ⟨id, type, payload, createdAt, fresh, created⟩
  · exact .inr ⟨worker, choice, acts, effect.rowChange reachable.invariant member rowMember same⟩
  · rw [ticked] at rowMember
    exact .inl (reachable.invariant.unique rowMember member same)
  · rw [created] at rowMember
    rcases mem_created rowMember with present | rfl
    · exact .inl (reachable.invariant.unique present member same)
    · exact absurd same.symm (fresh event member)

theorem Reachable.processed_kept {config : OutboxConfig}
    {current following : Configuration Worker Payload} {label : Label Worker Payload}
    (reachable : Reachable config current) (taken : step current label = some following)
    {event : Event Payload} (member : event ∈ current.shared.events)
    (processed : event.status = .processed) :
    event ∈ following.shared.events ∧
      Lease.claims event.id following.shared.history =
        Lease.claims event.id current.shared.history := by
  rcases reachable.step_cases taken with ⟨worker, choice, _, effect⟩ | ⟨now, ticked⟩ |
    ⟨id, type, payload, createdAt, _, created⟩
  · exact effect.processed_kept member processed
  · rw [ticked]
    exact ⟨member, rfl⟩
  · rw [created]
    exact ⟨List.mem_append_left _ member, rfl⟩

theorem row_protocol (Worker Payload : Type) [DecidableEq Worker] (config : OutboxConfig) :
    RowProtocol Worker Payload config where
  finalizer current following worker choice reachable taken event member row rowMember same
      changed finalized := by
    rcases reachable.rowChange taken member rowMember same with kept | ⟨_, _, acts, change⟩
    · exact absurd kept changed
    · cases acts
      cases change with
      | kept same => exact absurd same changed
      | claimed now same _ => exact absurd (congrArg Event.status same) finalized
      | finalized token update held _ _ history =>
          exact ⟨token, Lease.latest_of_current held, history⟩
  once current reachable id worker earlier suffix := by
    rcases reachable.invariant.lawful.finalized suffix with ⟨token, held, _, _⟩
    exact ⟨token, held⟩
  raised current following label reachable taken event member row rowMember same := by
    rcases reachable.rowChange taken member rowMember same with kept | ⟨worker, _, _, change⟩
    · exact .inl (congrArg Event.retryCount kept)
    · cases change with
      | kept same => exact .inl (congrArg Event.retryCount same)
      | claimed now same _ => exact .inl (by rw [same, Event.claim_retryCount])
      | finalized token update _ justified same history =>
          rw [same]
          cases update with
          | processed => exact .inl rfl
          | failed retryCount => exact .inr ⟨justified event member rfl, worker, history⟩
  counted current reachable event member := by
    have invariant := reachable.invariant
    have bound := invariant.lawful.finalizations_le event.id
    exact ⟨invariant.counted event member, (Nat.le_add_right _ _).trans bound⟩
  absorbing current following label reachable taken event member processed := by
    have kept := reachable.processed_kept taken member processed
    refine ⟨kept.1, fun row rowMember same => ?_, kept.2⟩
    rcases reachable.rowChange taken member rowMember same with same | ⟨_, _, _, change⟩
    · exact same
    · cases change with
      | kept same => exact same
      | claimed _ _ unprocessed => exact absurd processed unprocessed
      | finalized token _ held _ _ _ =>
          have marked := reachable.invariant.leased event member _ held
          exact absurd (processed.symm.trans marked.1) (by decide)
  confirmed current reachable event member processed :=
    reachable.invariant.confirmed event member processed

end Runs

end BankingBackend.Outbox
