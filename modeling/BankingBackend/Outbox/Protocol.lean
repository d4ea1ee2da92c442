import BankingBackend.Outbox.Service
import BankingBackend.Foundation.RelyGuarantee

/-! # The claims of the rows

A claim is a lease whose token is the time of the claim. A row is marked as the
history says, so an update that names the token of a claim finds the row only
while that claim stands.
-/

namespace BankingBackend.Outbox

open Foundation
open Postgres (Uuid EventStatus)

section Protocol

variable {Worker Payload : Type}

structure Invariant (state : State Worker Payload) : Prop where
  distinct : (state.events.map Event.id).Nodup
  lawful : Lease.Lawful state.history
  leased : ∀ event ∈ state.events, ∀ claim ∈ Lease.current event.id state.history,
    event.status = .publishing ∧ event.claimedAt = some claim.2
  released : ∀ event ∈ state.events, Lease.current event.id state.history = none →
    event.status ≠ .publishing
  tokens : ∀ id, ∀ claim ∈ Lease.latest id state.history, claim.2 ≤ toTimestamp state.now
  known : ∀ id, ∀ claim ∈ Lease.latest id state.history, ∃ event ∈ state.events, event.id = id
  confirmed : ∀ event ∈ state.events, event.status = .processed → event.id ∈ state.confirmed
  counted : ∀ event ∈ state.events,
    event.retryCount ≤ Lease.finalizations event.id state.history
  scheduled : ∀ event ∈ state.events, ∀ date ∈ event.nextRetryAt, date ≤ EventUpdate.maxDate

/-- What an update of a claimed row says must be so. -/
def EventUpdate.Justified (id : Uuid) (state : State Worker Payload) : EventUpdate → Prop
  | .processed _ => id ∈ state.confirmed
  | .failed retryCount _ _ => ∀ event ∈ state.events, event.id = id →
      retryCount = event.retryCount + 1

inductive Effect (claimTtlMs : ℕ) (worker : Worker) (before after : State Worker Payload) : Prop
  | observes (events : after.events = before.events) (now : after.now = before.now)
      (history : after.history = before.history) (confirmed : before.confirmed ⊆ after.confirmed)
  | claims (batch : List Uuid) (distinct : batch.Nodup)
      (claimable : ∀ event ∈ before.events, event.id ∈ batch →
        event.claimable before.now claimTtlMs = true)
      (known : ∀ id ∈ batch, ∃ event ∈ before.events, event.id = id)
      (result : after = before.claimAll worker batch)
  | finalizes (id : Uuid) (token : ℕ) (update : EventUpdate)
      (held : Lease.current id before.history = some (worker, token))
      (fits : update.fits = true) (justified : update.Justified id before)
      (result : after = before.finalize worker id (some token) update)

theorem Effect.refl {claimTtlMs : ℕ} {worker : Worker} (state : State Worker Payload) :
    Effect claimTtlMs worker state state :=
  .observes rfl rfl rfl (List.Subset.refl _)

variable {before after : State Worker Payload} {worker : Worker} {claimTtlMs : ℕ}

theorem Effect.confirmed (effect : Effect claimTtlMs worker before after) :
    before.confirmed ⊆ after.confirmed := by
  cases effect with
  | observes _ _ _ confirmed => exact confirmed
  | claims _ _ _ _ result =>
      rw [result]
      exact List.Subset.refl _
  | finalizes _ _ _ _ _ _ result =>
      rw [result]
      exact List.Subset.refl _

/-! ## What each effect keeps -/

theorem Invariant.observes (invariant : Invariant before) (events : after.events = before.events)
    (now : toTimestamp before.now ≤ toTimestamp after.now)
    (history : after.history = before.history) (confirmed : before.confirmed ⊆ after.confirmed) :
    Invariant after where
  distinct := by rw [events]; exact invariant.distinct
  lawful := by rw [history]; exact invariant.lawful
  leased := by rw [events, history]; exact invariant.leased
  released := by rw [events, history]; exact invariant.released
  tokens id claim newest := (invariant.tokens id claim (history ▸ newest)).trans now
  known := by rw [events, history]; exact invariant.known
  confirmed event member processed :=
    confirmed (invariant.confirmed event (events ▸ member) processed)
  counted := by rw [events, history]; exact invariant.counted
  scheduled := by rw [events]; exact invariant.scheduled

/-- A claimable row is unclaimed, or its claim has expired: the new token is larger. -/
theorem Invariant.fenced (invariant : Invariant before) (ttl : 0 < claimTtlMs)
    {event : Event Payload} (member : event ∈ before.events)
    (claimable : event.claimable before.now claimTtlMs = true) :
    ∀ claim ∈ Lease.current event.id before.history, claim.2 < toTimestamp before.now := by
  intro claim held
  have marked := invariant.leased event member claim held
  simp only [Event.claimable, marked.1, marked.2, Option.any_some, decide_eq_true_eq] at claimable
  unfold toTimestamp
  omega

section Claims

variable {batch : List Uuid}

theorem State.mem_claimAll {row : Event Payload}
    (member : row ∈ (before.claimAll worker batch).events) :
    ∃ event ∈ before.events, event.id ∈ batch ∧ row = event.claim before.now ∨
      event.id ∉ batch ∧ row = event := by
  rcases List.mem_map.mp member with ⟨event, present, rfl⟩
  refine ⟨event, present, ?_⟩
  by_cases listed : event.id ∈ batch
  · exact .inl ⟨listed, if_pos listed⟩
  · exact .inr ⟨listed, if_neg listed⟩

theorem State.claimAll_ids :
    (before.claimAll worker batch).events.map Event.id = before.events.map Event.id := by
  simp only [State.claimAll, List.map_map]
  refine List.map_congr_left fun event _ => ?_
  simp only [Function.comp]
  split <;> rfl

variable (invariant : Invariant before) (ttl : 0 < claimTtlMs)
  (claimable : ∀ event ∈ before.events, event.id ∈ batch →
    event.claimable before.now claimTtlMs = true)
  (known : ∀ id ∈ batch, ∃ event ∈ before.events, event.id = id)
include invariant ttl claimable known

theorem Invariant.fencedBatch : ∀ id ∈ batch, ∀ claim ∈ Lease.current id before.history,
    claim.2 < toTimestamp before.now := by
  intro id listed
  rcases known id listed with ⟨event, member, rfl⟩
  exact invariant.fenced ttl member (claimable event member listed)

theorem Invariant.claims (distinct : batch.Nodup) : Invariant (before.claimAll worker batch) where
  distinct := by
    rw [State.claimAll_ids]
    exact invariant.distinct
  lawful := invariant.lawful.claimAll distinct (fun id _ => invariant.tokens id)
    (invariant.fencedBatch ttl claimable known)
  leased := by
    intro row member claim held
    rw [State.claimAll, Lease.current_claimAll] at held
    rcases State.mem_claimAll member with ⟨event, present, ⟨listed, rfl⟩ | ⟨unlisted, rfl⟩⟩
    · rw [Event.claim_id, if_pos listed] at held
      cases held
      exact ⟨rfl, rfl⟩
    · rw [if_neg unlisted] at held
      exact invariant.leased _ present claim held
  released := by
    intro row member unclaimed
    rw [State.claimAll, Lease.current_claimAll] at unclaimed
    rcases State.mem_claimAll member with ⟨event, present, ⟨listed, rfl⟩ | ⟨unlisted, rfl⟩⟩
    · rw [Event.claim_id, if_pos listed] at unclaimed
      cases unclaimed
    · rw [if_neg unlisted] at unclaimed
      exact invariant.released _ present unclaimed
  tokens := by
    intro id claim newest
    rw [State.claimAll, Lease.latest_claimAll] at newest
    split at newest
    · cases newest
      exact le_rfl
    · exact invariant.tokens id claim newest
  known := by
    intro id claim newest
    have present : ∃ event ∈ before.events, event.id = id := by
      rw [State.claimAll, Lease.latest_claimAll] at newest
      split at newest
      · exact known id (by assumption)
      · exact invariant.known id claim newest
    rwa [← List.mem_map (f := Event.id), State.claimAll_ids, List.mem_map]
  confirmed := by
    intro row member processed
    rcases State.mem_claimAll member with ⟨event, present, ⟨_, rfl⟩ | ⟨_, rfl⟩⟩
    · cases processed
    · exact invariant.confirmed _ present processed
  counted := by
    intro row member
    rw [State.claimAll, Lease.finalizations_claimAll]
    rcases State.mem_claimAll member with ⟨event, present, ⟨_, rfl⟩ | ⟨_, rfl⟩⟩
    · exact invariant.counted event present
    · exact invariant.counted _ present
  scheduled := by
    intro row member
    rcases State.mem_claimAll member with ⟨event, present, ⟨_, rfl⟩ | ⟨_, rfl⟩⟩
    · exact invariant.scheduled event present
    · exact invariant.scheduled _ present

end Claims

section Finalizations

variable {id : Uuid} {token : ℕ} {update : EventUpdate} (invariant : Invariant before)
  (held : Lease.current id before.history = some (worker, token))
include invariant held

/-- While the claim stands its token names the row, and no other. -/
theorem Invariant.mem_finalize {row : Event Payload}
    (member : row ∈ (before.finalize worker id (some token) update).events) :
    ∃ event ∈ before.events, event.id = id ∧ row = update.apply event ∨
      event.id ≠ id ∧ row = event := by
  rcases List.mem_map.mp member with ⟨event, present, rfl⟩
  refine ⟨event, present, ?_⟩
  by_cases same : event.id = id
  · have marked := invariant.leased event present (worker, token) (same ▸ held)
    exact .inl ⟨same, if_pos (Event.isClaimed_iff.mpr ⟨same, marked⟩)⟩
  · exact .inr ⟨same, if_neg fun claimed => same (Event.isClaimed_iff.mp claimed).1⟩

omit invariant held in
theorem State.finalize_ids :
    (before.finalize worker id (some token) update).events.map Event.id =
      before.events.map Event.id := by
  simp only [State.finalize, List.map_map]
  refine List.map_congr_left fun event _ => ?_
  simp only [Function.comp]
  split
  · exact Event.apply_id
  · rfl

theorem Invariant.finalizes (fits : update.fits = true) (justified : update.Justified id before) :
    Invariant (before.finalize worker id (some token) update) where
  distinct := by
    rw [State.finalize_ids]
    exact invariant.distinct
  lawful := ⟨invariant.lawful, token, held⟩
  leased := by
    intro row member claim claimed
    rcases invariant.mem_finalize held member with ⟨event, present, ⟨same, rfl⟩ | ⟨other, rfl⟩⟩
    · rw [Event.apply_id, same] at claimed
      simp [State.finalize, Lease.current] at claimed
    · refine invariant.leased _ present claim ?_
      simpa [State.finalize, Lease.current, Ne.symm other] using claimed
  released := by
    intro row member unclaimed
    rcases invariant.mem_finalize held member with ⟨event, present, ⟨_, rfl⟩ | ⟨other, rfl⟩⟩
    · rcases Event.apply_status update event with status | status <;>
        simp [status]
    · refine invariant.released _ present ?_
      simpa [State.finalize, Lease.current, Ne.symm other] using unclaimed
  tokens := invariant.tokens
  known := by
    intro key claim newest
    have present := invariant.known key claim newest
    rwa [← List.mem_map (f := Event.id), State.finalize_ids, List.mem_map]
  confirmed := by
    intro row member processed
    rcases invariant.mem_finalize held member with ⟨event, present, ⟨same, rfl⟩ | ⟨_, rfl⟩⟩
    · rw [Event.apply_id, same]
      cases update with
      | processed => exact justified
      | failed => cases processed
    · exact invariant.confirmed _ present processed
  counted := by
    intro row member
    rcases invariant.mem_finalize held member with ⟨event, present, ⟨same, rfl⟩ | ⟨_, rfl⟩⟩
    · have bound := invariant.counted event present
      have raised : (update.apply event).retryCount ≤ event.retryCount + 1 := by
        cases update with
        | processed => exact Nat.le_succ _
        | failed => exact (justified event present same).le
      simp only [Event.apply_id, State.finalize, Lease.finalizations, same, if_true] at bound ⊢
      omega
    · exact (invariant.counted _ present).trans (Nat.le_add_right _ _)
  scheduled := by
    intro row member
    rcases invariant.mem_finalize held member with ⟨event, present, ⟨_, rfl⟩ | ⟨_, rfl⟩⟩
    · exact EventUpdate.scheduled_of_fits fits event
    · exact invariant.scheduled _ present

end Finalizations

theorem Invariant.effect (invariant : Invariant before) (ttl : 0 < claimTtlMs)
    (effect : Effect claimTtlMs worker before after) : Invariant after := by
  cases effect with
  | observes events now history confirmed =>
      exact invariant.observes events (by rw [now]) history confirmed
  | claims batch distinct claimable known result =>
      rw [result]
      exact invariant.claims ttl claimable known distinct
  | finalizes id token update held fits justified result =>
      rw [result]
      exact invariant.finalizes held fits justified

/-! ## What a worker knows of its claims -/

/-- The row a worker was handed is as it was while the claim stands. -/
def Holding (worker : Worker) (evt : ClaimedEventRow Payload) (state : State Worker Payload) :
    Prop :=
  ∃ token, evt.claimedAt = some token ∧ Lease.Standing worker token evt.id state.history ∧
    (Lease.current evt.id state.history = some (worker, token) →
      ∀ event ∈ state.events, event.id = evt.id → event.retryCount = evt.retryCount)

/-- A worker has distinct claimed rows left to process. -/
structure Ready (worker : Worker) (rows : List (ClaimedEventRow Payload))
    (state : State Worker Payload) : Prop where
  invariant : Invariant state
  distinct : (rows.map ClaimedEventRow.id).Nodup
  holding : ∀ evt ∈ rows, Holding worker evt state

variable {evt : ClaimedEventRow Payload} {other : Worker}

theorem Holding.observes (holding : Holding worker evt before)
    (events : after.events = before.events) (history : after.history = before.history) :
    Holding worker evt after := by
  unfold Holding
  rw [events, history]
  exact holding

/-- Another worker may supersede the claim, under a larger token. -/
theorem Holding.claims (holding : Holding worker evt before) (different : other ≠ worker)
    (invariant : Invariant before) (ttl : 0 < claimTtlMs) {batch : List Uuid}
    (claimable : ∀ event ∈ before.events, event.id ∈ batch →
      event.claimable before.now claimTtlMs = true)
    (known : ∀ id ∈ batch, ∃ event ∈ before.events, event.id = id) :
    Holding worker evt (before.claimAll other batch) := by
  rcases holding with ⟨token, claimedAt, standing, counts⟩
  refine ⟨token, claimedAt, standing.claimAll (fun id _ => invariant.tokens id)
    (invariant.fencedBatch ttl claimable known), ?_⟩
  intro held row member same
  rw [State.claimAll, Lease.current_claimAll] at held
  split at held
  · cases held
    exact absurd rfl different
  · rename_i unlisted
    rcases State.mem_claimAll member with ⟨event, present, ⟨listed, rfl⟩ | ⟨_, rfl⟩⟩
    · exact absurd ((same : event.id = evt.id) ▸ listed) unlisted
    · exact counts held _ present same

theorem Holding.finalizes (holding : Holding worker evt before) (invariant : Invariant before)
    {id : Uuid} {token : ℕ} {update : EventUpdate} (own : id = evt.id → other ≠ worker)
    (claimed : Lease.current id before.history = some (other, token)) :
    Holding worker evt (before.finalize other id (some token) update) := by
  rcases holding with ⟨mine, claimedAt, standing, counts⟩
  refine ⟨mine, claimedAt, standing.finalized own ⟨token, claimed⟩, ?_⟩
  intro held row member same
  simp only [State.finalize, Lease.current] at held
  split at held
  · cases held
  · rename_i unrelated
    rcases invariant.mem_finalize claimed member with ⟨event, present, ⟨here, rfl⟩ | ⟨_, rfl⟩⟩
    · exact absurd (here.symm.trans (Event.apply_id.symm.trans same)) unrelated
    · exact counts held _ present same

variable {rows : List (ClaimedEventRow Payload)}

theorem Ready.observes (ready : Ready worker rows before) (events : after.events = before.events)
    (now : toTimestamp before.now ≤ toTimestamp after.now)
    (history : after.history = before.history) (confirmed : before.confirmed ⊆ after.confirmed) :
    Ready worker rows after where
  invariant := ready.invariant.observes events now history confirmed
  distinct := ready.distinct
  holding evt member := (ready.holding evt member).observes events history

theorem Ready.interference (ready : Ready worker rows before) (ttl : 0 < claimTtlMs)
    (different : other ≠ worker) (effect : Effect claimTtlMs other before after) :
    Ready worker rows after := by
  refine ⟨ready.invariant.effect ttl effect, ready.distinct, fun evt member => ?_⟩
  have holding := ready.holding evt member
  cases effect with
  | observes events _ history _ => exact holding.observes events history
  | claims batch distinct claimable known result =>
      rw [result]
      exact holding.claims different ready.invariant ttl claimable known
  | finalizes id token update held _ _ result =>
      rw [result]
      exact holding.finalizes ready.invariant (fun _ => different) held

section Created

variable {id : Uuid} {type : String} {payload : Payload} {createdAt : ℕ}
  (fresh : ∀ event ∈ before.events, event.id ≠ id)

theorem mem_created {row : Event Payload}
    (member : row ∈ before.events ++ [.created id type payload createdAt]) :
    row ∈ before.events ∨ row = .created id type payload createdAt := by
  simpa using member

include fresh

theorem Invariant.unclaimed (invariant : Invariant before) :
    Lease.current id before.history = none := by
  rw [Option.eq_none_iff_forall_not_mem]
  intro claim held
  rcases invariant.known id claim (Lease.latest_of_current held) with ⟨event, member, same⟩
  exact fresh event member same

theorem Invariant.creates (invariant : Invariant before) :
    Invariant { before with events := before.events ++ [.created id type payload createdAt] } where
  distinct := by
    rw [List.map_append, List.nodup_append]
    refine ⟨invariant.distinct, List.nodup_singleton _, ?_⟩
    intro key listed new created
    rcases List.mem_map.mp listed with ⟨event, member, rfl⟩
    rw [List.map_singleton, List.mem_singleton] at created
    rw [created]
    exact fresh event member
  lawful := invariant.lawful
  leased := by
    intro row member claim held
    rcases mem_created member with present | rfl
    · exact invariant.leased row present claim held
    · exact absurd ((invariant.unclaimed fresh).symm.trans held) (by simp)
  released := by
    intro row member free
    rcases mem_created member with present | rfl
    · exact invariant.released row present free
    · simp [Event.created]
  tokens := invariant.tokens
  known := by
    intro key claim newest
    rcases invariant.known key claim newest with ⟨event, member, same⟩
    exact ⟨event, List.mem_append_left _ member, same⟩
  confirmed := by
    intro row member processed
    rcases mem_created member with present | rfl
    · exact invariant.confirmed row present processed
    · cases processed
  counted := by
    intro row member
    rcases mem_created member with present | rfl
    · exact invariant.counted row present
    · exact Nat.zero_le _
  scheduled := by
    intro row member
    rcases mem_created member with present | rfl
    · exact invariant.scheduled row present
    · simp [Event.created]

theorem Ready.creates (ready : Ready worker rows before) : Ready worker rows
    { before with events := before.events ++ [.created id type payload createdAt] } := by
  refine ⟨ready.invariant.creates fresh, ready.distinct, fun evt member => ?_⟩
  rcases ready.holding evt member with ⟨token, claimedAt, standing, counts⟩
  refine ⟨token, claimedAt, standing, fun held row added same => ?_⟩
  rcases mem_created added with present | rfl
  · exact counts held row present same
  · have unclaimed := ready.invariant.unclaimed fresh
    rw [show id = evt.id from same] at unclaimed
    exact absurd (unclaimed.symm.trans held) (by simp)

end Created

end Protocol

end BankingBackend.Outbox
