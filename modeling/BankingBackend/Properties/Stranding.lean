import BankingBackend.Outbox.Interleaving

/-! # Events that wait for a worker -/

namespace BankingBackend.Outbox

open Foundation

section Waiting

variable {Payload : Type} {event : Event Payload}

/-- Not processed, and claimed at some time while it is being published. -/
structure Event.Waiting (event : Event Payload) : Prop where
  unprocessed : event.status ≠ .processed
  claimed : event.status = .publishing → event.claimedAt.isSome

theorem Event.waiting_created {id : Postgres.Uuid} {type : String} {payload : Payload}
    {createdAt : ℕ} : (Event.created id type payload createdAt).Waiting :=
  ⟨by simp [Event.created], by simp [Event.created]⟩

theorem Event.Waiting.eventually_claimable (waiting : event.Waiting) (claimTtlMs : ℕ) :
    ∃ time, ∀ now, time ≤ now → event.claimable now claimTtlMs = true := by
  unfold Event.claimable
  cases status : event.status with
  | pending => exact ⟨0, fun _ _ => rfl⟩
  | failed =>
      cases event.nextRetryAt with
      | none => exact ⟨0, fun _ _ => rfl⟩
      | some nextRetryAt => exact ⟨nextRetryAt * 1000, fun now later => decide_eq_true later⟩
  | publishing =>
      rcases Option.isSome_iff_exists.mp (waiting.claimed status) with ⟨claimedAt, claimed⟩
      refine ⟨claimedAt * 1000 + claimTtlMs * 1000 + 1, fun now later => ?_⟩
      rw [claimed]
      exact decide_eq_true later
  | processed => exact absurd status waiting.unprocessed

end Waiting

section Runs

variable (Worker Payload : Type) [DecidableEq Worker]

/-- What holds of the events whatever happens to the workers: a crash is a worker
that takes no further steps. -/
structure NoneStranded (config : OutboxConfig) : Prop where
  /-- An event that is not processed can be claimed from some time on. -/
  claimable : ∀ current : Configuration Worker Payload, Reachable config current →
    ∀ event ∈ current.shared.events, event.status ≠ .processed →
      ∃ time, ∀ now, time ≤ now → event.claimable now config.claimTtlMs = true
  claimed : ∀ current : Configuration Worker Payload, Reachable config current →
    ∀ event ∈ current.shared.events, event.status = .publishing → event.claimedAt.isSome
  /-- The next retry is a date, or none. -/
  scheduled : ∀ current : Configuration Worker Payload, Reachable config current →
    ∀ event ∈ current.shared.events, ∀ date ∈ event.nextRetryAt, date ≤ EventUpdate.maxDate

variable {Worker Payload} in
omit [DecidableEq Worker] in
theorem Invariant.claimed {state : State Worker Payload} (invariant : Invariant state)
    {event : Event Payload} (member : event ∈ state.events) (publishing : event.status = .publishing) :
    event.claimedAt.isSome := by
  cases held : Lease.current event.id state.history with
  | none => exact absurd publishing (invariant.released event member held)
  | some claim => simp [(invariant.leased event member claim held).2]

theorem none_stranded (config : OutboxConfig) : NoneStranded Worker Payload config where
  claimable current reachable event member unprocessed := by
    have waiting : event.Waiting := ⟨unprocessed, reachable.invariant.claimed member⟩
    exact waiting.eventually_claimable config.claimTtlMs
  claimed current reachable event member := reachable.invariant.claimed member
  scheduled current reachable := reachable.invariant.scheduled

end Runs

end BankingBackend.Outbox
