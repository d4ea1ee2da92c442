import BankingBackend.Outbox.Live

/-! # Live workers publish each event once -/

namespace BankingBackend.Outbox

open Foundation
open Postgres (Uuid EventStatus)

section Runs

variable {Worker Payload : Type} [DecidableEq Worker]

/-- Every publish is confirmed and every statement succeeds; publishing may take
any time, as may everything else. -/
def Succeeds (label : Label Worker Payload) : Bool :=
  match label with
  | .perform _ choice => choice.failure.isNone
  | .environment _ => true

/-- No claim statement takes an event that is still being published. -/
def TakesNoneOver (current : Configuration Worker Payload) : Label Worker Payload → Prop
  | .perform worker choice => ∀ command next, current.program worker = .call command next →
      Timely choice current.shared command
  | .environment _ => True

/-- No event is published twice, and events are published by the worker that made
their latest claim. -/
structure PublishedOnce (Worker Payload : Type) [DecidableEq Worker] (config : OutboxConfig)
    (allowed : Configuration Worker Payload → Label Worker Payload → Prop) : Prop where
  once : ∀ now (current : Configuration Worker Payload),
    Run step allowed (initial Worker Payload config now) current → current.shared.confirmed.Nodup
  held : ∀ now (current following : Configuration Worker Payload) worker choice,
    Run step allowed (initial Worker Payload config now) current →
    allowed current (.perform worker choice) →
    step current (.perform worker choice) = some following →
    ∀ exchange routingKey message options next,
      current.program worker = .call (.publish exchange routingKey message options) next →
      ∃ token, Lease.latest options.messageId current.shared.history = some (worker, token)

omit [DecidableEq Worker] in
theorem liveInvariant_initial (config : OutboxConfig) (now : ℕ) :
    LiveInvariant (initial Worker Payload config now).shared where
  invariant := invariant_initial now
  once := List.nodup_nil
  known := by simp [initial]
  unpublished := by simp [initial]

omit [DecidableEq Worker] in
theorem LiveEffect.held {claimTtlMs : ℕ} {worker : Worker} {before after : State Worker Payload}
    (effect : LiveEffect claimTtlMs worker before after) {id : Uuid}
    (confirmed : after.confirmed = id :: before.confirmed) :
    ∃ token, Lease.latest id before.history = some (worker, token) := by
  have grown : after.confirmed ≠ before.confirmed := by
    rw [confirmed]
    exact List.cons_ne_self _ _
  cases effect with
  | observes handed result => exact absurd (congrArg State.confirmed result) grown
  | publishes other token held first result =>
      rw [result] at confirmed
      cases List.head_eq_of_cons_eq confirmed
      exact ⟨token, Lease.latest_of_current held⟩
  | claims batch distinct claimable free known result =>
      exact absurd (congrArg State.confirmed result) grown
  | finalizes other token publishedAt held published result =>
      exact absurd (congrArg State.confirmed result) grown

theorem restricted_step {current following : Configuration Worker Payload}
    {label : Label Worker Payload} (succeeds : Succeeds label = true)
    (timely : TakesNoneOver current label) (taken : step current label = some following) :
    ((machine Worker Payload).restrict LivePermits).step current label = some following := by
  refine Machine.restrict_step taken ?_
  rintro worker choice command next rfl program
  exact ⟨Option.isNone_iff_eq_none.mp succeeds, timely command next program⟩

theorem liveSound {config : OutboxConfig} {now : ℕ} {current : Configuration Worker Payload}
    (run : Run step (fun current label => Succeeds label = true ∧ TakesNoneOver current label)
      (initial Worker Payload config now) current) :
    (liveDiscipline Worker Payload config).Sound current := by
  refine run.invariant _ ⟨liveInvariant_initial config now, fun _ => .waiting rfl rfl trivial⟩ ?_
  intro current label following sound permitted taken
  exact sound.step trivial (restricted_step permitted.1 permitted.2 taken)

/-- While no claim is taken over, live workers publish no event twice. -/
theorem published_once (Worker Payload : Type) [DecidableEq Worker] (config : OutboxConfig) :
    PublishedOnce Worker Payload config fun current label =>
      Succeeds label = true ∧ TakesNoneOver current label where
  once now current run := (liveSound run).1.once
  held now current following worker choice run permitted taken := by
    intro exchange routingKey message options next program
    have acted := ((liveSound run).acts (restricted_step permitted.1 permitted.2 taken)).1
    refine acted.held ?_
    rcases Machine.step_perform taken with ⟨command, rest, answer, shared, asks, performed, rfl⟩
    rw [program] at asks
    cases asks
    have succeeds : choice.failure = none := Option.isNone_iff_eq_none.mp permitted.1
    simp only [machine, State.perform, succeeds] at performed
    cases performed
    rfl

end Runs

/-! ### A claim that expires before its event is published -/

/-- The second event of a batch is claimed again while the first is published, and
then published by both workers. -/
def expiredRun : List (Label ℕ Unit) :=
  [.environment (.create ⟨1⟩ "TRANSACTION_COMPLETED" () 0),
    .environment (.create ⟨2⟩ "TRANSACTION_COMPLETED" () 1)] ++
    List.replicate 6 (.perform 0 {}) ++
    [.environment (.tick 300001000)] ++
    List.replicate 4 (.perform 1 {}) ++
    List.replicate 3 (.perform 0 {})

private theorem expired_leads : (execute step (fun _ label => Succeeds label)
    (initial ℕ Unit {} 0) expiredRun).any
      (fun current => decide (¬current.shared.confirmed.Nodup)) = true := by decide +kernel

theorem expired_published_twice :
    ¬PublishedOnce ℕ Unit {} fun _ label => Succeeds label = true := by
  intro publishedOnce
  rcases exists_run_of_execute step (fun _ label => Succeeds label)
    (fun _ label => Succeeds label = true) (fun _ _ => id) expired_leads with ⟨final, run, passed⟩
  exact of_decide_eq_true passed (publishedOnce.once 0 final run)

end BankingBackend.Outbox
