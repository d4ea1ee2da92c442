import BankingBackend.Messaging.Custody
import BankingBackend.Properties.SingleEffect

/-! # No message is lost by a consumer -/

namespace BankingBackend.Messaging

open Foundation

section Runs

variable {Worker : Type} [DecidableEq Worker]

/-- Where a message that was published to the queue of a consumer can be. -/
inductive Accounted (deployment : Deployment Worker) (msg : Message) (consumer : Consumer)
    (state : State Worker) : Prop
  | completed (messageId : String) (named : keyOf deployment.config msg = some messageId)
      (completed : state.Completed consumer messageId)
  | queued (copy : Message) (queued : copy ∈ state.queue consumer)
      (same : SameMessage deployment.config msg copy)
  | unacknowledged (worker : Worker) (copy : Message)
      (mine : deployment.consumers worker = consumer)
      (holds : (state.handling worker).message = some copy)
      (unacked : (state.handling worker).unacked = true)
      (same : SameMessage deployment.config msg copy)
  | deadLettered (copy : Message) (deadLettered : copy ∈ state.deadLetters consumer)
      (same : SameMessage deployment.config msg copy)
  | dispatching (worker : Worker) (copy : Message) (messageId : String)
      (mine : deployment.consumers worker = consumer)
      (alive : (state.handling worker).crashed = false)
      (handles : state.Handles worker copy (.dispatching messageId))
      (same : SameMessage deployment.config msg copy)

/-- In every state reached, each published message is accounted for by every consumer it
was routed to. -/
def NoneLost (deployment : Deployment Worker)
    (allowed : Configuration Worker → Label Worker → Prop) : Prop :=
  ∀ now current, Run deployment.step allowed (deployment.initial now) current →
    ∀ msg ∈ current.shared.published, ∀ consumer,
      deployment.config.topology.routes msg consumer = true →
        Accounted deployment msg consumer current.shared

/-- Claims are refused only for completed messages and for those whose latest claimant
still has to complete, retry or reject its delivery or has rejected it. A completed message
is marked as failed only by a worker that still has its delivery. -/
def held (deployment : Deployment Worker) : Condition Worker where
  permits worker command choice state :=
    RefusalsHeld deployment worker command choice state ∧
      MarksAnswered deployment worker command choice state

omit [DecidableEq Worker] in
theorem Kept.accounted {deployment : Deployment Worker} {msg : Message} {consumer : Consumer}
    {state : State Worker} (kept : Kept deployment msg consumer state) :
    Accounted deployment msg consumer state := by
  cases kept with
  | completed messageId named completed => exact .completed messageId named completed
  | queued copy queued same => exact .queued copy queued same
  | deadLettered copy deadLettered same => exact .deadLettered copy deadLettered same
  | busy worker copy mine holds busy same => exact .unacknowledged worker copy mine holds busy.1 same

def custodyInvariant (deployment : Deployment Worker) : Invariant deployment (held deployment) where
  holds := Custody deployment
  acts custody acted := by
    rcases acted with ⟨command, choice, ⟨refusals, marks⟩, _, change⟩
    exact
      { routed := fun _ => custody.routed_acts change
        delivered := fun other _ => custody.delivered_acts change other
        claimed := fun _ _ _ => custody.claimed_acts change
        rejected := fun other _ => custody.rejected_acts change other
        kept := fun msg member consumer routed => custody.kept_acts change refusals marks
          (custody.kept msg (change.published ▸ member) consumer routed) }
  environment custody _ happened := custody.environment happened

omit [DecidableEq Worker] in
theorem custody_initial (deployment : Deployment Worker) (now : ℕ) :
    Custody deployment (deployment.initial now).shared where
  routed := by simp [Deployment.initial]
  delivered := by simp [Deployment.initial]
  claimed := by simp [Deployment.initial]
  rejected := by simp [Deployment.initial, State.Handles]
  kept := by simp [Deployment.initial]

theorem none_lost (deployment : Deployment Worker) :
    NoneLost deployment (held deployment).allowed := by
  intro now current run msg member consumer routed
  have custody := (custodyInvariant deployment).reached (custody_initial deployment now) run
  exact (custody.kept msg member consumer routed).accounted

end Runs

/-! ### A redelivery while the claim of a crashed worker stands -/

/-- Workers crash, but no live worker loses its channel. -/
def channelStays : Label Bool → Bool
  | .environment (.disconnect _) => false
  | _ => true

/-- The first worker crashes after its claim; the second takes the redelivery for a
duplicate and acknowledges it. -/
def redeliveredRun : List (Label Bool) :=
  [.environment (.publish depositMessage), .perform false {}, .perform false {},
    .environment (.crash false), .perform true {}, .perform true {}, .perform true {}]

/-- A published message has left both the queue and the workers and is not completed. -/
def lost (config : ConsumerConfig) (final : Configuration Bool) : Bool :=
  let state := final.shared
  (state.published.any fun msg =>
      config.topology.routes msg .rabbitMq &&
        (keyOf config msg).any fun messageId =>
          (state.rows .rabbitMq messageId).all fun row => row.status != .completed) &&
    (state.queue .rabbitMq).isEmpty && (state.deadLetters .rabbitMq).isEmpty &&
    [false, true].all fun worker =>
      !(state.handling worker).unacked &&
        ((state.handling worker).crashed || (state.handling worker).progress == .settled)

private theorem redelivered_leads :
    (execute (Deployment.only .rabbitMq).step (fun _ label => channelStays label)
      ((Deployment.only .rabbitMq).initial 0) redeliveredRun).any
        (lost (Deployment.only .rabbitMq : Deployment Bool).config) = true := by decide +kernel

theorem redelivered_lost :
    ¬NoneLost (Deployment.only .rabbitMq) fun _ label => channelStays label = true := by
  intro noneLost
  rcases exists_run_of_execute (Deployment.only .rabbitMq).step (fun _ label => channelStays label)
    (fun _ label => channelStays label = true) (fun _ _ => id) redelivered_leads with
    ⟨final, run, passed⟩
  simp only [lost, Bool.and_eq_true, List.any_eq_true, Option.any_eq_true, List.isEmpty_iff,
    List.all_cons, List.all_nil] at passed
  rcases passed with ⟨⟨⟨⟨msg, published, routed, messageId, named, unfinished⟩, queue⟩, dead⟩,
    first, second, _⟩
  have idle (worker : Bool) : (final.shared.handling worker).unacked = false ∧
      ((final.shared.handling worker).crashed = true ∨
        (final.shared.handling worker).progress = .settled) := by
    cases worker with
    | false => simpa using first
    | true => simpa using second
  cases noneLost 0 final run msg published .rabbitMq routed with
  | completed other key done =>
      rw [named] at key
      cases key
      rcases done with ⟨row, found, completed⟩
      simp [found, completed] at unfinished
  | queued copy queued same =>
      rw [queue] at queued
      cases queued
  | unacknowledged worker copy mine holds unacked same =>
      rw [(idle worker).1] at unacked
      cases unacked
  | deadLettered copy deadLettered same =>
      rw [dead] at deadLettered
      cases deadLettered
  | dispatching worker copy other mine alive handles same =>
      rcases (idle worker).2 with crashed | settled
      · rw [crashed] at alive
        cases alive
      · rw [handles.2] at settled
        cases settled

end BankingBackend.Messaging
