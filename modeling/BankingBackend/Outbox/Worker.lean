import BankingBackend.Outbox.Service
import Mathlib.Data.Finset.Erase
import Mathlib.Data.Finset.Insert

/-! # `OutboxWorker`

Each process has one worker, whose timer ticks. A tick that finds `isRunning` unset begins
a pass, and every pass that has begun goes on until its `finally` block, unless its process
is restarted: a new process leaves the passes of the old one as they were.
-/

namespace BankingBackend.Outbox

open Foundation

/-- The worker of one process. Its passes are numbered: `begun` is how many have been begun,
`passes` are those still to reach their `finally` block. -/
structure WorkerState where
  isRunning : Bool
  passes : Finset ℕ
  begun : ℕ

namespace WorkerState

/-- The beginning of `tick`. -/
def tick (worker : WorkerState) : WorkerState :=
  if worker.isRunning then worker
  else ⟨true, insert worker.begun worker.passes, worker.begun + 1⟩

/-- The `finally` block of `tick`. -/
def settle (worker : WorkerState) (pass : ℕ) : WorkerState :=
  { worker with isRunning := false, passes := worker.passes.erase pass }

def restart (worker : WorkerState) : WorkerState :=
  { worker with isRunning := false, passes := ∅ }

end WorkerState

/-- Each pass of each process is a worker of the events table. -/
structure Fleet (Process Payload : Type) where
  outbox : Configuration (Process × ℕ) Payload
  workers : Process → WorkerState

inductive FleetLabel (Process Payload : Type)
  | tick (process : Process)
  | perform (process : Process) (pass : ℕ) (choice : Choice)
  /-- The pass has returned or thrown. -/
  | settle (process : Process) (pass : ℕ)
  | restart (process : Process)
  | environment (event : Occurrence Payload)

namespace Fleet

variable {Process Payload : Type} [DecidableEq Process]

def setWorker (fleet : Fleet Process Payload) (process : Process) (worker : WorkerState) :
    Fleet Process Payload :=
  { fleet with workers := Function.update fleet.workers process worker }

def step (fleet : Fleet Process Payload) :
    FleetLabel Process Payload → Option (Fleet Process Payload)
  | .tick process => some (fleet.setWorker process (fleet.workers process).tick)
  | .restart process => some (fleet.setWorker process (fleet.workers process).restart)
  | .perform process pass choice =>
      if pass ∈ (fleet.workers process).passes then
        (Outbox.step fleet.outbox (.perform (process, pass) choice)).map fun outbox =>
          { fleet with outbox }
      else none
  | .settle process pass =>
      if pass ∈ (fleet.workers process).passes ∧
          (fleet.outbox.program (process, pass)).finished then
        some (fleet.setWorker process ((fleet.workers process).settle pass))
      else none
  | .environment event =>
      (Outbox.step fleet.outbox (.environment event)).map fun outbox => { fleet with outbox }

def initial (Process Payload : Type) (config : OutboxConfig) (now : ℕ) : Fleet Process Payload where
  outbox := Outbox.initial (Process × ℕ) Payload config now
  workers _ := ⟨false, ∅, 0⟩

def Reachable (config : OutboxConfig) (fleet : Fleet Process Payload) : Prop :=
  ∃ now, Run step Unrestricted (initial Process Payload config now) fleet

/-! ## What a step does -/

section Steps

variable {fleet following : Fleet Process Payload} {process other : Process} {pass : ℕ}

@[simp] theorem setWorker_outbox (worker : WorkerState) :
    (fleet.setWorker process worker).outbox = fleet.outbox := rfl

@[simp] theorem setWorker_self (worker : WorkerState) :
    (fleet.setWorker process worker).workers process = worker := Function.update_self _ _ _

theorem setWorker_of_ne (worker : WorkerState) (different : other ≠ process) :
    (fleet.setWorker process worker).workers other = fleet.workers other :=
  Function.update_of_ne different _ _

theorem step_perform {choice : Choice}
    (taken : fleet.step (.perform process pass choice) = some following) :
    pass ∈ (fleet.workers process).passes ∧ ∃ outbox,
      Outbox.step fleet.outbox (.perform (process, pass) choice) = some outbox ∧
      following = { fleet with outbox } := by
  rcases Option.ite_none_right_eq_some.mp taken with ⟨running, stepped⟩
  rcases Option.map_eq_some_iff.mp stepped with ⟨outbox, performed, rfl⟩
  exact ⟨running, outbox, performed, rfl⟩

theorem step_settle (taken : fleet.step (.settle process pass) = some following) :
    pass ∈ (fleet.workers process).passes ∧ ∃ result,
      fleet.outbox.program (process, pass) = .done result ∧
      following = fleet.setWorker process ((fleet.workers process).settle pass) := by
  rcases Option.ite_none_right_eq_some.mp taken with ⟨⟨running, finished⟩, same⟩
  cases program : fleet.outbox.program (process, pass) with
  | done result => exact ⟨running, result, rfl, (Option.some.inj same).symm⟩
  | call op next =>
      rw [program] at finished
      cases finished

theorem step_environment {event : Occurrence Payload}
    (taken : fleet.step (.environment event) = some following) :
    ∃ outbox, Outbox.step fleet.outbox (.environment event) = some outbox ∧
      following = { fleet with outbox } := by
  rcases Option.map_eq_some_iff.mp taken with ⟨outbox, happened, rfl⟩
  exact ⟨outbox, happened, rfl⟩

theorem step_outbox {label : FleetLabel Process Payload}
    (taken : fleet.step label = some following) : following.outbox = fleet.outbox ∨
      ∃ acted, Outbox.step fleet.outbox acted = some following.outbox := by
  cases label with
  | tick process =>
      cases taken
      exact .inl rfl
  | restart process =>
      cases taken
      exact .inl rfl
  | settle process pass =>
      rcases step_settle taken with ⟨_, _, _, rfl⟩
      exact .inl rfl
  | perform process pass choice =>
      rcases step_perform taken with ⟨_, outbox, performed, rfl⟩
      exact .inr ⟨_, performed⟩
  | environment event =>
      rcases step_environment taken with ⟨outbox, happened, rfl⟩
      exact .inr ⟨_, happened⟩

/-- Every run of the fleet is one of interleaved passes. -/
theorem Reachable.outbox {config : OutboxConfig} (reachable : Reachable config fleet) :
    Outbox.Reachable config fleet.outbox := by
  rcases reachable with ⟨now, run⟩
  refine run.invariant (fun fleet => Outbox.Reachable config fleet.outbox) ⟨now, .start⟩ ?_
  rintro fleet label following ⟨now, run⟩ _ taken
  rcases step_outbox taken with same | ⟨acted, performed⟩
  · exact ⟨now, same ▸ run⟩
  · exact ⟨now, .next acted run True.intro performed⟩

end Steps

end Fleet

end BankingBackend.Outbox
