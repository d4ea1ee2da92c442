import BankingBackend.Outbox.Worker

/-! # Passes of one process

The flag `isRunning` keeps the passes of a process apart: while one has still to settle
it is set, so that no other begins.
-/

namespace BankingBackend.Outbox.Fleet

open Foundation

section Serial

variable {Process Payload : Type}

/-- While a pass goes on, `isRunning` is set and the pass is the newest. -/
def Guarded (worker : WorkerState) : Prop :=
  ∀ pass ∈ worker.passes, worker.isRunning = true ∧ pass + 1 = worker.begun

structure Serial (config : OutboxConfig) (fleet : Fleet Process Payload) : Prop where
  guarded : ∀ process, Guarded (fleet.workers process)
  fresh : ∀ process pass, (fleet.workers process).begun ≤ pass →
    fleet.outbox.program (process, pass) = (processPendingEvents config).run ∧
      fleet.outbox.begun (process, pass) = false

/-- The process has ended all passes but those that go on. -/
def Ended (process : Process) (fleet : Fleet Process Payload) : Prop :=
  ∀ pass, pass < (fleet.workers process).begun → pass ∉ (fleet.workers process).passes →
    (fleet.outbox.program (process, pass)).finished = true

def KeepsRunning (process : Process) (_ : Fleet Process Payload) :
    FleetLabel Process Payload → Prop
  | .restart other => other ≠ process
  | .tick _ | .perform _ _ _ | .settle _ _ | .environment _ => True

variable [DecidableEq Process] {config : OutboxConfig} {fleet following : Fleet Process Payload}
  {process other : Process} {label : FleetLabel Process Payload} {worker : WorkerState} {pass : ℕ}

/-! ## The passes of a process -/

theorem tick_cases (worker : WorkerState) :
    worker.isRunning = true ∧ worker.tick = worker ∨
      worker.isRunning = false ∧
        worker.tick = ⟨true, insert worker.begun worker.passes, worker.begun + 1⟩ := by
  unfold WorkerState.tick
  cases running : worker.isRunning with
  | true => exact .inl ⟨rfl, if_pos rfl⟩
  | false => exact .inr ⟨rfl, if_neg Bool.false_ne_true⟩

theorem tick_begun_le (worker : WorkerState) : worker.begun ≤ worker.tick.begun := by
  rcases tick_cases worker with ⟨_, ticked⟩ | ⟨_, ticked⟩
  · rw [ticked]
  · rw [ticked]
    exact Nat.le_succ _

theorem mem_tick (member : pass ∈ worker.passes) : pass ∈ worker.tick.passes := by
  rcases tick_cases worker with ⟨_, ticked⟩ | ⟨_, ticked⟩
  · rwa [ticked]
  · rw [ticked]
    exact Finset.mem_insert_of_mem member

theorem Guarded.passes (guarded : Guarded worker) (resting : worker.isRunning = false) :
    worker.passes = ∅ := by
  rw [Finset.eq_empty_iff_forall_notMem]
  intro pass member
  rw [(guarded pass member).1] at resting
  cases resting

theorem Guarded.tick (guarded : Guarded worker) : Guarded worker.tick := by
  rcases tick_cases worker with ⟨_, ticked⟩ | ⟨resting, ticked⟩
  · rwa [ticked]
  · rw [ticked, guarded.passes resting]
    intro pass member
    cases Finset.mem_singleton.mp member
    exact ⟨rfl, rfl⟩

theorem guarded_of_empty (empty : worker.passes = ∅) : Guarded worker := by
  intro pass member
  rw [empty] at member
  cases Finset.notMem_empty pass member

/-- The pass that settles is the only one that goes on. -/
theorem Guarded.settle (guarded : Guarded worker) (running : pass ∈ worker.passes) :
    Guarded (worker.settle pass) := by
  intro other member
  rcases Finset.mem_erase.mp member with ⟨different, listed⟩
  have newest := (guarded pass running).2
  have also := (guarded other listed).2
  omega

theorem step_worker (taken : fleet.step label = some following) (process : Process) :
    following.workers process = fleet.workers process ∨
      label = .tick process ∧ following.workers process = (fleet.workers process).tick ∨
      (∃ pass, label = .settle process pass ∧ pass ∈ (fleet.workers process).passes ∧
        following.workers process = (fleet.workers process).settle pass) ∨
      label = .restart process ∧ following.workers process = (fleet.workers process).restart := by
  have changed (acting : Process) (worker : WorkerState) :
      (fleet.setWorker acting worker).workers process = fleet.workers process ∨
        acting = process ∧ (fleet.setWorker acting worker).workers process = worker := by
    by_cases same : process = acting
    · subst same
      exact .inr ⟨rfl, setWorker_self _⟩
    · exact .inl (setWorker_of_ne _ same)
  cases label with
  | tick acting =>
      cases taken
      rcases changed acting (fleet.workers acting).tick with kept | ⟨rfl, moved⟩
      · exact .inl kept
      · exact .inr (.inl ⟨rfl, moved⟩)
  | restart acting =>
      cases taken
      rcases changed acting (fleet.workers acting).restart with kept | ⟨rfl, moved⟩
      · exact .inl kept
      · exact .inr (.inr (.inr ⟨rfl, moved⟩))
  | settle acting pass =>
      rcases step_settle taken with ⟨running, _, _, rfl⟩
      rcases changed acting ((fleet.workers acting).settle pass) with kept | ⟨rfl, moved⟩
      · exact .inl kept
      · exact .inr (.inr (.inl ⟨pass, rfl, running, moved⟩))
  | perform acting pass choice =>
      rcases step_perform taken with ⟨_, _, _, rfl⟩
      exact .inl rfl
  | environment event =>
      rcases step_environment taken with ⟨_, _, rfl⟩
      exact .inl rfl

theorem begun_le_of_step (taken : fleet.step label = some following) (process : Process) :
    (fleet.workers process).begun ≤ (following.workers process).begun := by
  rcases step_worker taken process with kept | ⟨_, moved⟩ | ⟨_, _, _, moved⟩ | ⟨_, moved⟩
  · rw [kept]
  · rw [moved]
    exact tick_begun_le _
  · rw [moved]
    exact le_rfl
  · rw [moved]
    exact le_rfl

theorem step_pass (taken : fleet.step label = some following)
    (aside : pass ∉ (fleet.workers process).passes) :
    following.outbox.program (process, pass) = fleet.outbox.program (process, pass) ∧
      following.outbox.begun (process, pass) = fleet.outbox.begun (process, pass) := by
  cases label with
  | tick acting =>
      cases taken
      exact ⟨rfl, rfl⟩
  | restart acting =>
      cases taken
      exact ⟨rfl, rfl⟩
  | settle acting settled =>
      rcases step_settle taken with ⟨_, _, _, rfl⟩
      exact ⟨rfl, rfl⟩
  | environment event =>
      rcases step_environment taken with ⟨outbox, happened, rfl⟩
      rcases Machine.step_environment happened with ⟨shared, _, rfl⟩
      exact ⟨rfl, rfl⟩
  | perform acting running choice =>
      rcases step_perform taken with ⟨runs, outbox, performed, rfl⟩
      have different : (process, pass) ≠ (acting, running) := by
        rintro ⟨rfl, rfl⟩
        exact aside runs
      rcases Machine.step_perform performed with ⟨op, next, answer, shared, _, _, rfl⟩
      exact ⟨Function.update_of_ne different _ _, Function.update_of_ne different _ _⟩

theorem Serial.step (serial : Serial config fleet) (taken : fleet.step label = some following) :
    Serial config following where
  guarded process := by
    have guarded := serial.guarded process
    rcases step_worker taken process with
      kept | ⟨_, moved⟩ | ⟨pass, _, running, moved⟩ | ⟨_, moved⟩
    · rwa [kept]
    · rw [moved]
      exact guarded.tick
    · rw [moved]
      exact guarded.settle running
    · rw [moved]
      exact guarded_of_empty rfl
  fresh process pass later := by
    have before := (begun_le_of_step taken process).trans later
    have aside : pass ∉ (fleet.workers process).passes := fun running => by
      have newest := (serial.guarded process pass running).2
      omega
    rw [(step_pass taken aside).1, (step_pass taken aside).2]
    exact serial.fresh process pass before

theorem Reachable.serial (reachable : Reachable config fleet) : Serial config fleet := by
  rcases reachable with ⟨now, run⟩
  refine run.invariant _ ⟨fun process => guarded_of_empty rfl, fun _ _ _ => ⟨rfl, rfl⟩⟩ ?_
  exact fun current label following serial _ taken => serial.step taken

theorem lt_begun_of_tick (begun : pass < worker.tick.begun) (aside : pass ∉ worker.tick.passes) :
    pass < worker.begun := by
  rcases tick_cases worker with ⟨_, ticked⟩ | ⟨_, ticked⟩
  · rwa [ticked] at begun
  · rw [ticked] at begun aside
    have different : pass ≠ worker.begun := fun equal =>
      aside (equal ▸ Finset.mem_insert_self _ _)
    exact lt_of_le_of_ne (Nat.lt_succ_iff.mp begun) different

theorem Ended.step (ended : Ended process fleet) (allowed : KeepsRunning process fleet label)
    (taken : fleet.step label = some following) : Ended process following := by
  intro pass begun aside
  by_cases running : pass ∈ (fleet.workers process).passes
  · rcases step_worker taken process with
      kept | ⟨_, moved⟩ | ⟨settled, rfl, _, moved⟩ | ⟨rfl, _⟩
    · exact absurd (kept ▸ running) aside
    · exact absurd (moved ▸ mem_tick running) aside
    · have same : pass = settled := by
        by_contra different
        exact aside (moved ▸ Finset.mem_erase.mpr ⟨different, running⟩)
      subst same
      rcases step_settle taken with ⟨_, result, finished, rfl⟩
      show (fleet.outbox.program (process, pass)).finished = true
      rw [finished]
      rfl
    · exact absurd rfl allowed
  · rw [(step_pass taken running).1]
    refine ended pass ?_ running
    rcases step_worker taken process with kept | ⟨_, moved⟩ | ⟨_, _, _, moved⟩ | ⟨_, moved⟩
    · rwa [kept] at begun
    · rw [moved] at begun aside
      exact lt_begun_of_tick begun aside
    · rwa [moved] at begun
    · rwa [moved] at begun

omit [DecidableEq Process] in
/-- Only passes that a tick has begun take steps. -/
theorem Serial.lt_begun (serial : Serial config fleet)
    (begun : fleet.outbox.begun (process, pass) = true) :
    pass < (fleet.workers process).begun := by
  by_contra late
  have unbegun := (serial.fresh process pass (not_lt.mp late)).2
  exact Bool.false_ne_true (unbegun.symm.trans begun)

end Serial

/-! ## Passes do not overlap -/

/-- What the flag `isRunning` is for. -/
structure OneAtATime (Process Payload : Type) [DecidableEq Process] (config : OutboxConfig) :
    Prop where
  /-- The passes of all processes are workers of one table. -/
  passes : ∀ fleet : Fleet Process Payload, Reachable config fleet →
    Outbox.Reachable config fleet.outbox
  /-- Once a pass has taken a step, the earlier ones of its process take none. -/
  superseded : ∀ fleet later : Fleet Process Payload, Reachable config fleet →
    Run step Unrestricted fleet later → ∀ process earlier pass, earlier < pass →
      fleet.outbox.begun (process, pass) = true →
        later.outbox.program (process, earlier) = fleet.outbox.program (process, earlier)
  /-- Unless the process was restarted, they have all returned or thrown. -/
  ended : ∀ (now : ℕ) (process : Process) (fleet : Fleet Process Payload),
    Run step (KeepsRunning process) (initial Process Payload config now) fleet →
      ∀ earlier pass, earlier < pass → fleet.outbox.begun (process, pass) = true →
        (fleet.outbox.program (process, earlier)).finished = true

theorem one_at_a_time (Process Payload : Type) [DecidableEq Process] (config : OutboxConfig) :
    OneAtATime Process Payload config where
  passes fleet reachable := reachable.outbox
  superseded := by
    intro fleet later reachable run process earlier pass before begun
    have newer := reachable.serial.lt_begun begun
    have kept : (Serial config later ∧ earlier + 1 < (later.workers process).begun) ∧
        later.outbox.program (process, earlier) = fleet.outbox.program (process, earlier) := by
      refine run.invariant (fun later => (Serial config later ∧
        earlier + 1 < (later.workers process).begun) ∧
          later.outbox.program (process, earlier) = fleet.outbox.program (process, earlier))
        ⟨⟨reachable.serial, by omega⟩, rfl⟩ ?_
      rintro current label following ⟨⟨serial, newer⟩, same⟩ _ taken
      have aside : earlier ∉ (current.workers process).passes := fun running => by
        have newest := (serial.guarded process earlier running).2
        omega
      exact ⟨⟨serial.step taken, newer.trans_le (begun_le_of_step taken process)⟩,
        (step_pass taken aside).1.trans same⟩
    exact kept.2
  ended := by
    intro now process fleet run earlier pass before begun
    have serial := Reachable.serial ⟨now, run.unrestricted⟩
    have ended : Ended process fleet := by
      refine run.invariant (Ended process) (fun pass begun => absurd begun (Nat.not_lt_zero _)) ?_
      exact fun current label following ended allowed taken => ended.step allowed taken
    have newer := serial.lt_begun begun
    refine ended earlier (before.trans newer) fun running => ?_
    have newest := (serial.guarded process earlier running).2
    omega

end BankingBackend.Outbox.Fleet
