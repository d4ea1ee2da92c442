import BankingBackend.Outbox.Live
import BankingBackend.Properties.Stranding
import BankingBackend.Properties.WorkerPasses
import Mathlib.Data.Finset.Basic

/-! # Draining the events table

When one process is left and everything it asks for succeeds, each of its passes
processes a full batch of what waits, whatever crashes have left in the table.
-/

namespace BankingBackend.Outbox

open Foundation
open Postgres (Uuid EventStatus)

/-! ## What waits -/

section Waiting

variable {α κ : Type} {key : α → κ} {entries : List α} {entry : α}

/-- Changing one entry of a list with distinct keys moves the count by that entry. -/
theorem countP_map_key (change : α → α) (test : α → Bool)
    (distinct : (entries.map key).Nodup) (member : entry ∈ entries)
    (others : ∀ other ∈ entries, key other ≠ key entry → test (change other) = test other) :
    (entries.map change).countP test + (if test entry then 1 else 0) =
      entries.countP test + if test (change entry) then 1 else 0 := by
  induction entries with
  | nil => cases member
  | cons first rest induction =>
      have parts := List.nodup_cons.mp distinct
      rw [List.map_cons, List.countP_cons, List.countP_cons]
      rcases List.mem_cons.mp member with rfl | later
      · have same : (rest.map change).countP test = rest.countP test := by
          rw [List.countP_map]
          refine List.countP_congr fun other listed => ?_
          have different : key other ≠ key entry := fun equal =>
            parts.1 (equal ▸ List.mem_map_of_mem listed)
          rw [Function.comp_apply, others other (.tail _ listed) different]
        omega
      · have counted := induction parts.2 later fun other listed =>
          others other (.tail _ listed)
        have different : key first ≠ key entry := fun equal =>
          parts.1 (equal ▸ List.mem_map_of_mem later)
        rw [others first (.head _) different]
        omega

end Waiting

section Table

variable {Worker Payload : Type}

def Event.unprocessed (event : Event Payload) : Bool := decide (event.status ≠ .processed)

def State.waiting (state : State Worker Payload) : ℕ := state.events.countP Event.unprocessed

def State.awaits (state : State Worker Payload) (id : Uuid) : ℕ :=
  state.events.countP fun event => decide (event.id = id) && event.unprocessed

/-- From now on all events that wait can be claimed, but for the excepted ones. -/
def Due (claimTtlMs : ℕ) (excepted : List Uuid) (state : State Worker Payload) : Prop :=
  ∀ event ∈ state.events, event.unprocessed = true → event.id ∉ excepted →
    ∀ now, state.now ≤ now → event.claimable now claimTtlMs = true

/-- A worker that is alone has rows left to process, and has processed each event as often as it
published it, but for the rows published meanwhile. -/
structure Solo (claimTtlMs : ℕ) (origin : State Worker Payload) (worker : Worker)
    (rows : List (ClaimedEventRow Payload)) (published : List Uuid) (remaining : ℕ)
    (state : State Worker Payload) : Prop where
  invariant : Invariant state
  distinct : (rows.map ClaimedEventRow.id).Nodup
  holds : ∀ evt ∈ rows, Holds worker evt state
  due : Due claimTtlMs (rows.map ClaimedEventRow.id) state
  waiting : state.waiting = remaining + rows.length
  known : state.events.map Event.id = origin.events.map Event.id
  balanced : ∀ id, state.confirmed.count id + state.awaits id =
    origin.confirmed.count id + origin.awaits id + published.count id

/-- Time passes and nothing else happens. -/
def Elapses (before after : State Worker Payload) : Prop :=
  ∃ now, before.now ≤ now ∧ after = { before with now }

variable {claimTtlMs remaining : ℕ} {origin before after third state : State Worker Payload}
  {worker : Worker} {rows : List (ClaimedEventRow Payload)} {evt : ClaimedEventRow Payload}
  {published : List Uuid} {event : Event Payload}

theorem Event.unprocessed_iff : event.unprocessed = true ↔ event.status ≠ .processed :=
  decide_eq_true_iff

theorem Elapses.trans (first : Elapses before after) (second : Elapses after third) :
    Elapses before third := by
  rcases first with ⟨now, passes, rfl⟩
  rcases second with ⟨later, further, rfl⟩
  exact ⟨later, passes.trans further, rfl⟩

theorem Elapses.refl (state : State Worker Payload) : Elapses state state :=
  ⟨state.now, le_rfl, rfl⟩

theorem Solo.elapses (solo : Solo claimTtlMs origin worker rows published remaining before)
    (elapses : Elapses before after) :
    Solo claimTtlMs origin worker rows published remaining after := by
  rcases elapses with ⟨now, passes, rfl⟩
  refine ⟨solo.invariant.observes rfl (toTimestamp_mono passes) rfl (List.Subset.refl _),
    solo.distinct, solo.holds, fun event member unprocessed other later after => ?_,
    solo.waiting, solo.known, solo.balanced⟩
  exact solo.due event member unprocessed other later (passes.trans after)

/-! ### Changes of the table -/

section Changes

variable {change : Event Payload → Event Payload}

theorem waiting_of_kept (result : after.events = before.events.map change)
    (kept : ∀ event ∈ before.events, (change event).unprocessed = event.unprocessed) :
    after.waiting = before.waiting := by
  unfold State.waiting
  rw [result, List.countP_map]
  refine List.countP_congr fun event member => ?_
  rw [Function.comp_apply, kept event member]

theorem awaits_of_kept (result : after.events = before.events.map change)
    (ids : ∀ event, (change event).id = event.id)
    (kept : ∀ event ∈ before.events, (change event).unprocessed = event.unprocessed) (id : Uuid) :
    after.awaits id = before.awaits id := by
  unfold State.awaits
  rw [result, List.countP_map]
  refine List.countP_congr fun event member => ?_
  rw [Function.comp_apply, ids, kept event member]

end Changes

/-! ### A batch -/

section Batch

variable {batchSize : ℕ} {choice : BatchChoice}

theorem Solo.length_candidates (solo : Solo claimTtlMs origin worker [] published remaining before)
    (free : ∀ id, choice.locked id = false) :
    (candidates batchSize claimTtlMs before.now choice before.events).length =
      min batchSize before.waiting := by
  have eligible : (before.events.filter fun event =>
      event.claimable before.now claimTtlMs && !choice.locked event.id) =
        before.events.filter Event.unprocessed := by
    refine List.filter_congr fun event member => ?_
    rw [free, Bool.not_false, Bool.and_true]
    cases unprocessed : event.unprocessed with
    | true => exact solo.due event member unprocessed (List.not_mem_nil) _ le_rfl
    | false =>
        refine Bool.eq_false_iff.mpr fun claimable => ?_
        have waits := Event.unprocessed_iff.mpr (Event.unprocessed_of_claimable claimable)
        exact Bool.false_ne_true (unprocessed.symm.trans waits)
  rw [candidates, eligible, List.length_take, List.length_insertionSort, State.waiting,
    List.countP_eq_length_filter]

theorem Solo.claims (solo : Solo claimTtlMs origin worker [] published remaining before)
    (ttl : 0 < claimTtlMs) (batchSize : ℕ) (free : ∀ id, choice.locked id = false)
    {batch : List (Event Payload)}
    (chosen : batch = candidates batchSize claimTtlMs before.now choice before.events) :
    Solo claimTtlMs origin worker (returning choice before.now batch) published
      (before.waiting - batchSize) (before.claimAll worker (batch.map Event.id)) := by
  have length : batch.length = min batchSize before.waiting := by
    rw [chosen]
    exact solo.length_candidates free
  have picked : ∀ event ∈ batch, event ∈ before.events ∧
      event.claimable before.now claimTtlMs = true := by
    rw [chosen]
    exact fun event member => mem_candidates member
  have distinct : (batch.map Event.id).Nodup := by
    rw [chosen]
    exact candidates_distinct solo.invariant.distinct
  have effect : Effect claimTtlMs worker before (before.claimAll worker (batch.map Event.id)) :=
    solo.invariant.claims_batch (fun event member => (picked event member).1) distinct
      fun event member => (picked event member).2
  have kept : ∀ event ∈ before.events,
      (if event.id ∈ batch.map Event.id then event.claim before.now else event).unprocessed =
        event.unprocessed := by
    intro event member
    split
    · rename_i listed
      have inside :=
        solo.invariant.mem_batch (fun other held => (picked other held).1) member listed
      have waits := Event.unprocessed_of_claimable (picked event inside).2
      exact (Event.unprocessed_iff.mpr waits).symm
    · rfl
  refine ⟨solo.invariant.effect ttl effect, returning_distinct distinct, fun evt returned => ?_,
    fun row member unprocessed unlisted now later => ?_, ?_, ?_, fun id => ?_⟩
  · rcases mem_returning.mp returned with ⟨event, inside, rfl⟩
    refine ⟨toTimestamp before.now, rfl, ?_⟩
    rw [State.claimAll, Lease.current_claimAll]
    exact if_pos (List.mem_map_of_mem inside)
  · rcases State.mem_claimAll member with ⟨event, present, ⟨listed, rfl⟩ | ⟨_, rfl⟩⟩
    · have inside :=
        solo.invariant.mem_batch (fun other held => (picked other held).1) present listed
      refine absurd (List.mem_map.mpr ⟨(event.claim before.now).claimedRow, ?_, rfl⟩) unlisted
      exact mem_returning.mpr ⟨event, inside, rfl⟩
    · exact solo.due _ present unprocessed List.not_mem_nil now later
  · rw [waiting_of_kept rfl kept, returning, List.length_insertionSort, List.length_map, length]
    omega
  · rw [State.claimAll_ids]
    exact solo.known
  · rw [awaits_of_kept rfl (fun event => by split <;> rfl) kept]
    exact solo.balanced id

end Batch

/-! ### An event of the batch -/

theorem Solo.publishes (solo : Solo claimTtlMs origin worker rows [] remaining before) (id : Uuid) :
    Solo claimTtlMs origin worker rows [id] remaining
      { before with confirmed := id :: before.confirmed } := by
  refine ⟨solo.invariant.observes rfl le_rfl rfl (List.subset_cons_self _ _), solo.distinct,
    solo.holds, solo.due, solo.waiting, solo.known, fun other => ?_⟩
  have balanced := solo.balanced other
  have unchanged : ({ before with confirmed := id :: before.confirmed } :
      State Worker Payload).awaits other = before.awaits other := rfl
  rw [unchanged, List.count_cons, List.count_cons]
  simp only [List.count_nil] at balanced ⊢
  omega

theorem Solo.observes (solo : Solo claimTtlMs origin worker rows published remaining before)
    (handed : List Uuid) :
    Solo claimTtlMs origin worker rows published remaining { before with handed } :=
  ⟨solo.invariant.observes rfl le_rfl rfl (List.Subset.refl _), solo.distinct, solo.holds,
    solo.due, solo.waiting, solo.known, solo.balanced⟩

theorem Solo.exists_event
    (solo : Solo claimTtlMs origin worker (evt :: rows) published remaining before) :
    ∃ event ∈ before.events, event.id = evt.id ∧
      event.isClaimed evt.id evt.claimedAt = true := by
  rcases solo.holds evt (.head _) with ⟨token, claimedAt, held⟩
  rcases solo.invariant.known evt.id _ (Lease.latest_of_current held) with ⟨event, member, same⟩
  have marked := solo.invariant.leased event member _ (same ▸ held)
  exact ⟨event, member, same, Event.isClaimed_iff.mpr
    ⟨same, marked.1, marked.2.trans claimedAt.symm⟩⟩

theorem Solo.finalizes
    (solo : Solo claimTtlMs origin worker (evt :: rows) [evt.id] remaining before)
    (confirmed : evt.id ∈ before.confirmed) (publishedAt : ℕ) :
    Solo claimTtlMs origin worker rows [] remaining
      (before.updateMany worker evt.id evt.claimedAt (.processed publishedAt)).2 := by
  rcases solo.exists_event with ⟨event, member, same, claimed⟩
  rcases solo.holds evt (.head _) with ⟨token, claimedAt, held⟩
  have found : before.events.countP (Event.isClaimed evt.id evt.claimedAt) ≠ 0 :=
    (List.countP_pos_iff.mpr ⟨event, member, claimed⟩).ne'
  have result : (before.updateMany worker evt.id evt.claimedAt (.processed publishedAt)).2 =
      before.finalize worker evt.id (some token) (.processed publishedAt) := by
    rw [State.updateMany, if_neg found, claimedAt]
  have parts := List.nodup_cons.mp solo.distinct
  have others : ∀ other ∈ before.events, other.id ≠ event.id →
      (if other.isClaimed evt.id (some token) then
        EventUpdate.apply (.processed publishedAt) other else other) = other := by
    intro other _ different
    refine if_neg fun marked => different ?_
    exact (Event.isClaimed_iff.mp marked).1.trans same.symm
  have waits : event.unprocessed = true := by
    rw [Event.unprocessed_iff, (Event.isClaimed_iff.mp claimed).2.1]
    decide
  have ends : (if event.isClaimed evt.id (some token) then
      EventUpdate.apply (.processed publishedAt) event else event).unprocessed = false := by
    rw [if_pos (claimedAt ▸ claimed)]
    rfl
  rw [result]
  refine ⟨solo.invariant.finalizes held rfl confirmed, parts.2, fun other listed => ?_,
    fun row present unprocessed unlisted now later => ?_, ?_, ?_, fun id => ?_⟩
  · have different : evt.id ≠ other.id := fun equal => parts.1 (equal ▸ List.mem_map_of_mem listed)
    rcases solo.holds other (.tail _ listed) with ⟨otherToken, otherClaimed, otherHeld⟩
    exact ⟨otherToken, otherClaimed, by
      simpa [State.finalize, Lease.current, different] using otherHeld⟩
  · rcases solo.invariant.mem_finalize held present with ⟨old, inside, ⟨_, rfl⟩ | ⟨other, rfl⟩⟩
    · cases unprocessed
    · refine solo.due _ inside unprocessed (fun listed => ?_) now later
      rcases List.mem_cons.mp listed with equal | listed
      · exact other equal
      · exact unlisted listed
  · have counted := countP_map_key _ Event.unprocessed solo.invariant.distinct member
      fun other listed different => congrArg Event.unprocessed (others other listed different)
    have waiting := solo.waiting
    rw [waits, ends] at counted
    simp only [List.length_cons, State.waiting, State.finalize] at waiting counted ⊢
    simp only [if_true, Bool.false_eq_true, if_false] at counted
    omega
  · rw [State.finalize_ids]
    exact solo.known
  · have counted : (before.finalize worker evt.id (some token) (.processed publishedAt)).awaits id +
        (if evt.id = id then 1 else 0) = before.awaits id := by
      have moved := countP_map_key _ (fun event => decide (event.id = id) && event.unprocessed)
        solo.invariant.distinct member
        fun other listed different => congrArg (fun event => decide (event.id = id) &&
          Event.unprocessed event) (others other listed different)
      rw [waits, ends, same, Bool.and_true, Bool.and_false] at moved
      simpa [State.awaits, State.finalize] using moved
    have balanced := solo.balanced id
    rw [List.count_singleton] at balanced
    rw [List.count_nil]
    have unchanged : (before.finalize worker evt.id (some token)
        (.processed publishedAt)).confirmed = before.confirmed := rfl
    rw [unchanged]
    by_cases own : evt.id = id
    · rw [if_pos own] at counted
      rw [if_pos (beq_iff_eq.mpr own)] at balanced
      omega
    · rw [if_neg own] at counted
      rw [if_neg fun equal => own (beq_iff_eq.mp equal)] at balanced
      omega

end Table

/-! ## A pass alone -/

/-- It succeeds, and no other statement has locked a row. -/
structure Choice.Healthy (choice : Choice) : Prop where
  succeeds : choice.failure = none
  free : ∀ id, choice.locked id = false

section Pass

variable {Worker Payload : Type} (worker : Worker)

abbrev SoloMeets {α : Type} (program : Service Payload α)
    (post : Except String α → State Worker Payload → Prop) (state : State Worker Payload) : Prop :=
  EnsuresResult
    (((machine Worker Payload).restrict fun _ _ choice _ => choice.Healthy).perform worker) Elapses
    (fun _ _ => True) program post state

variable {worker} {state origin : State Worker Payload} {claimTtlMs remaining : ℕ}
  {rows : List (ClaimedEventRow Payload)} {evt : ClaimedEventRow Payload}

theorem solo_request {command : Command Payload}
    {stage : command.Answer → State Worker Payload → Prop}
    (stays : ∀ before, Elapses state before → ∀ choice answer after, choice.Healthy →
      State.perform worker command choice before = some (answer, after) → stage answer after) :
    SoloMeets worker (request command) (Answered stage) state := by
  intro before elapses choice answer after performed
  rcases Machine.restrict_perform performed with ⟨healthy, performed⟩
  exact ⟨True.intro, stays before elapses choice answer after healthy performed⟩

theorem solo_answered {α β : Type} {program : Service Payload α} {next : α → Service Payload β}
    {post : Except String β → State Worker Payload → Prop}
    (stage : α → State Worker Payload → Prop)
    (asked : SoloMeets worker program (Answered stage) state)
    (continues : ∀ answer between, stage answer between →
      SoloMeets worker (next answer) post between) :
    SoloMeets worker (program >>= next) post state :=
  .bind asked (fun _ _ absurd => absurd.elim) continues

theorem solo_succeeding {α β : Type} {program : Service Payload (Except String α)}
    {next : α → Service Payload β} {post : Except String β → State Worker Payload → Prop}
    (stage : α → State Worker Payload → Prop)
    (asked : SoloMeets worker program
      (Answered fun answer final => ∃ value, answer = .ok value ∧ stage value final) state)
    (continues : ∀ value between, stage value between →
      SoloMeets worker (next value) post between) :
    SoloMeets worker (program >>= fun answer => orThrow answer >>= next) post state := by
  refine solo_answered _ asked fun answer between holds => ?_
  rcases holds with ⟨value, rfl, holds⟩
  exact continues value between holds

theorem solo_orThrow {α : Type} {program : Service Payload (Except String α)}
    {stage : α → State Worker Payload → Prop}
    (asked : SoloMeets worker program
      (Answered fun answer final => ∃ value, answer = .ok value ∧ stage value final) state) :
    SoloMeets worker (program >>= orThrow) (Answered stage) state := by
  refine solo_answered _ asked fun answer between holds => ?_
  rcases holds with ⟨value, rfl, holds⟩
  exact .pure holds

/-- The message is out and the row not yet finalized. -/
structure Out (claimTtlMs : ℕ) (origin : State Worker Payload) (worker : Worker)
    (evt : ClaimedEventRow Payload) (rows : List (ClaimedEventRow Payload)) (remaining : ℕ)
    (state : State Worker Payload) : Prop where
  solo : Solo claimTtlMs origin worker (evt :: rows) [evt.id] remaining state
  confirmed : evt.id ∈ state.confirmed

theorem solo_publishEvent (config : OutboxConfig)
    (solo : Solo claimTtlMs origin worker (evt :: rows) [] remaining state) :
    SoloMeets worker (publishEvent config evt)
      (Answered fun _ => Out claimTtlMs origin worker evt rows remaining) state := by
  unfold publishEvent publish
  refine solo_succeeding (fun _ => Solo claimTtlMs origin worker (evt :: rows) [] remaining)
    (solo_request fun before elapses choice answer after healthy performed => ?_)
    fun _ handed solo => ?_
  · cases performed
    rw [choice.answer_of_succeeds healthy.succeeds]
    exact ⟨(), rfl, (solo.elapses elapses).observes _⟩
  refine solo_succeeding (fun _ => Solo claimTtlMs origin worker (evt :: rows) [] remaining)
    (solo_request fun before elapses choice answer after healthy performed => ?_)
    fun _ asserted solo => ?_
  · cases performed
    rw [choice.answer_of_succeeds healthy.succeeds]
    exact ⟨(), rfl, solo.elapses elapses⟩
  refine solo_orThrow (solo_request fun before elapses choice answer after healthy performed => ?_)
  cases performed
  rw [choice.answer_of_succeeds healthy.succeeds, healthy.succeeds]
  exact ⟨(), rfl, (solo.elapses elapses).publishes evt.id, .head _⟩

theorem solo_processEvent (config : OutboxConfig)
    (solo : Solo claimTtlMs origin worker (evt :: rows) [] remaining state) :
    SoloMeets worker (processEvent config evt)
      (Answered fun _ => Solo claimTtlMs origin worker rows [] remaining) state := by
  refine .attempt (solo_publishEvent config solo) fun outcome published out => ?_
  cases outcome with
  | error error => exact out.elim
  | ok _ =>
      refine solo_answered (fun _ => Out claimTtlMs origin worker evt rows remaining)
        (solo_request fun before elapses choice answer after healthy performed => ?_)
        fun publishedAt dated out => ?_
      · cases performed
        exact ⟨out.solo.elapses elapses, by
          rcases elapses with ⟨now, _, rfl⟩
          exact out.confirmed⟩
      refine solo_answered (fun _ => Solo claimTtlMs origin worker rows [] remaining)
        (solo_request fun before elapses choice answer after healthy performed => ?_)
        fun _ _ rest => .pure rest
      cases performed
      rw [choice.after_of_succeeds healthy.succeeds]
      have confirmed : evt.id ∈ before.confirmed := by
        rcases elapses with ⟨now, _, rfl⟩
        exact out.confirmed
      exact (out.solo.elapses elapses).finalizes confirmed publishedAt

theorem solo_processEvents (config : OutboxConfig)
    (solo : Solo claimTtlMs origin worker rows [] remaining state) :
    SoloMeets worker (processEvents config rows)
      (Answered fun _ => Solo claimTtlMs origin worker [] [] remaining) state := by
  induction rows generalizing state with
  | nil => exact .pure solo
  | cons evt rows induction =>
      exact solo_answered _ (solo_processEvent config solo) fun _ _ rest => induction rest

/-- A pass processes a full batch of what waits. -/
theorem solo_processPendingEvents (config : OutboxConfig)
    (solo : Solo config.claimTtlMs origin worker [] [] remaining state) :
    SoloMeets worker (processPendingEvents config)
      (Answered fun _ => Solo config.claimTtlMs origin worker [] []
        (remaining - config.batchSize)) state := by
  refine solo_succeeding (fun rows => Solo config.claimTtlMs origin worker rows []
      (remaining - config.batchSize))
    (solo_request fun before elapses choice answer after healthy performed => ?_)
    fun rows _ solo => solo_processEvents config solo
  have waiting := (solo.elapses elapses).waiting
  have claimed := (solo.elapses elapses).claims config.claimTtlMsPositive config.batchSize
    healthy.free rfl
  cases performed
  rw [choice.answer_of_succeeds healthy.succeeds, choice.after_of_succeeds healthy.succeeds]
  rw [waiting, List.length_nil, Nat.add_zero] at claimed
  exact ⟨_, rfl, claimed⟩

end Pass

/-! ## One process is left -/

namespace Fleet

/-- Of all processes only this one acts, everything it asks for succeeds, and no events are
created. -/
def Draining {Process Payload : Type} (process : Process) (_ : Fleet Process Payload) :
    FleetLabel Process Payload → Prop
  | .perform acting _ choice => acting = process ∧ choice.Healthy
  | .restart other => other ≠ process
  | .environment (.create _ _ _ _) => False
  | .environment (.tick _) | .tick _ | .settle _ _ => True

/-! ### Between the passes and within one -/

structure Rests (worker : WorkerState) : Prop where
  unset : worker.isRunning = false
  passes : worker.passes = ∅

/-- This is the pass that goes on. -/
structure Runs (pass : ℕ) (worker : WorkerState) : Prop where
  set : worker.isRunning = true
  passes : worker.passes = {pass}

section Worker

variable {worker : WorkerState} {pass other : ℕ}

theorem Runs.eq (runs : Runs pass worker) (running : other ∈ worker.passes) : other = pass := by
  rw [runs.passes] at running
  exact Finset.mem_singleton.mp running

theorem Runs.running (runs : Runs pass worker) : pass ∈ worker.passes := by
  rw [runs.passes]
  exact Finset.mem_singleton_self pass

theorem Runs.tick (runs : Runs pass worker) : worker.tick = worker :=
  if_pos runs.set

theorem Runs.settle (runs : Runs pass worker) : Rests (worker.settle pass) where
  unset := rfl
  passes := by rw [WorkerState.settle, runs.passes, Finset.erase_singleton]

theorem Rests.begun_tick (rests : Rests worker) : worker.tick.begun = worker.begun + 1 := by
  rw [WorkerState.tick, rests.unset, if_neg Bool.false_ne_true]

theorem Rests.tick (rests : Rests worker) : Runs worker.begun worker.tick := by
  rw [WorkerState.tick, rests.unset, if_neg Bool.false_ne_true, rests.passes]
  exact ⟨rfl, rfl⟩

theorem Guarded.rests (guarded : Guarded worker) (unset : worker.isRunning = false) :
    Rests worker := ⟨unset, guarded.passes unset⟩

end Worker

section Runs

variable {Process Payload : Type} {config : OutboxConfig} {origin : State (Process × ℕ) Payload}
  {process other : Process} {fleet following : Fleet Process Payload} {first passes pass : ℕ}

inductive Stage (config : OutboxConfig) (origin : State (Process × ℕ) Payload) (process : Process)
    (passes : ℕ) (fleet : Fleet Process Payload) : Prop
  | idle (rests : Rests (fleet.workers process))
      (solo : Solo config.claimTtlMs origin (process, 0) [] []
        (origin.waiting - passes * config.batchSize) fleet.outbox.shared)
  | busy (pass : ℕ) (runs : Runs pass (fleet.workers process))
      (meets : Ensures (((machine (Process × ℕ) Payload).restrict
          fun _ _ choice _ => choice.Healthy).perform (process, pass)) Elapses (fun _ _ => True)
        (Answered fun _ => Solo config.claimTtlMs origin (process, pass) [] []
          (origin.waiting - passes * config.batchSize))
        (fleet.outbox.program (process, pass)) fleet.outbox.shared)

theorem Stage.keeps (stage : Stage config origin process passes fleet)
    (outbox : following.outbox = fleet.outbox)
    (worker : following.workers process = fleet.workers process) :
    Stage config origin process passes following := by
  cases stage with
  | idle rests solo => exact .idle (worker ▸ rests) (outbox ▸ solo)
  | busy pass runs meets => exact .busy pass (worker ▸ runs) (outbox ▸ meets)

/-- With no rows left, it does not matter which worker they were left to. -/
theorem Solo.relabel {claimTtlMs remaining : ℕ} {worker another : Process × ℕ}
    {state : State (Process × ℕ) Payload}
    (solo : Solo claimTtlMs origin worker [] [] remaining state) :
    Solo claimTtlMs origin another [] [] remaining state :=
  ⟨solo.invariant, solo.distinct, List.forall_mem_nil _, solo.due, solo.waiting, solo.known,
    solo.balanced⟩

variable [DecidableEq Process]

theorem Stage.tick (stage : Stage config origin process passes fleet)
    (fresh : fleet.outbox.program (process, (fleet.workers process).begun) =
      (processPendingEvents config).run) :
    ∃ later, Stage config origin process later
        (fleet.setWorker process (fleet.workers process).tick) ∧
      later + (fleet.workers process).begun =
        passes + (fleet.workers process).tick.begun := by
  cases stage with
  | busy pass runs meets =>
      rw [runs.tick]
      refine ⟨passes, .busy pass ?_ meets, rfl⟩
      rwa [setWorker_self]
  | idle rests solo =>
      rw [rests.begun_tick]
      refine ⟨passes + 1, .busy (fleet.workers process).begun ?_ ?_,
        Nat.add_right_comm passes 1 _⟩
      · rw [setWorker_self]
        exact rests.tick
      · rw [setWorker_outbox, fresh, Nat.succ_mul, ← Nat.sub_sub]
        exact solo_processPendingEvents config (Solo.relabel solo)

theorem Stage.settle (stage : Stage config origin process passes fleet)
    (settled : fleet.step (.settle process pass) = some following) :
    Stage config origin process passes following := by
  rcases step_settle settled with ⟨running, result, program, rfl⟩
  cases stage with
  | idle rests solo =>
      rw [rests.passes] at running
      cases Finset.notMem_empty pass running
  | busy current runs meets =>
      cases runs.eq running
      rw [program] at meets
      refine .idle ?_ ?_
      · rw [setWorker_self]
        exact runs.settle
      · cases result with
        | ok value => exact Solo.relabel meets
        | error error => exact meets.elim

theorem Stage.performs (stage : Stage config origin process passes fleet) {choice : Choice}
    (healthy : choice.Healthy)
    (taken : fleet.step (.perform process pass choice) = some following) :
    Stage config origin process passes following := by
  rcases step_perform taken with ⟨running, outbox, performed, rfl⟩
  cases stage with
  | idle rests solo =>
      rw [rests.passes] at running
      cases Finset.notMem_empty pass running
  | busy current runs meets =>
      cases runs.eq running
      rcases Machine.step_perform performed with ⟨op, next, answer, shared, program, acted, rfl⟩
      refine .busy pass runs ?_
      rw [program] at meets
      have permitted : ((machine (Process × ℕ) Payload).restrict
          fun _ _ choice _ => choice.Healthy).perform (process, pass) op choice
            fleet.outbox.shared = some (answer, shared) := (if_pos healthy).trans acted
      have ends := meets fleet.outbox.shared (.refl _) choice answer shared permitted
      simpa using ends.2

theorem Stage.elapses (stage : Stage config origin process passes fleet) {now : ℕ}
    (taken : fleet.step (.environment (.tick now)) = some following) :
    Stage config origin process passes following := by
  rcases step_environment taken with ⟨outbox, happened, rfl⟩
  rcases Machine.step_environment happened with ⟨shared, ticked, rfl⟩
  have elapses : Elapses fleet.outbox.shared shared := by
    rcases Option.ite_none_right_eq_some.mp ticked with ⟨passes, same⟩
    exact ⟨now, passes, (Option.some.inj same).symm⟩
  cases stage with
  | idle rests solo => exact .idle rests (solo.elapses elapses)
  | busy pass runs meets =>
      refine .busy pass runs ?_
      show Ensures _ _ _ _ (fleet.outbox.program (process, pass)) shared
      cases program : fleet.outbox.program (process, pass) with
      | call op next =>
          rw [program] at meets
          exact meets.interfere (fun _ _ _ => Elapses.trans) rfl elapses
      | done result =>
          rw [program] at meets
          cases result with
          | ok value => exact Solo.elapses meets elapses
          | error error => exact meets.elim

/-- As many passes as have begun since the start have taken their batches. -/
def Drains (config : OutboxConfig) (origin : State (Process × ℕ) Payload) (process : Process)
    (first : ℕ) (fleet : Fleet Process Payload) : Prop :=
  ∃ passes, passes + first = (fleet.workers process).begun ∧
    Stage config origin process passes fleet

theorem Drains.step (drains : Drains config origin process first fleet)
    (serial : Serial config fleet) {label : FleetLabel Process Payload}
    (allowed : Draining process fleet label) (taken : fleet.step label = some following) :
    Drains config origin process first following := by
  rcases drains with ⟨passes, counted, stage⟩
  have elsewhere (outbox : following.outbox = fleet.outbox)
      (worker : following.workers process = fleet.workers process) :
      Drains config origin process first following :=
    ⟨passes, worker ▸ counted, stage.keeps outbox worker⟩
  cases label with
  | tick acting =>
      cases taken
      by_cases own : process = acting
      · subst own
        rcases stage.tick (serial.fresh process _ le_rfl).1 with ⟨later, ticked, counts⟩
        refine ⟨later, ?_, ticked⟩
        rw [setWorker_self]
        omega
      · exact elsewhere rfl (setWorker_of_ne _ own)
  | restart acting =>
      cases taken
      exact elsewhere rfl (setWorker_of_ne _ (Ne.symm allowed))
  | settle acting pass =>
      by_cases own : process = acting
      · subst own
        refine ⟨passes, ?_, stage.settle taken⟩
        rcases step_settle taken with ⟨_, _, _, rfl⟩
        rwa [setWorker_self]
      · rcases step_settle taken with ⟨_, _, _, rfl⟩
        exact elsewhere rfl (setWorker_of_ne _ own)
  | perform acting pass choice =>
      rcases allowed with ⟨rfl, healthy⟩
      refine ⟨passes, ?_, stage.performs healthy taken⟩
      rcases step_perform taken with ⟨_, _, _, rfl⟩
      exact counted
  | environment event =>
      cases event with
      | create => exact allowed.elim
      | tick now =>
          refine ⟨passes, ?_, stage.elapses taken⟩
          rcases step_environment taken with ⟨_, _, rfl⟩
          exact counted

end Runs

/-! ## What the passes leave -/

section Results

variable {Process Payload : Type} [DecidableEq Process] {config : OutboxConfig}
  {process : Process} {fleet later : Fleet Process Payload}

/-- Every event is processed, and what waited was published once more. -/
structure Delivered {Worker : Type} (before after : State Worker Payload) : Prop where
  known : after.events.map Event.id = before.events.map Event.id
  processed : ∀ event ∈ after.events, event.status = .processed
  confirmed : ∀ event ∈ after.events, event.id ∈ after.confirmed
  once : ∀ event ∈ before.events, after.confirmed.count event.id =
    before.confirmed.count event.id + if event.status = .processed then 0 else 1

theorem awaits_of_mem {Worker : Type} {state : State Worker Payload} {event : Event Payload}
    (distinct : (state.events.map Event.id).Nodup) (member : event ∈ state.events) :
    state.awaits event.id = if event.status = .processed then 0 else 1 := by
  have moved := countP_map_key (EventUpdate.apply (.processed 0))
    (fun other => decide (other.id = event.id) && other.unprocessed) distinct member
    fun other _ different => by rw [Event.apply_id, decide_eq_false different]; rfl
  have gone : (state.events.map (EventUpdate.apply (.processed 0))).countP
      (fun other => decide (other.id = event.id) && other.unprocessed) = 0 := by
    refine List.countP_eq_zero.mpr fun other listed waits => ?_
    rcases List.mem_map.mp listed with ⟨old, _, rfl⟩
    cases (Bool.and_eq_true_iff.mp waits).2
  rw [gone, Nat.zero_add, decide_eq_true rfl, Bool.true_and] at moved
  have ended : (EventUpdate.apply (.processed 0) event).unprocessed = false := rfl
  rw [ended, Bool.and_false] at moved
  rw [State.awaits]
  by_cases processed : event.status = .processed
  · have settled : event.unprocessed = false := decide_eq_false (not_not_intro processed)
    rw [settled] at moved
    rw [if_pos processed]
    exact moved.symm
  · rw [Event.unprocessed_iff.mpr processed] at moved
    rw [if_neg processed]
    exact moved.symm

theorem awaits_of_processed {Worker : Type} {state : State Worker Payload}
    (processed : ∀ event ∈ state.events, event.status = .processed) (id : Uuid) :
    state.awaits id = 0 := by
  refine List.countP_eq_zero.mpr fun event member waits => ?_
  have unprocessed := (Bool.and_eq_true_iff.mp waits).2
  exact Event.unprocessed_iff.mp unprocessed (processed event member)

/-- Between its passes, a healthy process that is alone has taken a batch with each of them. -/
theorem waiting_after_passes (reachable : Reachable config fleet)
    (resting : (fleet.workers process).isRunning = false)
    (due : Due config.claimTtlMs [] fleet.outbox.shared)
    (run : Run step (Draining process) fleet later)
    (rests : (later.workers process).isRunning = false) :
    later.outbox.shared.waiting = fleet.outbox.shared.waiting -
        ((later.workers process).begun - (fleet.workers process).begun) * config.batchSize ∧
      (later.outbox.shared.waiting = 0 →
        Delivered fleet.outbox.shared later.outbox.shared) := by
  have invariant := reachable.outbox.invariant
  have start : Solo config.claimTtlMs fleet.outbox.shared (process, 0) [] []
      (fleet.outbox.shared.waiting - 0 * config.batchSize) fleet.outbox.shared := by
    refine ⟨invariant, List.nodup_nil, List.forall_mem_nil _, due, ?_, rfl, fun id => rfl⟩
    rw [Nat.zero_mul]
    rfl
  have kept : Serial config later ∧ Drains config fleet.outbox.shared process
      (fleet.workers process).begun later := by
    refine run.invariant (fun later => Serial config later ∧ Drains config fleet.outbox.shared
      process (fleet.workers process).begun later)
      ⟨reachable.serial, 0, Nat.zero_add _,
        .idle ((reachable.serial.guarded process).rests resting) start⟩ ?_
    rintro current label following ⟨serial, drains⟩ allowed taken
    exact ⟨serial.step taken, drains.step serial allowed taken⟩
  rcases kept.2 with ⟨passes, counted, stage⟩
  cases stage with
  | busy pass runs =>
      rw [runs.set] at rests
      cases rests
  | idle _ solo =>
      have waiting := solo.waiting
      rw [List.length_nil, Nat.add_zero] at waiting
      have since : (later.workers process).begun - (fleet.workers process).begun = passes := by
        omega
      rw [since]
      refine ⟨waiting, fun none => ?_⟩
      have processed : ∀ event ∈ later.outbox.shared.events, event.status = .processed := by
        intro event member
        by_contra unprocessed
        exact List.countP_eq_zero.mp none event member (Event.unprocessed_iff.mpr unprocessed)
      refine ⟨solo.known, processed, fun event member =>
        solo.invariant.confirmed event member (processed event member), fun event member => ?_⟩
      have balanced := solo.balanced event.id
      rw [awaits_of_processed processed, awaits_of_mem invariant.distinct member,
        List.count_nil] at balanced
      omega

/-! ### A pass can always be run -/

theorem exists_perform {Worker : Type} (worker : Worker) (command : Command Payload)
    (state : State Worker Payload) :
    ∃ result, State.perform worker command {} state = some result := by
  cases command with
  | updateMany id claimedAt update =>
      by_cases fits : update.fits = true
      · exact ⟨_, if_pos fits⟩
      · exact ⟨_, if_neg fits⟩
  | _ => exact ⟨_, rfl⟩

theorem healthy_default : ({} : Choice).Healthy := ⟨rfl, fun _ => rfl⟩

theorem exists_finished {pass : ℕ} (running : pass ∈ (fleet.workers process).passes) :
    ∃ later result, Run step (Draining process) fleet later ∧ later.workers = fleet.workers ∧
      later.outbox.program (process, pass) = .done result := by
  generalize left : fleet.outbox.program (process, pass) = program
  induction program generalizing fleet with
  | done result => exact ⟨fleet, result, .start, rfl, left⟩
  | call op next induction =>
      rcases exists_perform (process, pass) op fleet.outbox.shared with
        ⟨⟨answer, shared⟩, performed⟩
      obtain ⟨outbox, acted, continues⟩ : ∃ outbox,
          Outbox.step fleet.outbox (.perform (process, pass) {}) = some outbox ∧
            outbox.program (process, pass) = next answer :=
        ⟨_, Machine.step_of_perform left performed, Function.update_self _ _ _⟩
      have taken : fleet.step (.perform process pass {}) = some { fleet with outbox } := by
        rw [step, if_pos running, acted]
        rfl
      have runs : pass ∈ (({ fleet with outbox } : Fleet Process Payload).workers
          process).passes := running
      rcases induction answer runs continues with ⟨later, result, run, workers, ended⟩
      have first : Run step (Draining process) fleet { fleet with outbox } :=
        .next (.perform process pass {}) .start ⟨rfl, healthy_default⟩ taken
      exact ⟨later, result, first.trans run, workers, ended⟩

theorem exists_settled {pass : ℕ} (runs : Runs pass (fleet.workers process)) :
    ∃ later, Run step (Draining process) fleet later ∧ Rests (later.workers process) ∧
      (later.workers process).begun = (fleet.workers process).begun := by
  rcases exists_finished runs.running with ⟨between, result, run, workers, ended⟩
  have finished : (between.outbox.program (process, pass)).finished = true := by
    rw [ended]
    rfl
  have taken : between.step (.settle process pass) =
      some (between.setWorker process ((between.workers process).settle pass)) :=
    if_pos ⟨workers ▸ runs.running, finished⟩
  refine ⟨_, .next (.settle process pass) run True.intro taken, ?_, ?_⟩
  · rw [setWorker_self, workers]
    exact runs.settle
  · rw [setWorker_self, workers]
    rfl

theorem exists_passes (resting : Rests (fleet.workers process)) (passes : ℕ) :
    ∃ later, Run step (Draining process) fleet later ∧ Rests (later.workers process) ∧
      (later.workers process).begun = (fleet.workers process).begun + passes := by
  induction passes with
  | zero => exact ⟨fleet, .start, resting, rfl⟩
  | succ passes induction =>
      rcases induction with ⟨between, run, idle, begun⟩
      have ticked : between.step (.tick process) =
          some (between.setWorker process (between.workers process).tick) := rfl
      have busy : Runs (between.workers process).begun
          ((between.setWorker process (between.workers process).tick).workers process) := by
        rw [setWorker_self]
        exact idle.tick
      rcases exists_settled busy with ⟨later, further, rests, count⟩
      have first : Run step (Draining process) fleet
          (between.setWorker process (between.workers process).tick) :=
        .next (.tick process) run True.intro ticked
      refine ⟨later, first.trans further, rests, ?_⟩
      rw [count, setWorker_self, idle.begun_tick, begun]
      rfl

omit [DecidableEq Process] in
/-- All that waits falls due at some time. -/
theorem exists_due (invariant : Invariant fleet.outbox.shared) (claimTtlMs : ℕ) :
    ∃ time, fleet.outbox.shared.now ≤ time ∧
      Due claimTtlMs [] { fleet.outbox.shared with now := time } := by
  have bounded : ∀ events : List (Event Payload), (∀ event ∈ events, event.unprocessed = true →
      ∃ time, ∀ now, time ≤ now → event.claimable now claimTtlMs = true) →
        ∃ time, ∀ event ∈ events, event.unprocessed = true → ∀ now, time ≤ now →
          event.claimable now claimTtlMs = true := by
    intro events
    induction events with
    | nil => exact fun _ => ⟨0, List.forall_mem_nil _⟩
    | cons event events induction =>
        intro each
        rcases induction fun other member => each other (.tail _ member) with ⟨time, rest⟩
        by_cases unprocessed : event.unprocessed = true
        · rcases each event (.head _) unprocessed with ⟨first, claimable⟩
          refine ⟨max first time, fun other member waits now later => ?_⟩
          rcases List.mem_cons.mp member with rfl | member
          · exact claimable now ((le_max_left _ _).trans later)
          · exact rest other member waits now ((le_max_right _ _).trans later)
        · refine ⟨time, fun other member waits now later => ?_⟩
          rcases List.mem_cons.mp member with rfl | member
          · exact absurd waits unprocessed
          · exact rest other member waits now later
  rcases bounded fleet.outbox.shared.events fun event member unprocessed =>
      Event.Waiting.eventually_claimable
        ⟨Event.unprocessed_iff.mp unprocessed, invariant.claimed member⟩ claimTtlMs with
    ⟨time, claimable⟩
  refine ⟨max fleet.outbox.shared.now time, le_max_left _ _,
    fun event member unprocessed _ now later => ?_⟩
  exact claimable event member unprocessed now ((le_max_right _ _).trans later)

end Results

/-! ## The table can be drained -/

/-- What one healthy process that is alone does to the table. -/
structure Drainable (Process Payload : Type) [DecidableEq Process] (config : OutboxConfig) :
    Prop where
  /-- Each of its passes processes a full batch of what waits. -/
  batches : ∀ (process : Process) (fleet later : Fleet Process Payload), Reachable config fleet →
    (fleet.workers process).isRunning = false → Due config.claimTtlMs [] fleet.outbox.shared →
      Run step (Draining process) fleet later → (later.workers process).isRunning = false →
        later.outbox.shared.waiting = fleet.outbox.shared.waiting -
            ((later.workers process).begun - (fleet.workers process).begun) * config.batchSize ∧
          (later.outbox.shared.waiting = 0 →
            Delivered fleet.outbox.shared later.outbox.shared)
  /-- Whatever crashes have left, it can process all of it. -/
  possible : ∀ (_ : Process) (fleet : Fleet Process Payload), Reachable config fleet →
    ∃ later, Run step Unrestricted fleet later ∧
      Delivered fleet.outbox.shared later.outbox.shared

theorem drainable (Process Payload : Type) [DecidableEq Process] (config : OutboxConfig) :
    Drainable Process Payload config where
  batches process fleet later reachable resting due run rests :=
    waiting_after_passes reachable resting due run rests
  possible process fleet reachable := by
    -- The process starts anew, waits until all is due and takes a batch for each event.
    rcases exists_due reachable.outbox.invariant config.claimTtlMs with ⟨time, passes, due⟩
    have restarted : fleet.step (.restart process) =
        some (fleet.setWorker process (fleet.workers process).restart) := rfl
    obtain ⟨outbox, happened, shared⟩ : ∃ outbox,
        Outbox.step fleet.outbox (.environment (.tick time)) = some outbox ∧
          outbox.shared = { fleet.outbox.shared with now := time } := by
      refine ⟨{ fleet.outbox with shared := { fleet.outbox.shared with now := time } }, ?_, rfl⟩
      simp only [Outbox.step, Machine.step, machine, State.environment, if_pos passes]
    let resumed := fleet.setWorker process (fleet.workers process).restart
    let waited : Fleet Process Payload := { resumed with outbox }
    have ticked : resumed.step (.environment (.tick time)) = some waited :=
      Option.map_eq_some_iff.mpr ⟨outbox, happened, rfl⟩
    have restored : waited.workers process = (fleet.workers process).restart := setWorker_self _
    have resting : Rests (waited.workers process) := by
      rw [restored]
      exact ⟨rfl, rfl⟩
    have run : Run step Unrestricted fleet waited :=
      .next _ (.next _ .start True.intro restarted) True.intro ticked
    have reached : Reachable config waited := by
      rcases reachable with ⟨now, before⟩
      exact ⟨now, before.trans run⟩
    rcases exists_passes resting waited.outbox.shared.waiting with ⟨later, drained, rests, begun⟩
    have left := waiting_after_passes reached resting.unset (shared ▸ due) drained rests.unset
    have enough : waited.outbox.shared.waiting ≤
        ((later.workers process).begun - (waited.workers process).begun) * config.batchSize := by
      rw [begun, Nat.add_sub_cancel_left]
      exact Nat.le_mul_of_pos_right _ config.batchSizePositive
    have delivered := left.2 (left.1.trans (Nat.sub_eq_zero_of_le enough))
    have unchanged : waited.outbox.shared = { fleet.outbox.shared with now := time } := shared
    rw [unchanged] at delivered
    exact ⟨later, run.trans drained.unrestricted, delivered.known, delivered.processed,
      delivered.confirmed, delivered.once⟩

end Fleet

end BankingBackend.Outbox
