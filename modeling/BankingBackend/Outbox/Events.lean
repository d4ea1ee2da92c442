import BankingBackend.Foundation.Lease
import BankingBackend.Foundation.Program
import BankingBackend.Postgres.Schema
import Mathlib.Data.List.Sort

/-! # The events table

The rows of `events`, how a worker claims a batch of them and how it finalizes
one. The database clock counts microseconds; the columns hold milliseconds.
-/

namespace BankingBackend.Outbox

open Foundation
open Postgres (Uuid EventStatus)

/-- `OUTBOX_BATCH_SIZE` and the other settings, all positive. -/
structure OutboxConfig where
  exchange : String := "banking.events"
  batchSize : ℕ := 20
  maxRetries : ℕ := 5
  retryBaseDelayMs : ℕ := 1000
  claimTtlMs : ℕ := 300000
  batchSizePositive : 0 < batchSize := by decide
  maxRetriesPositive : 0 < maxRetries := by decide
  retryBaseDelayMsPositive : 0 < retryBaseDelayMs := by decide
  claimTtlMsPositive : 0 < claimTtlMs := by decide

structure Event (Payload : Type) where
  id : Uuid
  type : String
  payload : Payload
  status : EventStatus := .pending
  retryCount : ℕ := 0
  nextRetryAt : Option ℕ := none
  lastError : Option String := none
  publishedAt : Option ℕ := none
  claimedAt : Option ℕ := none
  createdAt : ℕ

structure ClaimedEventRow (Payload : Type) where
  id : Uuid
  type : String
  payload : Payload
  retryCount : ℕ
  nextRetryAt : Option ℕ
  lastError : Option String
  publishedAt : Option ℕ
  createdAt : ℕ
  claimedAt : Option ℕ

/-- A `TIMESTAMP(3)` column rounds to the nearest millisecond. -/
def toTimestamp (now : ℕ) : ℕ := (now + 500) / 1000

theorem toTimestamp_mono : Monotone toTimestamp := by
  intro first second le
  unfold toTimestamp
  omega

/-- Serializable changes of a row, with a range check by the client. -/
inductive EventUpdate
  | processed (publishedAt : ℕ)
  | failed (retryCount : ℕ) (nextRetryAt : Option ℕ) (lastError : String)

namespace EventUpdate

/-- The largest `Date`. -/
def maxDate : ℕ := 8640000000000000

def fits : EventUpdate → Bool
  | .processed _ => true
  | .failed retryCount nextRetryAt _ =>
      decide (retryCount < 2 ^ 31) && nextRetryAt.all fun date => decide (date ≤ maxDate)

def apply {Payload : Type} (update : EventUpdate) (event : Event Payload) : Event Payload :=
  match update with
  | .processed publishedAt =>
      { event with
        status := .processed
        publishedAt := some publishedAt
        lastError := none
        nextRetryAt := none
        claimedAt := none }
  | .failed retryCount nextRetryAt lastError =>
      { event with
        status := .failed
        retryCount
        nextRetryAt
        lastError := some lastError
        claimedAt := none }

theorem scheduled_of_fits {Payload : Type} {update : EventUpdate} (within : update.fits = true)
    (event : Event Payload) : ∀ date ∈ (update.apply event).nextRetryAt, date ≤ maxDate := by
  intro date scheduled
  cases update with
  | processed => cases scheduled
  | failed retryCount nextRetryAt lastError =>
      cases nextRetryAt with
      | none => cases scheduled
      | some retryAt =>
          cases scheduled
          simp only [fits, Bool.and_eq_true, Option.all_some, decide_eq_true_eq] at within
          exact within.2

end EventUpdate

namespace Event

variable {Payload : Type}

/-- A new row with the defaults of the schema. -/
def created (id : Uuid) (type : String) (payload : Payload) (createdAt : ℕ) : Event Payload :=
  { id, type, payload, createdAt }

/-- The `WHERE` clause of the candidates. -/
def claimable (now claimTtlMs : ℕ) (event : Event Payload) : Bool :=
  match event.status with
  | .pending => true
  | .failed => event.nextRetryAt.all fun nextRetryAt => decide (nextRetryAt * 1000 ≤ now)
  | .publishing => event.claimedAt.any fun claimedAt =>
      decide (claimedAt * 1000 + claimTtlMs * 1000 < now)
  | .processed => false

def claim (now : ℕ) (event : Event Payload) : Event Payload :=
  { event with status := .publishing, claimedAt := some (toTimestamp now) }

def claimedRow (event : Event Payload) : ClaimedEventRow Payload where
  id := event.id
  type := event.type
  payload := event.payload
  retryCount := event.retryCount
  nextRetryAt := event.nextRetryAt
  lastError := event.lastError
  publishedAt := event.publishedAt
  createdAt := event.createdAt
  claimedAt := event.claimedAt

/-- The `where` clause of both updates. -/
def isClaimed (id : Uuid) (claimedAt : Option ℕ) (event : Event Payload) : Bool :=
  event.id == id && decide (event.status = .publishing) && event.claimedAt == claimedAt

variable {event : Event Payload} {now : ℕ}

@[simp] theorem claim_id : (event.claim now).id = event.id := rfl

@[simp] theorem claim_status : (event.claim now).status = .publishing := rfl

@[simp] theorem claim_retryCount : (event.claim now).retryCount = event.retryCount := rfl

@[simp] theorem claim_claimedAt : (event.claim now).claimedAt = some (toTimestamp now) := rfl

@[simp] theorem claimedRow_id : event.claimedRow.id = event.id := rfl

theorem isClaimed_iff {id : Uuid} {claimedAt : Option ℕ} :
    event.isClaimed id claimedAt = true ↔
      event.id = id ∧ event.status = .publishing ∧ event.claimedAt = claimedAt := by
  simp [isClaimed, and_assoc]

@[simp] theorem apply_id {update : EventUpdate} : (update.apply event).id = event.id := by
  cases update <;> rfl

theorem unprocessed_of_claimable {claimTtlMs : ℕ}
    (claimable : event.claimable now claimTtlMs = true) : event.status ≠ .processed := by
  intro processed
  simp [Event.claimable, processed] at claimable

theorem apply_status (update : EventUpdate) (event : Event Payload) :
    (update.apply event).status = .processed ∨ (update.apply event).status = .failed := by
  cases update with
  | processed => exact .inl rfl
  | failed => exact .inr rfl

end Event

/-! ## Claiming a batch -/

/-- What a batch leaves open: the rows other statements have locked, the order of
rows created at the same time, and the order in which the rows are returned. -/
structure BatchChoice where
  locked : Uuid → Bool := fun _ => false
  rank : Uuid → ℕ := fun _ => 0
  returned : Uuid → ℕ := fun _ => 0

section Batch

variable {Payload : Type}

/-- `ORDER BY created_at ASC`. -/
def createdBefore (choice : BatchChoice) (first second : Event Payload) : Prop :=
  first.createdAt < second.createdAt ∨
    first.createdAt = second.createdAt ∧ choice.rank first.id ≤ choice.rank second.id

instance (choice : BatchChoice) : DecidableRel (@createdBefore Payload choice) :=
  fun first second => inferInstanceAs (Decidable (first.createdAt < second.createdAt ∨ _ ∧ _))

/-- `FOR UPDATE SKIP LOCKED`. -/
def candidates (batchSize claimTtlMs now : ℕ) (choice : BatchChoice)
    (events : List (Event Payload)) : List (Event Payload) :=
  ((events.filter fun event =>
      event.claimable now claimTtlMs && !choice.locked event.id).insertionSort
    (createdBefore choice)).take batchSize

/-- `RETURNING` the claimed rows. -/
def returning (choice : BatchChoice) (now : ℕ) (batch : List (Event Payload)) :
    List (ClaimedEventRow Payload) :=
  (batch.map fun event => (event.claim now).claimedRow).insertionSort fun first second =>
    choice.returned first.id ≤ choice.returned second.id

variable {batchSize claimTtlMs now : ℕ} {choice : BatchChoice} {events batch : List (Event Payload)}

theorem mem_candidates {event : Event Payload}
    (member : event ∈ candidates batchSize claimTtlMs now choice events) :
    event ∈ events ∧ event.claimable now claimTtlMs = true := by
  have kept := (List.mem_insertionSort _).mp (List.mem_of_mem_take member)
  rw [List.mem_filter, Bool.and_eq_true] at kept
  exact ⟨kept.1, kept.2.1⟩

theorem candidates_distinct (distinct : (events.map Event.id).Nodup) :
    ((candidates batchSize claimTtlMs now choice events).map Event.id).Nodup := by
  have filtered : ((events.filter fun event =>
      event.claimable now claimTtlMs && !choice.locked event.id).map Event.id).Nodup :=
    distinct.sublist ((List.filter_sublist).map Event.id)
  have sorted := ((List.perm_insertionSort (createdBefore choice) _).map Event.id).nodup_iff.mpr
    filtered
  exact sorted.sublist ((List.take_sublist batchSize _).map Event.id)

theorem mem_returning {row : ClaimedEventRow Payload} :
    row ∈ returning choice now batch ↔ ∃ event ∈ batch, (event.claim now).claimedRow = row := by
  rw [returning, List.mem_insertionSort, List.mem_map]

theorem returning_distinct (distinct : (batch.map Event.id).Nodup) :
    ((returning choice now batch).map ClaimedEventRow.id).Nodup := by
  refine ((List.perm_insertionSort _ _).map ClaimedEventRow.id).nodup_iff.mpr ?_
  rw [List.map_map]
  exact distinct

end Batch

/-! ## The table and its history -/

/-- The table, the database clock, and a record of the claims, of the events handed
to the publisher and of those the broker confirmed. -/
structure State (Worker Payload : Type) where
  events : List (Event Payload)
  now : ℕ
  history : Lease.History Uuid Worker ℕ
  handed : List Uuid
  confirmed : List Uuid

namespace State

variable {Worker Payload : Type} (state : State Worker Payload) (worker : Worker)

def claimAll (batch : List Uuid) : State Worker Payload :=
  { state with
    events := state.events.map fun event => if event.id ∈ batch then event.claim state.now else event
    history := Lease.claimAll worker (toTimestamp state.now) batch state.history }

def finalize (id : Uuid) (claimedAt : Option ℕ) (update : EventUpdate) : State Worker Payload :=
  { state with
    events := state.events.map fun event =>
      if event.isClaimed id claimedAt then update.apply event else event
    history := (id, .finalized worker) :: state.history }

/-- `updateMany` of a claimed row: the number of rows it changed, and the state. -/
def updateMany (id : Uuid) (claimedAt : Option ℕ) (update : EventUpdate) :
    ℕ × State Worker Payload :=
  let count := state.events.countP (Event.isClaimed id claimedAt)
  (count, if count = 0 then state else state.finalize worker id claimedAt update)

theorem updateMany_cases (id : Uuid) (claimedAt : Option ℕ) (update : EventUpdate) :
    (state.updateMany worker id claimedAt update).2 = state ∨
      (∃ event ∈ state.events, event.isClaimed id claimedAt = true) ∧
        (state.updateMany worker id claimedAt update).2 =
          state.finalize worker id claimedAt update := by
  by_cases none : state.events.countP (Event.isClaimed id claimedAt) = 0
  · exact .inl (if_pos none)
  · exact .inr ⟨List.countP_pos_iff.mp (Nat.pos_of_ne_zero none), if_neg none⟩

end State

end BankingBackend.Outbox
