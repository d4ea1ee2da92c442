import BankingBackend.Foundation.Expiry
import BankingBackend.Messaging.Server

/-! # Claims on a message exclude each other -/

namespace BankingBackend.Messaging

open Foundation
open Outbox (toTimestamp)

/-! ## Calls of the repositories -/

/-- The calls of `ProcessedMessageRepository` and `EmailProcessedMessageRepository`. -/
inductive RepositoryCall
  | claim (eventType : String)
  | markCompleted
  | markFailed (errorMessage : String)

/-- The tables, and when each row was claimed by a call that returned `true` or marked as
failed. -/
structure Claiming (Worker : Type) where
  shared : State Worker
  history : Consumer → String → List (Expiry.Event ℕ) := fun _ _ => []

inductive ClaimingLabel (Worker : Type)
  | call (worker : Worker) (consumer : Consumer) (messageId : String) (call : RepositoryCall)
      (choice : Choice)
  | tick (now : ℕ)

section Calls

variable {Worker : Type} [DecidableEq Worker]

namespace RepositoryCall

variable (claimTtlMs : ℕ) (state : State Worker) (worker : Worker) (consumer : Consumer)
  (messageId : String) (choice : Choice)

/-- Each call is one statement. -/
def perform : RepositoryCall → State Worker
  | .claim eventType => (state.claim worker consumer choice messageId eventType claimTtlMs).2
  | .markCompleted => (state.markCompleted worker consumer choice messageId).2
  | .markFailed errorMessage => state.markFailed worker consumer choice messageId errorMessage

def event : RepositoryCall → Option (Expiry.Event ℕ)
  | .claim eventType =>
      if (state.claim worker consumer choice messageId eventType claimTtlMs).1.toOption = some true
      then some (.claimed state.now) else none
  | .markCompleted => none
  | .markFailed _ =>
      if choice.failure.all Failure.executed ∧ (state.rows consumer messageId).isSome
      then some .freed else none

end RepositoryCall

namespace Claiming

def record (current : Claiming Worker) (consumer : Consumer) (messageId : String)
    (event : Option (Expiry.Event ℕ)) : Consumer → String → List (Expiry.Event ℕ) :=
  Function.update current.history consumer
    (Function.update (current.history consumer) messageId
      (event.toList ++ current.history consumer messageId))

def step (claimTtlMs : ℕ) (current : Claiming Worker) :
    ClaimingLabel Worker → Option (Claiming Worker)
  | .call worker consumer messageId call choice => some
      { shared := call.perform claimTtlMs current.shared worker consumer messageId choice
        history := current.record consumer messageId
          (call.event claimTtlMs current.shared worker consumer messageId choice) }
  | .tick now =>
      if current.shared.now ≤ now then some { current with shared := { current.shared with now } }
      else none

end Claiming

end Calls

/-! ## Statements on a row -/

section Statements

variable {Worker : Type}

/-- The claim was recorded, to the millisecond, more than the time to live ago. -/
def expired (claimTtlMs first second : ℕ) : Prop :=
  toTimestamp first * 1000 + claimTtlMs * 1000 < second

inductive RowStatement (claimTtlMs : ℕ) (before : State Worker) (consumer : Consumer)
    (messageId : String) (after : State Worker) (event : Option (Expiry.Event ℕ)) : Prop
  | leaves (rows : after.rows = before.rows) (silent : event = none)
  | claims (row : ProcessedMessage Worker)
      (free : ∀ earlier, before.rows consumer messageId = some earlier →
        earlier.reclaimable before.now claimTtlMs = true)
      (claimed : row.status = .claimed ∧ row.claimedAt = toTimestamp before.now)
      (rows : after.rows = (before.setRow consumer messageId row).rows)
      (recorded : event = none ∨ event = some (.claimed before.now))
  | completes (row : ProcessedMessage Worker) (found : before.rows consumer messageId = some row)
      (rows : after.rows = (before.setRow consumer messageId (row.complete before.now)).rows)
      (silent : event = none)
  | fails (row : ProcessedMessage Worker)
      (rows : after.rows = (before.setRow consumer messageId row).rows)
      (freed : event = some .freed)

theorem reclaimable_iff {row : ProcessedMessage Worker} {now claimTtlMs : ℕ} :
    row.reclaimable now claimTtlMs = true ↔ row.status = .failed ∨
      row.status = .claimed ∧ row.claimedAt * 1000 + claimTtlMs * 1000 < now := by
  unfold ProcessedMessage.reclaimable
  cases row.status <;> simp

theorem claimRow_free {state : State Worker} {worker : Worker} {consumer : Consumer}
    {messageId eventType : String} {claimTtlMs : ℕ} {row : ProcessedMessage Worker}
    (taken : state.claimRow worker consumer messageId eventType claimTtlMs = some row) :
    (∀ earlier, state.rows consumer messageId = some earlier →
      earlier.reclaimable state.now claimTtlMs = true) ∧
        row.status = .claimed ∧ row.claimedAt = toTimestamp state.now := by
  unfold State.claimRow at taken
  cases found : state.rows consumer messageId with
  | none =>
      rw [found] at taken
      cases taken
      exact ⟨by rintro earlier ⟨⟩, rfl, rfl⟩
  | some row =>
      simp only [found] at taken
      split at taken
      · rename_i free
        cases taken
        refine ⟨?_, rfl, rfl⟩
        rintro earlier ⟨⟩
        exact free
      · cases taken

variable [DecidableEq Worker] {claimTtlMs : ℕ} {state : State Worker} {worker : Worker}
  {consumer : Consumer} {messageId : String} {choice : Choice}

variable (claimTtlMs state worker consumer messageId choice)

/-- A claim takes the row, or it leaves all rows as they are and does not return `true`. -/
theorem claim_cases (eventType : String) :
    (∃ row, state.claimRow worker consumer messageId eventType claimTtlMs = some row ∧
      (state.claim worker consumer choice messageId eventType claimTtlMs).2.rows =
        (state.setRow consumer messageId row).rows) ∨
      (state.claim worker consumer choice messageId eventType claimTtlMs).2.rows = state.rows ∧
        (state.claim worker consumer choice messageId eventType claimTtlMs).1.toOption ≠
          some true := by
  unfold State.claim
  split
  · rename_i row taken succeeds
    exact .inl ⟨row, taken, rfl⟩
  · exact .inr ⟨rfl, by simp [Except.toOption]⟩
  · rename_i row failure taken fails
    by_cases executed : failure.executed = true
    · exact .inl ⟨row, taken, by simp [executed, State.advance]⟩
    · exact .inr ⟨by simp [executed, State.advance], by simp [Except.toOption]⟩
  · exact .inr ⟨rfl, by simp [Except.toOption]⟩

theorem claim_statement (eventType : String) :
    RowStatement claimTtlMs state consumer messageId
      ((RepositoryCall.claim eventType).perform claimTtlMs state worker consumer messageId choice)
      ((RepositoryCall.claim eventType).event claimTtlMs state worker consumer messageId choice) := by
  rcases claim_cases claimTtlMs state worker consumer messageId choice eventType with
    ⟨row, taken, rows⟩ | ⟨rows, refused⟩
  · have free := claimRow_free taken
    by_cases returned :
        (state.claim worker consumer choice messageId eventType claimTtlMs).1.toOption = some true
    · exact .claims row free.1 free.2 rows (.inr (if_pos returned))
    · exact .claims row free.1 free.2 rows (.inl (if_neg returned))
  · exact .leaves rows (if_neg refused)

theorem markCompleted_cases :
    (∃ row, state.claimedRow consumer messageId = some row ∧
      (state.markCompleted worker consumer choice messageId).2.rows =
        (state.setRow consumer messageId (row.complete state.now)).rows) ∨
      (state.markCompleted worker consumer choice messageId).2.rows = state.rows := by
  unfold State.markCompleted
  split
  · rename_i row found succeeds
    exact .inl ⟨row, found, rfl⟩
  · exact .inr rfl
  · rename_i row failure found fails
    by_cases executed : failure.executed = true
    · exact .inl ⟨row, found, by simp [executed]⟩
    · exact .inr (by simp [executed])
  · exact .inr rfl

theorem markCompleted_statement :
    RowStatement claimTtlMs state consumer messageId
      (RepositoryCall.markCompleted.perform claimTtlMs state worker consumer messageId choice)
      (RepositoryCall.markCompleted.event claimTtlMs state worker consumer messageId choice) := by
  rcases markCompleted_cases state worker consumer messageId choice with ⟨row, found, rows⟩ | rows
  · exact .completes row (State.claimedRow_eq_some.mp found).1 rows rfl
  · exact .leaves rows rfl

theorem markFailed_statement (errorMessage : String) :
    RowStatement claimTtlMs state consumer messageId
      ((RepositoryCall.markFailed errorMessage).perform claimTtlMs state worker consumer messageId
        choice)
      ((RepositoryCall.markFailed errorMessage).event claimTtlMs state worker consumer messageId
        choice) := by
  have rows : ((RepositoryCall.markFailed errorMessage).perform claimTtlMs state worker consumer
      messageId choice).rows =
        (choice.after state (state.failRow consumer messageId errorMessage)).rows := rfl
  by_cases executed : choice.failure.all Failure.executed = true
  · have after := choice.after_of_executed (Option.all_eq_true _ _ |>.mp executed) state
      (state.failRow consumer messageId errorMessage)
    cases found : state.rows consumer messageId with
    | none =>
        refine .leaves (rows.trans ?_) (if_neg (by simp [found]))
        rw [after]
        simp [State.failRow, found]
    | some row =>
        refine .fails (row.fail errorMessage) (rows.trans ?_) (if_pos (by simp [executed, found]))
        rw [after]
        simp [State.failRow, found]
  · refine .leaves (rows.trans ?_) (if_neg fun took => executed took.1)
    rcases choice.after_cases state (state.failRow consumer messageId errorMessage) with
      same | ⟨_, all⟩
    · rw [same]
    · exact absurd ((Option.all_eq_true _ _).mpr all) executed

theorem call_statement (call : RepositoryCall) :
    RowStatement claimTtlMs state consumer messageId
      (call.perform claimTtlMs state worker consumer messageId choice)
      (call.event claimTtlMs state worker consumer messageId choice) := by
  cases call with
  | claim eventType => exact claim_statement _ _ _ _ _ _ eventType
  | markCompleted => exact markCompleted_statement _ _ _ _ _ _
  | markFailed errorMessage => exact markFailed_statement _ _ _ _ _ _ errorMessage

end Statements

/-! ## Claims that stand -/

section Standing

variable {Worker : Type} {claimTtlMs : ℕ} {consumer : Consumer} {messageId : String}

/-- A claim that nothing has freed is still recorded by its row, or by the claim that took
the row later. -/
structure Apart (claimTtlMs : ℕ) (shared : State Worker) (row : Option (ProcessedMessage Worker))
    (history : List (Expiry.Event ℕ)) : Prop where
  spaced : Expiry.Spaced (expired claimTtlMs) history
  past : ∀ time ∈ Expiry.standing history, time ≤ shared.now
  recorded : ∀ time ∈ Expiry.standing history, ∃ found, row = some found ∧
    found.status ≠ .failed ∧ toTimestamp time ≤ found.claimedAt

theorem Apart.empty (shared : State Worker) (row : Option (ProcessedMessage Worker)) :
    Apart claimTtlMs shared row [] where
  spaced := trivial
  past := by rintro time ⟨⟩
  recorded := by rintro time ⟨⟩

/-- Whoever finds the row free finds every claim on it freed or expired. -/
theorem Apart.expired_of_free {shared : State Worker} {row : Option (ProcessedMessage Worker)}
    {history : List (Expiry.Event ℕ)} (apart : Apart claimTtlMs shared row history)
    (free : ∀ found, row = some found → found.reclaimable shared.now claimTtlMs = true)
    {time : ℕ} (standing : time ∈ Expiry.standing history) :
    expired claimTtlMs time shared.now := by
  rcases apart.recorded time standing with ⟨found, present, unfailed, recorded⟩
  rcases reclaimable_iff.mp (free found present) with failed | ⟨_, elapsed⟩
  · exact absurd failed unfailed
  · exact (Nat.add_le_add_right (Nat.mul_le_mul_right 1000 recorded) _).trans_lt elapsed

theorem Apart.statement {shared after : State Worker} {event : Option (Expiry.Event ℕ)}
    {history : List (Expiry.Event ℕ)}
    (apart : Apart claimTtlMs shared (shared.rows consumer messageId) history)
    (statement : RowStatement claimTtlMs shared consumer messageId after event)
    (now : after.now = shared.now) :
    Apart claimTtlMs after (after.rows consumer messageId) (event.toList ++ history) := by
  cases statement with
  | leaves rows silent =>
      subst silent
      rw [rows]
      exact ⟨apart.spaced, by simpa [now] using apart.past, apart.recorded⟩
  | claims row free claimed rows recorded =>
      rw [rows, State.setRow_rows, if_pos ⟨rfl, rfl⟩]
      have late {time : ℕ} (standing : time ∈ Expiry.standing history) :
          toTimestamp time ≤ row.claimedAt :=
        claimed.2 ▸ Outbox.toTimestamp_mono (apart.past time standing)
      rcases recorded with rfl | rfl
      · exact ⟨apart.spaced, by simpa [now] using apart.past, fun time standing =>
          ⟨row, rfl, by simp [claimed.1], late standing⟩⟩
      · refine ⟨⟨apart.spaced, fun time standing => apart.expired_of_free free standing⟩, ?_, ?_⟩
        · rintro time (_ | ⟨_, standing⟩)
          · exact now.ge
          · exact (apart.past time standing).trans now.ge
        · rintro time (_ | ⟨_, standing⟩)
          · exact ⟨row, rfl, by simp [claimed.1], claimed.2.ge⟩
          · exact ⟨row, rfl, by simp [claimed.1], late standing⟩
  | completes row found rows silent =>
      subst silent
      rw [rows, State.setRow_rows, if_pos ⟨rfl, rfl⟩]
      refine ⟨apart.spaced, by simpa [now] using apart.past, fun time standing => ?_⟩
      rcases apart.recorded time standing with ⟨same, present, _, recorded⟩
      cases present.symm.trans found
      exact ⟨_, rfl, by simp [ProcessedMessage.complete], recorded⟩
  | fails row rows freed =>
      subst freed
      exact ⟨apart.spaced, by rintro time ⟨⟩, by rintro time ⟨⟩⟩

theorem RowStatement.other {shared after : State Worker} {event : Option (Expiry.Event ℕ)}
    (statement : RowStatement claimTtlMs shared consumer messageId after event) {other : Consumer}
    {key : String} (different : ¬(other = consumer ∧ key = messageId)) :
    after.rows other key = shared.rows other key := by
  cases statement with
  | leaves rows _ => rw [rows]
  | claims row _ _ rows _ => rw [rows, State.setRow_rows, if_neg different]
  | completes row _ rows _ => rw [rows, State.setRow_rows, if_neg different]
  | fails row rows _ => rw [rows, State.setRow_rows, if_neg different]

end Standing

/-! ## Runs -/

section Runs

variable {Worker : Type} {claimTtlMs : ℕ} {current : Claiming Worker} {consumer : Consumer}
  {messageId : String}

theorem record_apply (event : Option (Expiry.Event ℕ)) (other : Consumer) (key : String) :
    current.record consumer messageId event other key =
      if other = consumer ∧ key = messageId then event.toList ++ current.history other key
      else current.history other key := by
  unfold Claiming.record
  by_cases same : other = consumer
  · subst other
    by_cases equal : key = messageId
    · subst key
      simp
    · simp [equal]
  · simp [same]

def Claiming.Apart (claimTtlMs : ℕ) (current : Claiming Worker) : Prop :=
  ∀ consumer messageId, Messaging.Apart claimTtlMs current.shared
    (current.shared.rows consumer messageId) (current.history consumer messageId)

variable [DecidableEq Worker]

theorem perform_now (call : RepositoryCall) (state : State Worker) (worker : Worker)
    (choice : Choice) :
    (call.perform claimTtlMs state worker consumer messageId choice).now = state.now := by
  cases call with
  | claim eventType =>
      show (state.claim worker consumer choice messageId eventType claimTtlMs).2.now = state.now
      unfold State.claim
      split
      · rfl
      · rfl
      · simp only [State.advance, State.setHandling]
        split <;> rfl
      · rfl
  | markCompleted =>
      show (state.markCompleted worker consumer choice messageId).2.now = state.now
      unfold State.markCompleted
      split
      · rfl
      · rfl
      · split <;> rfl
      · rfl
  | markFailed errorMessage =>
      have same : (state.failRow consumer messageId errorMessage).now = state.now := by
        rcases state.failRow_cases consumer messageId errorMessage with kept | ⟨row, _, kept⟩
        · rw [kept]
        · rw [kept]
          rfl
      show (choice.after state (state.failRow consumer messageId errorMessage)).now = state.now
      rcases choice.after_cases state (state.failRow consumer messageId errorMessage) with
        kept | ⟨kept, _⟩
      · rw [kept]
      · rw [kept, same]

theorem Claiming.Apart.step {following : Claiming Worker} {label : ClaimingLabel Worker}
    (apart : current.Apart claimTtlMs) (taken : current.step claimTtlMs label = some following) :
    following.Apart claimTtlMs := by
  intro other key
  cases label with
  | tick now =>
      simp only [Claiming.step] at taken
      split at taken
      · rename_i later
        cases taken
        have before := apart other key
        exact ⟨before.spaced, fun time standing => (before.past time standing).trans later,
          before.recorded⟩
      · cases taken
  | call worker consumer messageId call choice =>
      cases taken
      have statement := call_statement claimTtlMs current.shared worker consumer messageId choice call
      have now : (call.perform claimTtlMs current.shared worker consumer messageId choice).now =
          current.shared.now := perform_now call current.shared worker choice
      by_cases same : other = consumer ∧ key = messageId
      · rcases same with ⟨rfl, rfl⟩
        simp only [record_apply, and_self, if_true]
        exact (apart _ _).statement statement now
      · simp only [record_apply, if_neg same, statement.other same]
        have before := apart other key
        exact ⟨before.spaced, by simpa [now] using before.past, before.recorded⟩

/-! ## Claims -/

/-- Two claims on a row are apart, claims made meanwhile are single, and no claim takes a
completed row. -/
structure ClaimsExclude (claimTtlMs : ℕ) (elapsed : ℕ → ℕ → Prop) (current : Claiming Worker) :
    Prop where
  exclusive : ∀ consumer messageId, Expiry.Exclusive elapsed (current.history consumer messageId)
  single : ∀ consumer messageId segment, segment <:+: current.history consumer messageId →
    .freed ∉ segment →
    (∀ first ∈ Expiry.claims segment, ∀ second ∈ Expiry.claims segment, ¬elapsed first second) →
      (Expiry.claims segment).length ≤ 1
  completed : ∀ worker consumer messageId eventType choice returned,
    current.shared.Completed consumer messageId →
      (current.shared.claim worker consumer choice messageId eventType claimTtlMs).1 =
        .ok returned → returned = false

/-- Whatever the tables hold at first, and whichever calls are made in whichever order. -/
def EveryClaimExcludes (Worker : Type) [DecidableEq Worker]
    (elapsed : ℕ → ℕ → ℕ → Prop) : Prop :=
  ∀ claimTtlMs (shared : State Worker) current,
    Run (Claiming.step claimTtlMs) Unrestricted { shared } current →
      ClaimsExclude claimTtlMs (elapsed claimTtlMs) current

/-- Time elapses from when a claim is recorded. -/
theorem every_claim_excludes (Worker : Type) [DecidableEq Worker] :
    EveryClaimExcludes Worker expired := by
  intro claimTtlMs shared current run
  have apart : current.Apart claimTtlMs := by
    refine run.invariant (Claiming.Apart claimTtlMs) (fun consumer messageId => .empty shared _) ?_
    exact fun before label following apart _ taken => apart.step taken
  constructor
  · exact fun consumer messageId => (apart consumer messageId).spaced.exclusive
  · exact fun consumer messageId segment => (apart consumer messageId).spaced.length_claims_le_one
  · intro worker consumer messageId eventType choice returned completed answered
    rcases claim_cases claimTtlMs current.shared worker consumer messageId choice eventType with
      ⟨row, taken, _⟩ | ⟨_, refused⟩
    · rw [State.claimRow_of_completed completed] at taken
      cases taken
    · rw [answered] at refused
      cases returned with
      | true => exact absurd rfl refused
      | false => rfl

/-- An empty table, 1.499 ms after the start of the clock. -/
def unclaimed : State Bool :=
  { queue := fun _ => []
    deadLetters := fun _ => []
    rows := fun _ _ => none
    effects := []
    handling := fun _ => {}
    now := 1499
    dispatches := []
    published := [] }

def claimTwice : List (ClaimingLabel Bool) :=
  [.call false .rabbitMq "message" (.claim "TRANSACTION_COMPLETED") {},
    .tick 300001001,
    .call true .rabbitMq "message" (.claim "TRANSACTION_COMPLETED") {}]

/-- A claim in the first half of a millisecond is recorded at its start, so that the next one
succeeds before the time to live has elapsed since. -/
theorem early_claim : ¬EveryClaimExcludes Bool fun claimTtlMs first second =>
    first + claimTtlMs * 1000 ≤ second := by
  intro excludes
  have executed : (execute (Claiming.step 300000) (fun _ _ => true) { shared := unclaimed }
      claimTwice).any (fun current => decide (current.history .rabbitMq "message" =
        [.claimed 300001001, .claimed 1499])) = true := by decide
  rcases exists_run_of_execute _ _ Unrestricted (fun _ _ _ => trivial) executed with
    ⟨current, run, both⟩
  have two := (excludes 300000 unclaimed current run).exclusive .rabbitMq "message" [] 300001001 []
    1499 [] (of_decide_eq_true both)
  simp at two

end Runs

end BankingBackend.Messaging
