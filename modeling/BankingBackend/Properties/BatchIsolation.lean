import BankingBackend.Foundation.Monitor
import BankingBackend.Properties.RowProtocol

/-! # Failures inside a batch

The loop goes on after a failing publish, and after a failing update of a
published event. It stops where the update that marks an event failed does not
succeed itself.
-/

namespace BankingBackend.Outbox

open Foundation
open Postgres (Uuid EventStatus)

section Traces

variable {Payload : Type}

abbrev Trace (Payload : Type) := List (Σ command : Command Payload, command.Answer)

def claimed : (command : Command Payload) → command.Answer → List Uuid
  | .claimNextBatch _ _, .ok rows => rows.map ClaimedEventRow.id
  | _, _ => []

def handed? : Command Payload → Option Uuid
  | .getPublisherChannel messageId => some messageId
  | _ => none

def failsToMark : (command : Command Payload) → command.Answer → Bool
  | .updateMany _ _ (.failed _ _ _), .error _ => true
  | _, _ => false

namespace Trace

variable (trace : Trace Payload)

def batch : List Uuid := trace.flatMap fun exchange => claimed exchange.1 exchange.2

def handed : List Uuid := trace.filterMap fun exchange => handed? exchange.1

/-- The message of the event was published and its row updated. -/
def Finalized (id : Uuid) : Prop :=
  ∃ claimedAt publishedAt, ⟨.updateMany id claimedAt (.processed publishedAt), .ok 1⟩ ∈ trace

/-- No update that marks an event failed fails before the whole batch has been handed to the
publisher. -/
def MarksFailures : Prop :=
  ∀ before exchange after, trace = before ++ exchange :: after →
    failsToMark exchange.1 exchange.2 = true → handed before = trace.batch

/-- Every event of the batch is handed to the publisher, and those that are finalized are
processed in the end. -/
structure Isolated {Worker : Type} (state : State Worker Payload) : Prop where
  handed : trace.handed = trace.batch
  processed : ∀ id, trace.Finalized id → ∃ event ∈ state.events, event.id = id ∧
    event.status = .processed

/-! ## One request after another -/

variable (first rest : Trace Payload) (command : Command Payload) (answer : command.Answer)

@[simp] theorem batch_nil : batch ([] : Trace Payload) = [] := rfl

@[simp] theorem batch_cons : batch (⟨command, answer⟩ :: rest) = claimed command answer ++ batch rest :=
  List.flatMap_cons

@[simp] theorem batch_append : batch (first ++ rest) = batch first ++ batch rest :=
  List.flatMap_append

@[simp] theorem handed_nil : handed ([] : Trace Payload) = [] := rfl

@[simp] theorem handed_cons :
    handed (⟨command, answer⟩ :: rest) = (handed? command).toList ++ handed rest := by
  unfold handed
  rw [List.filterMap_cons]
  cases handed? command <;> rfl

@[simp] theorem handed_append : handed (first ++ rest) = handed first ++ handed rest :=
  List.filterMap_append

end Trace

/-! ## The loop -/

/-- After some events of the batch: they have all been handed to the publisher. -/
structure Advanced (batch done : List Uuid) (trace : Trace Payload) : Prop where
  batch : trace.batch = batch
  handed : trace.handed = done
  marked : ∀ exchange ∈ trace, failsToMark exchange.1 exchange.2 = false

def Stopped (batch done : List Uuid) (trace : Trace Payload) : Prop :=
  ∃ before exchange, trace = before ++ [exchange] ∧ Advanced batch done before ∧
    failsToMark exchange.1 exchange.2 = true

/-- A request that claims nothing, hands nothing over and marks nothing failed. -/
def Command.silent : Command Payload → Prop
  | .claimNextBatch _ _ | .getPublisherChannel _ | .updateMany _ _ (.failed _ _ _) => False
  | _ => True

section Loop

variable {batch done : List Uuid} {trace : Trace Payload} {config : OutboxConfig}
  {evt : ClaimedEventRow Payload}

theorem Advanced.snoc (advanced : Advanced batch done trace) (command : Command Payload)
    (answer : command.Answer) (claims : claimed command answer = [])
    (marks : failsToMark command answer = false) :
    Advanced batch (done ++ (handed? command).toList) (trace ++ [⟨command, answer⟩]) where
  batch := by simp [advanced.batch, claims]
  handed := by simp [advanced.handed]
  marked exchange member := by
    rcases List.mem_append.mp member with old | new
    · exact advanced.marked exchange old
    · rw [List.mem_singleton.mp new]
      exact marks

theorem Advanced.silent (advanced : Advanced batch done trace) (command : Command Payload)
    (answer : command.Answer) (silent : command.silent) :
    Advanced batch done (trace ++ [⟨command, answer⟩]) := by
  have nothing : claimed command answer = [] ∧ handed? command = none ∧
      failsToMark command answer = false := by
    cases command with
    | claimNextBatch | getPublisherChannel => cases silent
    | updateMany id claimedAt update =>
        cases update with
        | failed => cases silent
        | processed => exact ⟨rfl, rfl, rfl⟩
    | _ => exact ⟨rfl, rfl, rfl⟩
  have next := advanced.snoc command answer nothing.1 nothing.2.2
  rwa [nothing.2.1, Option.toList_none, List.append_nil] at next

theorem records_asking {α : Type} {command : Command Payload}
    {next : command.Answer → Service Payload α} {post : Except String α → Trace Payload → Prop}
    (rest : ∀ answer,
      (Monitor.recorder (interface Payload)).Obeys post (next answer) (trace ++ [⟨command, answer⟩])) :
    (Monitor.recorder (interface Payload)).Obeys post (request command >>= next) trace := by
  refine ⟨trivial, ?_⟩
  rintro answer _ rfl
  exact rest answer

theorem records_throwing {α β : Type} {answer : Except String α} {next : α → Service Payload β}
    {post : Except String β → Trace Payload → Prop}
    (fails : ∀ message, answer = .error message → post (.error message) trace)
    (rest : ∀ value, answer = .ok value →
      (Monitor.recorder (interface Payload)).Obeys post (next value) trace) :
    (Monitor.recorder (interface Payload)).Obeys post (orThrow answer >>= next) trace := by
  cases answer with
  | ok value => exact rest value rfl
  | error message => exact .throw (fails message rfl)

/-- Whether it succeeds or not, the publish has handed the event over. -/
theorem records_publishEvent (advanced : Advanced batch done trace) :
    (Monitor.recorder (interface Payload)).Obeys
      (fun _ final => Advanced batch (done ++ [evt.id]) final) (publishEvent config evt) trace := by
  unfold publishEvent publish
  refine records_asking fun answer => ?_
  have handed := advanced.snoc (.getPublisherChannel evt.id) answer rfl rfl
  refine records_throwing (fun _ _ => handed) fun _ _ => records_asking fun answer => ?_
  have asserted := handed.silent (.assertExchange config.exchange) answer trivial
  refine records_throwing (fun _ _ => asserted) fun _ _ => records_asking fun answer => ?_
  have published := asserted.silent (.publish _ _ _ _) answer trivial
  cases answer with
  | ok value => exact .pure published
  | error message => exact .throw published

inductive Looped (batch done : List Uuid) : Except String Unit → Trace Payload → Prop
  | finished {trace : Trace Payload} (advanced : Advanced batch done trace) :
      Looped batch done (.ok ()) trace
  | stopped {trace : Trace Payload} (message : String) (handed : List Uuid)
      (stopped : Stopped batch handed trace) : Looped batch done (.error message) trace

theorem records_nextRetryAt (advanced : Advanced batch done trace) (retryCount : ℕ) :
    (Monitor.recorder (interface Payload)).Obeys
      (fun result final => (∃ date, result = .ok date) ∧ Advanced batch done final)
      (nextRetryAt config retryCount) trace := by
  unfold nextRetryAt
  split
  · refine records_asking fun now => ?_
    exact .pure ⟨⟨_, rfl⟩, advanced.silent .dateNow now trivial⟩
  · exact .pure ⟨⟨_, rfl⟩, advanced⟩

theorem records_processEvent (advanced : Advanced batch done trace) :
    (Monitor.recorder (interface Payload)).Obeys (Looped batch (done ++ [evt.id]))
      (processEvent config evt) trace := by
  refine .attempt (records_publishEvent advanced) fun outcome between advanced => ?_
  cases outcome with
  | ok value =>
      refine records_asking fun publishedAt => records_asking fun answer => ?_
      have dated := advanced.silent .dateNow publishedAt trivial
      exact .pure (.finished (dated.silent (.updateMany _ _ (.processed _)) answer trivial))
  | error error =>
      refine .bind (records_nextRetryAt advanced _) ?_ ?_
      · rintro error final ⟨⟨_, ⟨⟩⟩, _⟩
      · rintro date between ⟨_, advanced⟩
        refine records_asking fun answer => records_throwing ?_ ?_
        · rintro message rfl
          exact .stopped message _ ⟨between, _, rfl, advanced, rfl⟩
        · rintro count rfl
          have marked := advanced.snoc (.updateMany evt.id evt.claimedAt
            (.failed (evt.retryCount + 1) date error)) (.ok count) rfl rfl
          exact .pure (.finished (List.append_nil (done ++ [evt.id]) ▸ marked))

theorem records_processEvents (events : List (ClaimedEventRow Payload))
    (advanced : Advanced batch done trace) :
    (Monitor.recorder (interface Payload)).Obeys (Looped batch (done ++ events.map ClaimedEventRow.id))
      (processEvents config events) trace := by
  induction events generalizing done trace with
  | nil =>
      rw [List.map_nil, List.append_nil]
      exact .pure (.finished advanced)
  | cons evt events induction =>
      refine .bind (records_processEvent advanced) ?_ ?_
      · rintro message final ⟨⟩
        rename_i handed stopped
        exact .stopped message handed stopped
      · rintro _ between ⟨⟩
        rename_i advanced
        have rest := induction advanced
        rwa [List.append_assoc, List.singleton_append] at rest

/-! ### The whole call -/

theorem Advanced.marks (advanced : Advanced batch batch trace) :
    trace.handed = trace.batch ↔ trace.MarksFailures := by
  refine iff_of_true (advanced.handed.trans advanced.batch.symm) ?_
  rintro before exchange after rfl fails
  rw [advanced.marked exchange (by simp)] at fails
  cases fails

theorem Stopped.marks (stopped : Stopped batch done trace) :
    trace.handed = trace.batch ↔ trace.MarksFailures := by
  rcases stopped with ⟨before, ⟨command, answer⟩, rfl, advanced, fails⟩
  have nothing : handed? command = none := by
    cases command with
    | getPublisherChannel => cases fails
    | _ => rfl
  have handed : Trace.handed (before ++ [⟨command, answer⟩]) = Trace.handed before := by
    simp [nothing]
  rw [handed]
  constructor
  · intro whole earlier exchange after same failing
    rcases List.eq_nil_or_concat after with rfl | ⟨between, last, rfl⟩
    · rw [← (List.append_inj' same rfl).1]
      exact whole
    · -- Only the last update failed to mark its event.
      rw [List.concat_eq_append, ← List.cons_append, ← List.append_assoc] at same
      have member : exchange ∈ before := by
        rw [(List.append_inj' same rfl).1]
        simp
      rw [advanced.marked exchange member] at failing
      cases failing
  · exact fun marks => marks before ⟨command, answer⟩ [] rfl fails

theorem Looped.marks {result : Except String Unit} (looped : Looped batch batch result trace) :
    trace.handed = trace.batch ↔ trace.MarksFailures := by
  cases looped with
  | finished advanced => exact advanced.marks
  | stopped message handed stopped => exact stopped.marks

theorem records_processPendingEvents (config : OutboxConfig) :
    (Monitor.recorder (interface Payload)).Obeys
      (fun _ trace => Trace.handed trace = Trace.batch trace ↔ Trace.MarksFailures trace)
      (processPendingEvents config) [] := by
  refine records_asking fun answer => records_throwing ?_ ?_
  · rintro message rfl
    have advanced : @Advanced Payload [] []
        [⟨.claimNextBatch config.batchSize config.claimTtlMs, .error message⟩] := by
      refine ⟨rfl, rfl, fun exchange member => ?_⟩
      rw [List.mem_singleton.mp member]
      rfl
    exact advanced.marks
  · rintro rows rfl
    have advanced : Advanced (rows.map ClaimedEventRow.id) []
        [⟨.claimNextBatch config.batchSize config.claimTtlMs, .ok rows⟩] := by
      refine ⟨List.append_nil _, rfl, fun exchange member => ?_⟩
      rw [List.mem_singleton.mp member]
      rfl
    exact (records_processEvents rows advanced).mono fun _ _ => Looped.marks

end Loop

end Traces

/-! ## Every run -/

section Runs

variable {Worker Payload : Type} [DecidableEq Worker] {config : OutboxConfig} {now : ℕ}
  {worker : Worker} {current : Configuration Worker Payload}
  {trace : List (Σ op : (interface Payload).Op, (interface Payload).Answer op)}

omit [DecidableEq Worker] in
theorem perform_processed {id : Uuid} {claimedAt : Option ℕ} {publishedAt : ℕ} {choice : Choice}
    {before after : State Worker Payload}
    (performed : before.perform worker (.updateMany id claimedAt (.processed publishedAt)) choice =
      some (.ok 1, after)) :
    ∃ event ∈ after.events, event.id = id ∧ event.status = .processed := by
  simp only [State.perform, EventUpdate.fits, if_true, Option.some.injEq, Prod.mk.injEq] at performed
  rcases performed with ⟨answered, rfl⟩
  cases failure : choice.failure with
  | some failure => simp [Choice.answer, failure] at answered
  | none =>
      simp only [Choice.answer, failure, Except.ok.injEq] at answered
      rw [Choice.after, failure]
      rcases List.countP_pos_iff.mp (answered ▸ Nat.one_pos : 0 < _) with ⟨event, member, held⟩
      have written : (before.updateMany worker id claimedAt (.processed publishedAt)).2 =
          before.finalize worker id claimedAt (.processed publishedAt) := by
        refine if_neg fun none => ?_
        rw [State.updateMany, none] at answered
        cases answered
      refine ⟨(EventUpdate.processed publishedAt).apply event, ?_, ?_, rfl⟩
      · rw [written]
        have image := List.mem_map_of_mem
          (f := fun event => if event.isClaimed id claimedAt then
            (EventUpdate.processed publishedAt).apply event else event) member
        rwa [if_pos held] at image
      · rw [Event.apply_id]
        exact (Event.isClaimed_iff.mp held).1

theorem processed_of_records
    (records : Monitor.Records (machine Worker Payload) worker (initial Worker Payload config now)
      trace current) (id : Uuid) (finalized : Trace.Finalized trace id) :
    ∃ event ∈ current.shared.events, event.id = id ∧ event.status = .processed := by
  induction records with
  | start =>
      rcases finalized with ⟨_, _, member⟩
      cases member
  | @next trace current following action records taken induction =>
      rcases finalized with ⟨claimedAt, publishedAt, member⟩
      rcases List.mem_append.mp member with old | new
      · rcases induction ⟨claimedAt, publishedAt, old⟩ with ⟨event, present, same, processed⟩
        have reachable : Reachable config current := ⟨now, records.run⟩
        exact ⟨event, (reachable.processed_kept taken present processed).1, same, processed⟩
      · by_cases own : ∃ choice, action = .perform worker choice
        · rcases own with ⟨choice, rfl⟩
          rcases Monitor.exchanged_perform taken with
            ⟨op, next, answer, shared, _, performed, reached, _, asked⟩
          rw [asked] at new
          cases List.mem_singleton.mp new
          rw [reached]
          exact perform_processed performed
        · rw [Monitor.exchanged_other fun choice same => own ⟨choice, same⟩] at new
          cases new

/-- A call isolates the failures inside its batch exactly when every failure can be marked, as
long as events of the batch are left. -/
def BatchesIsolated (Worker Payload : Type) [DecidableEq Worker] (config : OutboxConfig)
    (condition : Trace Payload → Prop) : Prop :=
  ∀ now worker trace current result,
    Monitor.Records (machine Worker Payload) worker (initial Worker Payload config now) trace current →
      current.program worker = .done result →
        (Trace.Isolated trace current.shared ↔ condition trace)

theorem batches_isolated (Worker Payload : Type) [DecidableEq Worker] (config : OutboxConfig) :
    BatchesIsolated Worker Payload config Trace.MarksFailures := by
  intro now worker trace current result records ended
  have follows := records.follows (records_processPendingEvents config)
  rw [ended] at follows
  constructor
  · exact fun isolated => follows.mp isolated.handed
  · exact fun marks => ⟨follows.mpr marks, processed_of_records records⟩

/-! ### A failure that cannot be marked -/

/-- The publish of the first of two events fails, and then the update that marks it. -/
def unmarkedSteps : List (Label ℕ Unit) :=
  let failing : Choice := { failure := some { message := "connection lost" } }
  [.environment (.create ⟨1⟩ "TRANSACTION_COMPLETED" () 0),
    .environment (.create ⟨2⟩ "TRANSACTION_COMPLETED" () 1), .perform 0 {},
    .perform 0 failing, .perform 0 {}, .perform 0 failing]

private theorem unmarked_ends :
    (Monitor.record (machine ℕ Unit) 0 (initial ℕ Unit {} 0) unmarkedSteps).any (fun final =>
      (final.2.program 0).finished && Trace.handed final.1 == [⟨1⟩] &&
        Trace.batch final.1 == [⟨1⟩, ⟨2⟩]) = true := by
  decide +kernel

theorem unmarked_failure : ¬BatchesIsolated ℕ Unit {} fun _ => True := by
  intro isolated
  rcases (Option.any_eq_true _ _).mp unmarked_ends with ⟨⟨trace, current⟩, recorded, passed⟩
  simp only [Bool.and_eq_true, beq_iff_eq] at passed
  rcases passed with ⟨⟨finished, handed⟩, batch⟩
  have records := Monitor.records_of_record .start recorded
  cases ended : current.program 0 with
  | call op next =>
      rw [ended] at finished
      cases finished
  | done result =>
      have both := ((isolated 0 0 _ current result records ended).mpr trivial).handed
      change Trace.handed trace = Trace.batch trace at both
      rw [handed, batch] at both
      cases both

end Runs

end BankingBackend.Outbox
