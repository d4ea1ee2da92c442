import BankingBackend.Calls.AuditTrail
import BankingBackend.System

/-! # The audit trail of the accounts

A call for accounts that fails should have changed nothing, and every account that was
created and every status that was changed should have its audit log. The change and its
audit log are two statements without a transaction around them.
-/

namespace BankingBackend

open Foundation Postgres Common Fraud Accounts

section Runs

variable {Thread : Type} [DecidableEq Thread] [Fintype Thread] {config : FraudConfig}
  {requests : Thread → Request} {current following : Configuration Thread}

def Quiescent (current : Configuration Thread) : Prop :=
  ∀ thread, current.begun thread = false ∨ ∃ result, current.program thread = .done result

/-- Calls that fail leave the accounts table as it was, and between calls the audit logs are
those of the changes that happened. -/
structure AuditTrail (config : FraudConfig) (requests : Thread → Request)
    (allowed : Configuration Thread → Label Thread → Prop) : Prop where
  unchanged : ∀ redis now current,
    Run step allowed (initial config requests redis now) current → ∀ thread error,
      (requests thread).params? = none → current.program thread = .done (.error error) →
        Unchanged thread current.shared.server.log
  corresponds : ∀ redis now current,
    Run step allowed (initial config requests redis now) current → Quiescent current →
      ((accountChanges current.shared.server.log).map Prod.snd).Perm
        (current.shared.server.database.auditLogs.map AuditLog.entry)

/-- No statement of a call for accounts fails once the call has changed the accounts table. -/
def FailsBefore (requests : Thread → Request) (current : Configuration Thread)
    (label : Label Thread) : Prop :=
  ∀ thread choice command next, label = .perform thread choice →
    current.program thread = .call command next →
    FailsUnchanged requests thread command choice current.shared.server

/-! ## Every step -/

structure Audited (requests : Thread → Request) (current : Configuration Thread) : Prop where
  issued : ∀ thread, (current.program thread).Only (Issued (requests thread))
  logged : Logged requests current.shared.server
  begun : ∀ commit ∈ current.shared.server.log, current.begun commit.thread = true
  tracks : Monitor.Tracks (fun _ => bookkeeping)
    (fun thread stage world => Tells requests thread stage world.server) (fun _ => Balanced) current

omit [Fintype Thread] in
theorem Tells.initial (thread : Thread) : Tells requests thread .before .initial where
  changes := rfl
  audits := rfl
  unchanged := by rintro _ _ _ ⟨⟩
  stands := by rintro _ ⟨⟩

omit [Fintype Thread] in
theorem Audited.initial (config : FraudConfig) (requests : Thread → Request)
    (redis : Redis.Store) (now : ℕ) :
    Audited requests (BankingBackend.initial config requests redis now) where
  issued thread := issued_handle config (requests thread)
  logged := Logged.initial
  begun := by rintro _ ⟨⟩
  tracks thread := ⟨.before, Tells.initial thread, obeys_handle config (requests thread)⟩

theorem Audited.step (audited : Audited requests current) {label : Label Thread}
    (allows : FailsBefore requests current label)
    (taken : BankingBackend.step current label = some following) : Audited requests following := by
  have tracks := audited.tracks.step (bookkeeping_shares requests) True.intro
    (fun thread choice command next acts program => by
      have issued := audited.issued thread
      rw [program] at issued
      exact ⟨audited.logged, issued.1, allows thread choice command next acts program⟩)
    (fun _ _ => True.intro) taken
  have issued := Machine.only_step taken audited.issued
  cases label with
  | environment event =>
      have same := step_environment_server taken
      rcases Machine.step_environment taken with ⟨shared, happened, rfl⟩
      exact ⟨issued, same ▸ audited.logged, same ▸ audited.begun, tracks⟩
  | perform thread choice =>
      rcases Machine.step_perform taken with ⟨command, next, answer, shared, program, performed, rfl⟩
      have own := audited.issued thread
      rw [program] at own
      have begun (commit : Postgres.Commit Thread) (old : commit ∈ current.shared.server.log) :
          Function.update current.begun thread true commit.thread = true := by
        by_cases mine : commit.thread = thread
        · rw [mine, Function.update_self]
        · rw [Function.update_of_ne mine]
          exact audited.begun commit old
      rcases perform_cases performed with ⟨_, same⟩ | ⟨statement, reply, rfl, performs⟩
      · exact ⟨issued, same ▸ audited.logged, same ▸ begun, tracks⟩
      · refine ⟨issued, audited.logged.performs own.1 performs, fun commit member => ?_, tracks⟩
        rcases performs.logs with ⟨log, _⟩ | ⟨tx, log, _, _⟩
        · exact begun commit (log ▸ member)
        · rw [log] at member
          rcases List.mem_append.mp member with old | new
          · exact begun commit old
          · rw [List.mem_singleton.mp new]
            exact Function.update_self _ _ _

theorem audited_of_run {redis : Redis.Store} {now : ℕ}
    (run : Run step (FailsBefore requests) (initial config requests redis now) current) :
    Audited requests current :=
  run.invariant _ (Audited.initial config requests redis now)
    fun _ _ _ audited allows taken => audited.step allows taken

omit [DecidableEq Thread] [Fintype Thread] in
theorem Balanced.settled {result : CallResult} {stage : Stage} (balanced : Balanced result stage) :
    stage.made = stage.written := by
  cases stage with
  | before | audited => rfl
  | owing entry =>
      cases result with
      | ok response => exact absurd rfl (balanced entry)
      | error error => cases balanced

omit [Fintype Thread] in
/-- What a call that is not running has made of the accounts, it has written audit logs about. -/
theorem Audited.entriesOf (audited : Audited requests current) {thread : Thread}
    (rests : current.begun thread = false ∨ ∃ result, current.program thread = .done result) :
    entriesOf thread (accountChanges current.shared.server.log) =
      entriesOf thread (auditEntries current.shared.server.log) := by
  rcases rests with fresh | ⟨result, ended⟩
  · have uncommitted : ∀ commit ∈ current.shared.server.log, commit.thread ≠ thread := by
      rintro commit member rfl
      rw [audited.begun commit member] at fresh
      cases fresh
    rcases entriesOf_uncommitted uncommitted with ⟨changes, audits⟩
    rw [changes, audits]
  · rcases audited.tracks thread with ⟨stage, tells, follows⟩
    rw [ended] at follows
    rw [tells.changes, tells.audits, Balanced.settled follows]

theorem audit_trail (config : FraudConfig) (requests : Thread → Request) :
    AuditTrail config requests (FailsBefore requests) where
  unchanged redis now current run thread error moneyless ended := by
    rcases (audited_of_run run).tracks thread with ⟨stage, tells, follows⟩
    rw [ended] at follows
    exact tells.unchanged follows moneyless
  corresponds redis now current run quiescent := by
    have audited := audited_of_run run
    have rows := auditEntries_rows .empty current.shared.server.log
    rw [audited.logged.replays] at rows
    rw [rows]
    exact (perm_of_entriesOf fun thread => audited.entriesOf (quiescent thread)).map Prod.snd

end Runs

/-! ## An audit log that cannot be written -/

def opening : Unit → Request := fun _ =>
  { userId := ⟨1⟩, operation := .createAccount ⟨.TRY⟩ }

/-- The account is created, and then the server cannot be reached. -/
def openingSteps : List (Label Unit) :=
  [act (), act () 7,
    .perform () { failure := some { code := none, message := "connection lost" } }]

/-- The call has failed and has changed the accounts table. -/
def createdByFailure (current : Configuration Unit) : Bool :=
  (match current.program () with
    | .done (.error _) => true
    | _ => false) &&
  (updates .empty current.shared.server.log).any fun update =>
    update.after.accounts.length != update.before.accounts.length

private theorem opening_leads : leadsTo {} opening openingSteps createdByFailure = true := by
  decide +kernel

theorem unaudited_account : ¬AuditTrail {} opening Unrestricted := by
  intro trail
  rcases exists_reachable opening_leads with ⟨current, ⟨redis, now, run⟩, passed⟩
  rw [createdByFailure, Bool.and_eq_true] at passed
  rcases passed with ⟨failed, changed⟩
  split at failed
  · rename_i error ended
    rcases List.any_eq_true.mp changed with ⟨update, member, longer⟩
    have same := trail.unchanged redis now current run () error rfl ended update member rfl
    rw [same] at longer
    simp at longer
  · cases failed

end BankingBackend
