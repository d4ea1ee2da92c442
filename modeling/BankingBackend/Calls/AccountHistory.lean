import BankingBackend.Calls.Lifecycle
import Mathlib.Data.List.Dedup

/-! # The history of the accounts

The log of committed transactions tells which accounts were created and which
statuses were changed, by which call, and which audit logs were written.
-/

namespace BankingBackend

open Foundation Postgres Common Transactions Accounts

/-! ## Entries -/

structure AccountEntry where
  action : AuditAction
  customerId : Uuid
  entityId : Uuid
  deriving DecidableEq

def Postgres.AuditLog.entry (auditLog : AuditLog) : AccountEntry where
  action := auditLog.action
  customerId := auditLog.customerId
  entityId := auditLog.entityId

def actionOf : AccountStatus → AuditAction
  | .active => .accountUnfreeze
  | .frozen => .accountFreeze
  | .closed => .accountClose

def changed (before after : Database) (id : Uuid) : Option AccountEntry :=
  match before.standing? id, after.standing? id with
  | none, some created => some ⟨.accountCreate, created.customerId, id⟩
  | some earlier, some later =>
      if earlier.status = later.status then none
      else some ⟨actionOf later.status, later.customerId, id⟩
  | _, none => none

def changes (before after : Database) : List AccountEntry :=
  (after.accounts.map Account.id).dedup.filterMap (changed before after)

section Changes

variable {before after : Database} {id : Uuid}

theorem mem_ids {standing : Standing} (found : after.standing? id = some standing) :
    id ∈ (after.accounts.map Account.id).dedup := by
  rcases Option.map_eq_some_iff.mp found with ⟨account, present, _⟩
  rw [List.mem_dedup, List.mem_map]
  exact ⟨account, List.mem_of_find?_eq_some present, Database.account?_id present⟩

theorem changed_created {created : Standing} (absent : before.standing? id = none)
    (found : after.standing? id = some created) :
    changed before after id = some ⟨.accountCreate, created.customerId, id⟩ := by
  unfold changed
  rw [absent, found]

theorem changed_set {earlier later : Standing} (present : before.standing? id = some earlier)
    (found : after.standing? id = some later) (differs : earlier.status ≠ later.status) :
    changed before after id = some ⟨actionOf later.status, later.customerId, id⟩ := by
  unfold changed
  rw [present, found]
  exact if_neg differs

theorem changes_of_same (same : ∀ key, after.standing? key = before.standing? key) :
    changes before after = [] := by
  refine List.filterMap_eq_nil_iff.mpr fun key member => ?_
  unfold changed
  rw [same]
  cases before.standing? key with
  | none => rfl
  | some standing => exact if_pos rfl

theorem filterMap_single {α β : Type} {items : List α} {count : α → Option β} {key : α} {value : β}
    (distinct : items.Nodup) (member : key ∈ items) (counts : count key = some value)
    (others : ∀ item, item ≠ key → count item = none) : items.filterMap count = [value] := by
  induction items with
  | nil => cases member
  | cons item rest induction =>
      rcases List.nodup_cons.mp distinct with ⟨absent, distinct⟩
      rcases List.mem_cons.mp member with rfl | member
      · rw [List.filterMap_cons_some counts, List.cons.injEq]
        refine ⟨rfl, List.filterMap_eq_nil_iff.mpr fun other found => others other ?_⟩
        rintro rfl
        exact absent found
      · have different : item ≠ key := by
          rintro rfl
          exact absent member
        rw [List.filterMap_cons_none (others item different)]
        exact induction distinct member

theorem changes_of_one {standing : Standing} {entry : AccountEntry}
    (updates : ∀ key, after.standing? key =
      if key = id then some standing else before.standing? key)
    (counts : changed before after id = some entry) : changes before after = [entry] := by
  refine filterMap_single (List.nodup_dedup _) (mem_ids ((updates id).trans (if_pos rfl))) counts ?_
  intro key different
  unfold changed
  rw [updates, if_neg different]
  cases before.standing? key with
  | none => rfl
  | some standing => exact if_pos rfl

end Changes

/-! ## The log -/

section Log

variable {Thread : Type}

structure Update (Thread : Type) where
  thread : Thread
  before : Database
  after : Database

def replayed (database : Database) (log : List (Postgres.Commit Thread)) : Database :=
  log.foldl (fun database commit => commit.tx.applyTo database) database

def updates (database : Database) : List (Postgres.Commit Thread) → List (Update Thread)
  | [] => []
  | commit :: rest =>
      ⟨commit.thread, database, commit.tx.applyTo database⟩ ::
        updates (commit.tx.applyTo database) rest

theorem updates_append (database : Database) (log : List (Postgres.Commit Thread))
    (commit : Postgres.Commit Thread) :
    updates database (log ++ [commit]) = updates database log ++
      [⟨commit.thread, replayed database log, commit.tx.applyTo (replayed database log)⟩] := by
  induction log generalizing database with
  | nil => rfl
  | cons first rest induction =>
      rw [List.cons_append, updates, induction]
      rfl

theorem exists_commit_of_mem_updates {database : Database} {log : List (Postgres.Commit Thread)}
    {update : Update Thread} (member : update ∈ updates database log) :
    ∃ commit ∈ log, commit.thread = update.thread := by
  induction log generalizing database with
  | nil => cases member
  | cons commit rest induction =>
      rcases List.mem_cons.mp member with rfl | later
      · exact ⟨commit, List.mem_cons_self, rfl⟩
      · rcases induction later with ⟨other, found, same⟩
        exact ⟨other, List.mem_cons_of_mem _ found, same⟩

/-- Every creation and every status change that happened, with its call. -/
def accountChanges (log : List (Postgres.Commit Thread)) : List (Thread × AccountEntry) :=
  (updates .empty log).flatMap fun update =>
    (changes update.before update.after).map fun entry => (update.thread, entry)

def auditEntries (log : List (Postgres.Commit Thread)) : List (Thread × AccountEntry) :=
  log.flatMap fun commit => commit.tx.auditLogs.map fun auditLog => (commit.thread, auditLog.entry)

def Unchanged (thread : Thread) (log : List (Postgres.Commit Thread)) : Prop :=
  ∀ update ∈ updates .empty log, update.thread = thread →
    update.after.accounts = update.before.accounts

variable {log : List (Postgres.Commit Thread)} {commit : Postgres.Commit Thread} {thread : Thread}

theorem accountChanges_append : accountChanges (log ++ [commit]) = accountChanges log ++
    (changes (replayed .empty log) (commit.tx.applyTo (replayed .empty log))).map
      fun entry => (commit.thread, entry) := by
  simp [accountChanges, updates_append]

theorem auditEntries_append : auditEntries (log ++ [commit]) = auditEntries log ++
    commit.tx.auditLogs.map fun auditLog => (commit.thread, auditLog.entry) := by
  simp [auditEntries]

/-- The audit logs that have been written are the rows of the table. -/
theorem auditEntries_rows (database : Database) (log : List (Postgres.Commit Thread)) :
    (replayed database log).auditLogs.map AuditLog.entry =
      database.auditLogs.map AuditLog.entry ++ (auditEntries log).map Prod.snd := by
  induction log generalizing database with
  | nil => exact (List.append_nil _).symm
  | cons commit rest induction =>
      have applied := induction (commit.tx.applyTo database)
      have entries : (auditEntries (commit :: rest)).map Prod.snd =
          commit.tx.auditLogs.map AuditLog.entry ++ (auditEntries rest).map Prod.snd := by
        simp [auditEntries]
      rw [entries, ← List.append_assoc, ← List.map_append]
      exact applied

theorem Unchanged.append (unchanged : Unchanged thread log)
    (keeps : commit.thread = thread →
      (commit.tx.applyTo (replayed .empty log)).accounts = (replayed .empty log).accounts) :
    Unchanged thread (log ++ [commit]) := by
  intro update member mine
  rw [updates_append] at member
  rcases List.mem_append.mp member with earlier | new
  · exact unchanged update earlier mine
  · rw [List.mem_singleton.mp new] at mine ⊢
    exact keeps mine

end Log

/-! ### Entries of one call -/

section Threads

variable {Thread : Type} [DecidableEq Thread]

def entriesOf (thread : Thread) (entries : List (Thread × AccountEntry)) :
    List (Thread × AccountEntry) :=
  entries.filter fun entry => entry.1 = thread

theorem entriesOf_append (thread : Thread) (first second : List (Thread × AccountEntry)) :
    entriesOf thread (first ++ second) = entriesOf thread first ++ entriesOf thread second :=
  List.filter_append ..

theorem entriesOf_own (thread : Thread) (entries : List AccountEntry) :
    entriesOf thread (entries.map fun entry => (thread, entry)) =
      entries.map fun entry => (thread, entry) := by
  simp [entriesOf]

theorem entriesOf_other {thread other : Thread} (different : other ≠ thread)
    (entries : List AccountEntry) :
    entriesOf thread (entries.map fun entry => (other, entry)) = [] := by
  simp [entriesOf, different]

theorem Unchanged.entriesOf {log : List (Postgres.Commit Thread)} {thread : Thread}
    (unchanged : Unchanged thread log) : entriesOf thread (accountChanges log) = [] := by
  refine List.filter_eq_nil_iff.mpr fun entry member => ?_
  rcases List.mem_flatMap.mp member with ⟨update, logged, listed⟩
  rcases List.mem_map.mp listed with ⟨change, counted, rfl⟩
  intro mine
  have same := unchanged update logged (of_decide_eq_true mine)
  rw [changes_of_same fun key => by rw [Database.standing?, Database.account?, same]; rfl] at counted
  cases counted

theorem entriesOf_uncommitted {log : List (Postgres.Commit Thread)} {thread : Thread}
    (uncommitted : ∀ commit ∈ log, commit.thread ≠ thread) :
    entriesOf thread (accountChanges log) = [] ∧ entriesOf thread (auditEntries log) = [] := by
  have unchanged : Unchanged thread log := by
    intro update member mine
    rcases exists_commit_of_mem_updates member with ⟨commit, logged, same⟩
    exact absurd (same.trans mine) (uncommitted commit logged)
  refine ⟨unchanged.entriesOf, List.filter_eq_nil_iff.mpr fun entry member => ?_⟩
  rcases List.mem_flatMap.mp member with ⟨commit, logged, listed⟩
  rcases List.mem_map.mp listed with ⟨auditLog, _, rfl⟩
  simpa using uncommitted commit logged

/-- Entries that correspond for every call correspond. -/
theorem perm_of_entriesOf {first second : List (Thread × AccountEntry)}
    (same : ∀ thread, entriesOf thread first = entriesOf thread second) : first.Perm second := by
  refine List.perm_iff_count.mpr fun entry => ?_
  have counts (entries : List (Thread × AccountEntry)) :
      (entriesOf entry.1 entries).count entry = entries.count entry :=
    List.count_filter (by simp)
  rw [← counts first, ← counts second, same]

end Threads

end BankingBackend
