import Mathlib.Data.List.Basic
import Mathlib.Logic.Function.Basic

/-! # Rows at READ COMMITTED

A row has a committed version and at most one that an open transaction has
written, which locks the row until that transaction ends. Statements see the
committed versions and those of their own transaction.
-/

namespace BankingBackend.Foundation

/-! ## One row -/

structure Cell (Transaction Row : Type) where
  committed : Option Row := none
  written : Option (Transaction × Row) := none

namespace Cell

variable {Transaction Row : Type} [DecidableEq Transaction]

def own (cell : Cell Transaction Row) (transaction : Transaction) : Option Row :=
  (cell.written.filter fun version => version.1 == transaction).map Prod.snd

def visible (cell : Cell Transaction Row) (transaction : Transaction) : Option Row :=
  (cell.own transaction).or cell.committed

def locked (cell : Cell Transaction Row) (transaction : Transaction) : Bool :=
  cell.written.any fun version => version.1 != transaction

def write (cell : Cell Transaction Row) (transaction : Transaction) (row : Row) :
    Cell Transaction Row :=
  { cell with written := some (transaction, row) }

def release (cell : Cell Transaction Row) (transaction : Transaction) : Cell Transaction Row :=
  { cell with written := cell.written.filter fun version => version.1 != transaction }

def commit (cell : Cell Transaction Row) (transaction : Transaction) : Cell Transaction Row :=
  { cell.release transaction with committed := cell.visible transaction }

section Lemmas

variable {cell : Cell Transaction Row} {transaction other : Transaction} {row : Row}

theorem own_eq_some : cell.own transaction = some row ↔ cell.written = some (transaction, row) := by
  unfold own
  cases cell.written with
  | none => simp
  | some version =>
      rcases version with ⟨writer, version⟩
      by_cases same : writer = transaction
      · simp [same]
      · simp [Option.filter, same]

theorem visible_of_own (mine : cell.own transaction = some row) :
    cell.visible transaction = some row := by
  simp [visible, mine]

theorem visible_of_own_none (nothing : cell.own transaction = none) :
    cell.visible transaction = cell.committed := by
  simp [visible, nothing]

@[simp] theorem own_write : (cell.write transaction row).own transaction = some row :=
  own_eq_some.mpr rfl

@[simp] theorem visible_write : (cell.write transaction row).visible transaction = some row :=
  visible_of_own own_write

omit [DecidableEq Transaction] in
@[simp] theorem committed_write : (cell.write transaction row).committed = cell.committed := rfl

@[simp] theorem committed_release : (cell.release transaction).committed = cell.committed := rfl

@[simp] theorem committed_commit :
    (cell.commit transaction).committed = cell.visible transaction := rfl

theorem own_write_other (different : other ≠ transaction) :
    (cell.write transaction row).own other = none := by
  simp [own, write, Option.filter, Ne.symm different]

@[simp] theorem own_release : (cell.release transaction).own transaction = none := by
  unfold own release
  cases cell.written with
  | none => rfl
  | some version =>
      by_cases same : version.1 = transaction
      · simp [Option.filter, same]
      · simp [Option.filter, same]

@[simp] theorem own_commit : (cell.commit transaction).own transaction = none := own_release

theorem own_release_other (different : other ≠ transaction) :
    (cell.release transaction).own other = cell.own other := by
  unfold own release
  cases cell.written with
  | none => rfl
  | some version =>
      by_cases same : version.1 = transaction
      · simp [Option.filter, same, Ne.symm different]
      · simp [Option.filter, same]

theorem own_commit_other (different : other ≠ transaction) :
    (cell.commit transaction).own other = cell.own other := own_release_other different

theorem own_of_unlocked (unlocked : cell.locked transaction = false) (different : other ≠ transaction) :
    cell.own other = none := by
  cases mine : cell.own other with
  | none => rfl
  | some row =>
      rw [own_eq_some] at mine
      simp [locked, mine, different] at unlocked

/-- Who finds the row locked sees the committed version. -/
theorem committed_of_locked (locked : cell.locked transaction = true) :
    cell.visible transaction = cell.committed := by
  refine visible_of_own_none ?_
  cases mine : cell.own transaction with
  | none => rfl
  | some row =>
      rw [own_eq_some] at mine
      simp [Cell.locked, mine] at locked

end Lemmas

end Cell

/-! ## Tables -/

/-- Only listed keys have rows. -/
structure Table (Transaction Key Row : Type) where
  keys : List Key
  cell : Key → Cell Transaction Row
  listed : ∀ key, cell key ≠ {} → key ∈ keys

inductive Update (Transaction Key Row : Type)
  | blocked
  | skipped
  | written (row : Row) (table : Table Transaction Key Row)

namespace Table

variable {Transaction Key Row : Type}

def empty : Table Transaction Key Row where
  keys := []
  cell _ := {}
  listed := by simp

def committed (table : Table Transaction Key Row) (key : Key) : Option Row :=
  (table.cell key).committed

def used (table : Table Transaction Key Row) (key : Key) : Bool :=
  (table.cell key).committed.isSome || (table.cell key).written.isSome

section Definitions

variable [DecidableEq Transaction] (table : Table Transaction Key Row) (transaction : Transaction)
  (key : Key)

def own : Option Row := (table.cell key).own transaction

def visible : Option Row := (table.cell key).visible transaction

def release : Table Transaction Key Row where
  keys := table.keys
  cell other := (table.cell other).release transaction
  listed := by
    intro other present
    refine table.listed other fun blank => present ?_
    rw [blank]
    rfl

def commit : Table Transaction Key Row where
  keys := table.keys
  cell other := (table.cell other).commit transaction
  listed := by
    intro other present
    refine table.listed other fun blank => present ?_
    rw [blank]
    rfl

/-- The keys of the rows that a statement of the transaction starts with. -/
def select (meets : Row → Bool) : List Key :=
  table.keys.filter fun key => (table.visible transaction key).any meets

def find? (meets : Row → Bool) : Option (Key × Row) :=
  table.keys.findSome? fun key =>
    ((table.visible transaction key).filter meets).map fun row => (key, row)

variable [DecidableEq Key]

def write (row : Row) : Table Transaction Key Row where
  keys := table.keys.insert key
  cell := Function.update table.cell key ((table.cell key).write transaction row)
  listed := by
    intro other present
    by_cases same : other = key
    · exact same ▸ List.mem_insert_self
    · rw [Function.update_of_ne same] at present
      exact List.mem_insert_of_mem (table.listed other present)

/-- A row that another transaction has written is waited for when its committed version
meets the condition. -/
def update (meets : Row → Bool) (change : Row → Row) : Update Transaction Key Row :=
  if (table.cell key).locked transaction then
    if (table.committed key).any meets then .blocked else .skipped
  else
    match table.visible transaction key with
    | some row =>
        if meets row then .written (change row) (table.write transaction key (change row))
        else .skipped
    | none => .skipped

end Definitions

section Lemmas

variable [DecidableEq Transaction] {table : Table Transaction Key Row}
  {transaction other : Transaction} {key : Key} {row : Row}

@[simp] theorem committed_release : (table.release transaction).committed = table.committed := rfl

@[simp] theorem committed_commit :
    (table.commit transaction).committed = table.visible transaction := rfl

@[simp] theorem own_release : (table.release transaction).own transaction key = none :=
  Cell.own_release

@[simp] theorem own_commit : (table.commit transaction).own transaction key = none :=
  Cell.own_commit

theorem own_release_other (different : other ≠ transaction) :
    (table.release transaction).own other key = table.own other key :=
  Cell.own_release_other different

theorem own_commit_other (different : other ≠ transaction) :
    (table.commit transaction).own other key = table.own other key :=
  Cell.own_commit_other different

theorem visible_of_own (mine : table.own transaction key = some row) :
    table.visible transaction key = some row := Cell.visible_of_own mine

theorem visible_of_own_none (nothing : table.own transaction key = none) :
    table.visible transaction key = table.committed key := Cell.visible_of_own_none nothing

theorem visible_release_other (different : other ≠ transaction) :
    (table.release transaction).visible other key = table.visible other key := by
  unfold visible Cell.visible
  rw [show ((table.release transaction).cell key).own other = (table.cell key).own other from
    own_release_other different]
  rfl

/-- A commit shows its rows to the transactions that have not written them. -/
theorem visible_commit_of_own_none (different : other ≠ transaction)
    (nothing : table.own other key = none) :
    (table.commit transaction).visible other key = table.visible transaction key :=
  Cell.visible_of_own_none ((own_commit_other different).trans nothing)

theorem own_unique {version : Row} (mine : table.own transaction key = some row)
    (theirs : table.own other key = some version) : transaction = other := by
  rw [own, Cell.own_eq_some] at mine theirs
  rw [mine] at theirs
  cases theirs
  rfl

theorem find?_spec {meets : Row → Bool} {found : Key × Row}
    (finds : table.find? transaction meets = some found) :
    table.visible transaction found.1 = some found.2 ∧ meets found.2 = true := by
  rcases List.exists_of_findSome?_eq_some finds with ⟨key, _, produced⟩
  rcases Option.map_eq_some_iff.mp produced with ⟨row, kept, rfl⟩
  exact Option.filter_eq_some_iff.mp kept

theorem mem_keys (present : table.visible transaction key = some row) : key ∈ table.keys := by
  refine table.listed key fun blank => ?_
  rw [visible, blank] at present
  cases present

theorem mem_select {meets : Row → Bool} : key ∈ table.select transaction meets ↔
    ∃ row, table.visible transaction key = some row ∧ meets row = true := by
  rw [select, List.mem_filter, Option.any_eq_true]
  refine ⟨And.right, fun found => ⟨?_, found⟩⟩
  rcases found with ⟨row, present, _⟩
  exact mem_keys present

variable [DecidableEq Key]

omit [DecidableEq Transaction] in
@[simp] theorem committed_write :
    (table.write transaction key row).committed = table.committed := by
  funext another
  by_cases same : another = key
  · subst another
    simp [committed, write]
  · simp [committed, write, same]

theorem write_own (row : Row) (other : Transaction) (another : Key)
    (unlocked : ∀ other, other ≠ transaction → table.own other key = none) :
    (table.write transaction key row).own other another =
      if other = transaction ∧ another = key then some row else table.own other another := by
  by_cases same : another = key
  · subst another
    by_cases equal : other = transaction
    · simp [own, write, equal]
    · rw [if_neg (by simp [equal]), unlocked other equal]
      simp [own, write, Cell.own_write_other equal]
  · simp [own, write, same]

theorem write_visible (row : Row) (other : Transaction) (another : Key)
    (unlocked : ∀ other, other ≠ transaction → table.own other key = none) :
    (table.write transaction key row).visible other another =
      if other = transaction ∧ another = key then some row else table.visible other another := by
  have own := write_own row other another unlocked
  have committed : (table.write transaction key row).committed another = table.committed another :=
    congrFun committed_write another
  show ((table.write transaction key row).own other another).or
    ((table.write transaction key row).committed another) = _
  rw [own, committed]
  split
  · rfl
  · rfl

omit [DecidableEq Key] in
theorem own_of_not_used (free : table.used key = false) (other : Transaction) :
    table.own other key = none ∧ table.committed key = none := by
  simp only [used, Bool.or_eq_false_iff, Option.isSome_eq_false_iff, Option.isNone_iff_eq_none]
    at free
  exact ⟨by simp [own, Cell.own, free.2], free.1⟩

theorem update_written {meets : Row → Bool} {change : Row → Row} {after : Table Transaction Key Row}
    (updates : table.update transaction key meets change = .written row after) :
    (∀ other, other ≠ transaction → table.own other key = none) ∧
      ∃ before, table.visible transaction key = some before ∧ meets before = true ∧
        row = change before ∧ after = table.write transaction key row := by
  unfold update at updates
  split at updates
  · split at updates <;> cases updates
  · rename_i unlocked
    refine ⟨fun other different => Cell.own_of_unlocked (by simpa using unlocked) different, ?_⟩
    split at updates
    · rename_i before present
      split at updates
      · rename_i met
        cases updates
        exact ⟨before, present, met, rfl, rfl⟩
      · cases updates
    · cases updates

/-- An update that writes nothing finds no version that meets its condition. -/
theorem update_skipped {meets : Row → Bool} {change : Row → Row}
    (skips : table.update transaction key meets change = .skipped)
    (present : table.visible transaction key = some row) : meets row = false := by
  unfold update at skips
  split at skips
  · rename_i locked
    split at skips
    · cases skips
    · rename_i unmet
      have committed : table.committed key = some row :=
        (Cell.committed_of_locked locked).symm.trans present
      simpa [committed] using unmet
  · split at skips
    · rename_i found visible
      split at skips
      · cases skips
      · rename_i unmet
        rw [visible] at present
        cases present
        simpa using unmet
    · rename_i absent
      rw [absent] at present
      cases present

end Lemmas

end Table

end BankingBackend.Foundation
