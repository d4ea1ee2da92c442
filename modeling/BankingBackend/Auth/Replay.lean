import BankingBackend.Auth.Requests

/-! # The log replays to the rows

However the statements of several transactions interleave, the committed rows are
those that the committed changes give one after another, each of which applies to
what the earlier ones left.
-/

namespace BankingBackend.Auth

open Foundation
open Postgres (Uuid DatabaseError)

/-! ## Changes of one row -/

namespace Change

variable (id : Uuid)

/-- The customer after the change, which may be about another row. -/
def customerAt (row : Option Customer) (change : Change) : Option (Option Customer) :=
  if change.customer? = some id then (change.onCustomer row).map some else some row

def tokenAt (row : Option RefreshToken) (change : Change) : Option (Option RefreshToken) :=
  if change.token? = some id then (change.onToken row).map some else some row

end Change

def Rows.Replays (changes : List Change) (before after : Rows) : Prop :=
  changes.foldlM Change.apply before = some after

section Changes

variable {change : Change} {changes more : List Change} {before between after : Rows}

theorem Change.one_row (change : Change) :
    (∃ id, change.customer? = some id ∧ change.token? = none) ∨
      ∃ id, change.customer? = none ∧ change.token? = some id := by
  cases change
  all_goals first
    | exact .inl ⟨_, rfl, rfl⟩
    | exact .inr ⟨_, rfl, rfl⟩

theorem Change.token?_of_customer {id : Uuid} (about : change.customer? = some id) :
    change.token? = none := by
  rcases change.one_row with ⟨_, _, token⟩ | ⟨_, customer, _⟩
  · exact token
  · rw [customer] at about
    cases about

theorem Change.customer?_of_token {id : Uuid} (about : change.token? = some id) :
    change.customer? = none := by
  rcases change.one_row with ⟨_, _, token⟩ | ⟨_, customer, _⟩
  · rw [token] at about
    cases about
  · exact customer

theorem update_iff {Key Row : Type} [DecidableEq Key] {rows result : Key → Option Row} {key : Key}
    {change : Option Row → Option Row} :
    (∃ row, change (rows key) = some row ∧ Function.update rows key (some row) = result) ↔
      ∀ id, (if key = id then (change (rows id)).map some else some (rows id)) =
        some (result id) := by
  constructor
  · rintro ⟨row, applies, rfl⟩ id
    by_cases same : key = id
    · subst same
      simp [applies]
    · simp [same, Ne.symm same]
  · intro each
    have own := each key
    rw [if_pos rfl, Option.map_eq_some_iff] at own
    rcases own with ⟨row, applies, becomes⟩
    refine ⟨row, applies, funext fun id => ?_⟩
    by_cases same : id = key
    · subst same
      simpa using becomes
    · have other := each id
      rw [if_neg (Ne.symm same), Option.some.injEq] at other
      simpa [same] using other

theorem Change.apply_eq_some : change.apply before = some after ↔
    (∀ id, change.customerAt id (before.customers id) = some (after.customers id)) ∧
      ∀ id, change.tokenAt id (before.tokens id) = some (after.tokens id) := by
  rcases before with ⟨customers, tokens⟩
  rcases after with ⟨customersAfter, tokensAfter⟩
  rcases change.one_row with ⟨key, customer, token⟩ | ⟨key, customer, token⟩
  · simp only [apply, customerAt, tokenAt, customer, token, Option.some.injEq, reduceCtorEq,
      if_false, ← update_iff, ← funext_iff, Option.map_eq_some_iff, Rows.mk.injEq]
    constructor
    · rintro ⟨row, applies, becomes, same⟩
      exact ⟨⟨row, applies, becomes⟩, same⟩
    · rintro ⟨⟨row, applies, becomes⟩, same⟩
      exact ⟨row, applies, becomes, same⟩
  · simp only [apply, customerAt, tokenAt, customer, token, Option.some.injEq, reduceCtorEq,
      if_false, ← update_iff, ← funext_iff, Option.map_eq_some_iff, Rows.mk.injEq]
    constructor
    · rintro ⟨row, applies, same, becomes⟩
      exact ⟨same, row, applies, becomes⟩
    · rintro ⟨same, row, applies, becomes⟩
      exact ⟨row, applies, same, becomes⟩

/-- Each row follows the changes that are about it. -/
theorem Rows.replays_iff : Rows.Replays changes before after ↔
    (∀ id, changes.foldlM (Change.customerAt id) (before.customers id) =
      some (after.customers id)) ∧
      ∀ id, changes.foldlM (Change.tokenAt id) (before.tokens id) = some (after.tokens id) := by
  induction changes generalizing before with
  | nil =>
      rcases before with ⟨customers, tokens⟩
      rcases after with ⟨customersAfter, tokensAfter⟩
      simp [Rows.Replays, funext_iff]
  | cons change rest induction =>
      simp only [Rows.Replays, List.foldlM_cons, Option.bind_eq_bind, Option.bind_eq_some_iff]
      constructor
      · rintro ⟨between, applies, follow⟩
        rw [Change.apply_eq_some] at applies
        rw [← Rows.Replays, induction] at follow
        exact ⟨fun id => ⟨_, applies.1 id, follow.1 id⟩, fun id => ⟨_, applies.2 id, follow.2 id⟩⟩
      · rintro ⟨customers, tokens⟩
        choose customersBetween customersApply customersFollow using customers
        choose tokensBetween tokensApply tokensFollow using tokens
        refine ⟨⟨customersBetween, tokensBetween⟩, ?_, ?_⟩
        · exact Change.apply_eq_some.mpr ⟨customersApply, tokensApply⟩
        · exact induction.mpr ⟨customersFollow, tokensFollow⟩

theorem Rows.replays_nil : Rows.Replays [] before after ↔ before = after := by
  simp [Rows.Replays]

theorem Rows.replays_append : Rows.Replays (changes ++ more) before after ↔
    ∃ between, Rows.Replays changes before between ∧ Rows.Replays more between after := by
  simp [Rows.Replays, List.foldlM_append, Option.bind_eq_some_iff]

theorem Rows.replays_singleton : Rows.Replays [change] before after ↔
    change.apply before = some after := by
  simp [Rows.Replays]

theorem foldlM_customerAt_of_none {id : Uuid} (row : Option Customer)
    (untouched : ∀ change ∈ changes, change.customer? ≠ some id) :
    changes.foldlM (Change.customerAt id) row = some row := by
  induction changes with
  | nil => rfl
  | cons change rest induction =>
      rw [List.foldlM_cons, Change.customerAt, if_neg (untouched change (.head _))]
      exact induction fun other member => untouched other (.tail _ member)

theorem foldlM_tokenAt_of_none {id : Uuid} (row : Option RefreshToken)
    (untouched : ∀ change ∈ changes, change.token? ≠ some id) :
    changes.foldlM (Change.tokenAt id) row = some row := by
  induction changes with
  | nil => rfl
  | cons change rest induction =>
      rw [List.foldlM_cons, Change.tokenAt, if_neg (untouched change (.head _))]
      exact induction fun other member => untouched other (.tail _ member)

end Changes

/-! ## Open transactions -/

section Servers

variable {Thread : Type} [DecidableEq Thread]

/-- What a transaction has changed: its locked rows are the changed ones, and it sees the
committed rows with its changes applied to them. -/
structure Server.Pending (server : Server Thread) (thread : Thread) (changes : List Change) :
    Prop where
  replays : Rows.Replays changes server.rows (server.view thread)
  customers : ∀ id, (server.customers.own thread id).isSome = true ↔
    ∃ change ∈ changes, change.customer? = some id
  tokens : ∀ id, (server.tokens.own thread id).isSome = true ↔
    ∃ change ∈ changes, change.token? = some id

def Server.changes (server : Server Thread) (thread : Thread) : List Change :=
  ((server.open_ thread).map Transaction.changes).getD []

/-- Each commit starts with the rows the ones before it left. -/
def Logged : List (Commit Thread) → Rows → Prop
  | [], rows => rows = .empty
  | commit :: older, rows => commit.after = rows ∧
      Rows.Replays commit.changes commit.before commit.after ∧ Logged older commit.before

structure Server.Coherent (server : Server Thread) : Prop where
  pending : ∀ thread, server.Pending thread (server.changes thread)
  logged : Logged server.log server.rows

variable {server base after : Server Thread} {thread other : Thread} {changes more : List Change}
  {change : Change}

theorem Server.Coherent.initial : (Server.initial : Server Thread).Coherent where
  pending thread :=
    { replays := Rows.replays_nil.mpr rfl
      customers := by simp [Server.initial, Server.changes, Table.own, Table.empty, Cell.own]
      tokens := by simp [Server.initial, Server.changes, Table.own, Table.empty, Cell.own] }
  logged := rfl

/-! ### Writing a row -/

structure Server.Writes (before base : Server Thread) (thread : Thread) (change : Change) :
    Prop where
  applies : change.apply (before.view thread) = some (base.view thread)
  rows : base.rows = before.rows
  customers : ∀ other id, (base.customers.own other id).isSome = true ↔
    (before.customers.own other id).isSome = true ∨ other = thread ∧ change.customer? = some id
  tokens : ∀ other id, (base.tokens.own other id).isSome = true ↔
    (before.tokens.own other id).isSome = true ∨ other = thread ∧ change.token? = some id
  view : ∀ other, other ≠ thread → base.view other = before.view other
  open_ : base.open_ = before.open_
  events : base.events = before.events
  log : base.log = before.log
  seen : base.seen = before.seen
  selected : base.selected = before.selected

theorem writes_customers {id : Uuid} {row : Customer}
    (unlocked : ∀ other, other ≠ thread → server.customers.own other id = none)
    (about : change.customer? = some id)
    (applies : change.onCustomer (server.customers.visible thread id) = some row) :
    server.Writes { server with customers := server.customers.write thread id row } thread
      change where
  applies := by
    have others := Change.token?_of_customer about
    have seen : (server.customers.write thread id row).visible thread =
        Function.update (server.customers.visible thread) id (some row) := by
      funext another
      rw [Table.write_visible row thread another unlocked]
      by_cases same : another = id
      · simp [same]
      · simp [same]
    simp [Change.apply, about, others, Server.view, applies, seen]
  rows := by simp [Server.rows]
  customers other another := by
    simp only [Table.write_own row other another unlocked, about, Option.some.injEq]
    by_cases same : other = thread ∧ another = id
    · simp [same]
    · rw [if_neg same, iff_self_or]
      rintro ⟨mine, rfl⟩
      exact absurd ⟨mine, rfl⟩ same
  tokens other another := by
    have others := Change.token?_of_customer about
    simp [others]
  view other different := by
    simp only [Server.view, Rows.mk.injEq, and_true]
    funext another
    rw [Table.write_visible row other another unlocked, if_neg fun both => different both.1]
  open_ := rfl
  events := rfl
  log := rfl
  seen := rfl
  selected := rfl

theorem writes_tokens {id : Uuid} {row : RefreshToken}
    (unlocked : ∀ other, other ≠ thread → server.tokens.own other id = none)
    (about : change.token? = some id)
    (applies : change.onToken (server.tokens.visible thread id) = some row) :
    server.Writes { server with tokens := server.tokens.write thread id row } thread
      change where
  applies := by
    have others := Change.customer?_of_token about
    have seen : (server.tokens.write thread id row).visible thread =
        Function.update (server.tokens.visible thread) id (some row) := by
      funext another
      rw [Table.write_visible row thread another unlocked]
      by_cases same : another = id
      · simp [same]
      · simp [same]
    simp [Change.apply, about, others, Server.view, applies, seen]
  rows := by simp [Server.rows]
  tokens other another := by
    simp only [Table.write_own row other another unlocked, about, Option.some.injEq]
    by_cases same : other = thread ∧ another = id
    · simp [same]
    · rw [if_neg same, iff_self_or]
      rintro ⟨mine, rfl⟩
      exact absurd ⟨mine, rfl⟩ same
  customers other another := by
    have others := Change.customer?_of_token about
    simp [others]
  view other different := by
    simp only [Server.view, Rows.mk.injEq, true_and]
    funext another
    rw [Table.write_visible row other another unlocked, if_neg fun both => different both.1]
  open_ := rfl
  events := rfl
  log := rfl
  seen := rfl
  selected := rfl

theorem Server.Pending.writes (pending : server.Pending thread changes)
    (writes : server.Writes base thread change) : base.Pending thread (changes ++ [change]) where
  replays := by
    rw [writes.rows]
    exact Rows.replays_append.mpr ⟨_, pending.replays, Rows.replays_singleton.mpr writes.applies⟩
  customers id := by simp [writes.customers, pending.customers, or_and_right, exists_or]
  tokens id := by simp [writes.tokens, pending.tokens, or_and_right, exists_or]

theorem Server.Pending.writes_other (pending : server.Pending other changes)
    (writes : server.Writes base thread change) (different : other ≠ thread) :
    base.Pending other changes where
  replays := by
    rw [writes.rows, writes.view other different]
    exact pending.replays
  customers id := by simp [writes.customers, pending.customers, different]
  tokens id := by simp [writes.tokens, pending.tokens, different]

theorem Server.writes_changes (writes : server.Writes base thread change) (other : Thread) :
    base.changes other = server.changes other := by
  rw [changes, changes, writes.open_]

/-! ### Ending a transaction -/

theorem own_none_of_other {Row : Type} {table : Table Thread Uuid Row} {id : Uuid} {row : Row}
    (mine : table.own thread id = some row) (different : other ≠ thread) :
    table.own other id = none := by
  cases theirs : table.own other id with
  | none => rfl
  | some version => exact absurd (Table.own_unique theirs mine) different

theorem Server.Pending.rollback (server : Server Thread) (thread : Thread) :
    (server.rollback thread).Pending thread [] where
  replays := by
    refine Rows.replays_nil.mpr ?_
    simp only [rows, view, Server.rollback, Rows.mk.injEq]
    exact ⟨funext fun id => (Table.visible_of_own_none Table.own_release).symm,
      funext fun id => (Table.visible_of_own_none Table.own_release).symm⟩
  customers id := by simp [Server.rollback]
  tokens id := by simp [Server.rollback]

theorem Server.Pending.rollback_other (pending : server.Pending other changes)
    (different : other ≠ thread) : (server.rollback thread).Pending other changes where
  replays := by
    have same : (server.rollback thread).view other = server.view other := by
      simp only [view, Server.rollback, Rows.mk.injEq]
      exact ⟨funext fun id => Table.visible_release_other different,
        funext fun id => Table.visible_release_other different⟩
    rw [same]
    exact pending.replays
  customers id := by
    simpa [Server.rollback, Table.own_release_other different] using pending.customers id
  tokens id := by
    simpa [Server.rollback, Table.own_release_other different] using pending.tokens id

theorem Server.Pending.commit (server : Server Thread) (thread : Thread) (now : ℕ)
    (transaction : Transaction) :
    (server.commit thread now transaction).Pending thread [] where
  replays := by
    refine Rows.replays_nil.mpr ?_
    simp only [rows, view, Server.commit, Rows.mk.injEq]
    exact ⟨funext fun id => (Table.visible_of_own_none Table.own_commit).symm,
      funext fun id => (Table.visible_of_own_none Table.own_commit).symm⟩
  customers id := by simp [Server.commit]
  tokens id := by simp [Server.commit]

/-- What the changes of another transaction make of a row does not depend on the commit. -/
theorem fold_commit {Row : Type} {table : Table Thread Uuid Row} {id : Uuid}
    {fold : Option Row → Option (Option Row)} (different : other ≠ thread)
    (replays : fold (table.committed id) = some (table.visible other id))
    (untouched : table.own other id = none → ∀ row, fold row = some row) :
    fold (table.visible thread id) = some ((table.commit thread).visible other id) := by
  cases mine : table.own other id with
  | some row =>
      have locked := own_none_of_other mine (Ne.symm different)
      have kept : (table.commit thread).own other id = some row :=
        (Table.own_commit_other different).trans mine
      rw [Table.visible_of_own_none locked, replays, Table.visible_of_own mine,
        Table.visible_of_own kept]
  | none =>
      rw [untouched mine, Table.visible_commit_of_own_none different mine]

theorem Server.Pending.commit_other {transaction : Transaction} {now : ℕ}
    (pending : server.Pending other changes) (different : other ≠ thread) :
    (server.commit thread now transaction).Pending other changes where
  replays := by
    have replays := Rows.replays_iff.mp pending.replays
    refine Rows.replays_iff.mpr ⟨fun id => ?_, fun id => ?_⟩
    · refine fold_commit different (replays.1 id) fun nothing row =>
        foldlM_customerAt_of_none row fun change member about => ?_
      simpa [nothing] using (pending.customers id).mpr ⟨change, member, about⟩
    · refine fold_commit different (replays.2 id) fun nothing row =>
        foldlM_tokenAt_of_none row fun change member about => ?_
      simpa [nothing] using (pending.tokens id).mpr ⟨change, member, about⟩
  customers id := by simpa [Server.commit, Table.own_commit_other different] using pending.customers id
  tokens id := by simpa [Server.commit, Table.own_commit_other different] using pending.tokens id

theorem Server.Pending.of_tables (pending : server.Pending thread changes)
    (customers : after.customers = server.customers) (tokens : after.tokens = server.tokens) :
    after.Pending thread changes where
  replays := by
    rw [show after.rows = server.rows by rw [rows, customers, tokens]; rfl,
      show after.view thread = server.view thread by rw [view, customers, tokens]; rfl]
    exact pending.replays
  customers id := by rw [customers, pending.customers]
  tokens id := by rw [tokens, pending.tokens]

/-! ### Keeping the log -/

theorem Server.Coherent.of_tables (coherent : server.Coherent)
    (customers : after.customers = server.customers) (tokens : after.tokens = server.tokens)
    (changes : ∀ thread, after.changes thread = server.changes thread)
    (log : after.log = server.log) : after.Coherent where
  pending thread := by
    rw [changes]
    exact (coherent.pending thread).of_tables customers tokens
  logged := by
    rw [log, rows, customers, tokens]
    exact coherent.logged

theorem coherent_commit {transaction : Transaction} {now : ℕ}
    (pending : server.Pending thread transaction.changes)
    (others : ∀ other, other ≠ thread → server.Pending other (server.changes other))
    (logged : Logged server.log server.rows) :
    (server.commit thread now transaction).Coherent where
  pending other := by
    by_cases same : other = thread
    · subst other
      simpa [Server.changes, Server.commit] using .commit server thread now transaction
    · have kept : (server.commit thread now transaction).changes other = server.changes other := by
        simp [Server.changes, Server.commit, same]
      rw [kept]
      exact (others other same).commit_other same
  logged := ⟨rfl, pending.replays, logged⟩

theorem Server.Coherent.rollback (coherent : server.Coherent) (thread : Thread) :
    (server.rollback thread).Coherent where
  pending other := by
    by_cases same : other = thread
    · subst other
      simpa [Server.changes, Server.rollback] using .rollback server thread
    · have kept : (server.rollback thread).changes other = server.changes other := by
        simp [Server.changes, Server.rollback, same]
      rw [kept]
      exact (coherent.pending other).rollback_other same
  logged := coherent.logged

theorem changes_setOpen (server : Server Thread) (thread other : Thread)
    (transaction : Transaction) :
    (server.setOpen thread (some transaction)).changes other =
      if other = thread then transaction.changes else server.changes other := by
  by_cases same : other = thread
  · subst other
    simp [Server.changes, Server.setOpen]
  · simp [Server.changes, Server.setOpen, same]

theorem Server.Coherent.write {now : ℕ} (coherent : server.Coherent)
    (writes : server.Writes base thread change) : (base.change thread now change).Coherent := by
  have mine := (coherent.pending thread).writes writes
  have others (other : Thread) (different : other ≠ thread) :
      base.Pending other (base.changes other) := by
    rw [Server.writes_changes writes]
    exact (coherent.pending other).writes_other writes different
  have logged : Logged base.log base.rows := by
    rw [writes.log, writes.rows]
    exact coherent.logged
  unfold Server.change
  cases opened : base.open_ thread with
  | none =>
      have closed : server.changes thread = [] := by
        rw [Server.changes, ← writes.open_, opened]
        rfl
      rw [closed] at mine
      exact coherent_commit mine others logged
  | some transaction =>
      have open_ : server.changes thread = transaction.changes := by
        rw [Server.changes, ← writes.open_, opened]
        rfl
      rw [open_] at mine
      refine ⟨fun other => ?_, logged⟩
      rw [changes_setOpen]
      by_cases same : other = thread
      · subst other
        rw [if_pos rfl]
        exact mine.of_tables rfl rfl
      · rw [if_neg same]
        exact (others other same).of_tables rfl rfl

end Servers

end BankingBackend.Auth
