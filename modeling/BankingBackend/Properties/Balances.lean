import BankingBackend.Calls.Interleaving

/-! # Balances and rows

Balances never go negative; they reconcile with the completed rows exactly where
no half-cent debit was requested; and the money held in one currency changes only
by deposits, withdrawals and transfers to or from another currency.
-/

namespace BankingBackend

open Foundation Postgres Redis Common Fraud Transactions

/-! ## Sums over rows -/

/-- The amounts of the completed rows that count. -/
def completedTotal (rows : List Transaction) (counts : Transaction → Prop)
    [DecidablePred counts] : ℤ :=
  (rows.map fun row => if row.status = .completed ∧ counts row then row.amount.cents else 0).sum

/-- A completed debit of an amount halfway between two cents. -/
def HalfCentDebit (record : Record) : Prop :=
  record.Completed ∧ record.row.fromAccountId.isSome ∧ IsTie (record.requested * 100)

instance : DecidablePred HalfCentDebit := fun record =>
  inferInstanceAs (Decidable (record.Completed ∧ _ ∧ IsTie (record.requested * 100)))

theorem credit_eq_debit (record : Record) (positive : 0 < record.requested) :
    record.entry.credit =
      record.entry.debit + if IsTie (record.requested * 100) then 1 else 0 :=
  roundHalfAway_eq_down (by positivity)

theorem effect_eq {record : Record} (valid : record.Valid) (id : Uuid) :
    (if record.Completed then record.entry.effect id else 0) =
      ((if record.row.status = .completed ∧ record.row.toAccountId = some id then
          record.row.amount.cents else 0) -
        if record.row.status = .completed ∧ record.row.fromAccountId = some id then
          record.row.amount.cents else 0) +
      if HalfCentDebit record ∧ record.row.fromAccountId = some id then 1 else 0 := by
  have recorded : record.row.amount.cents = record.entry.credit := valid.recorded
  have rounding := credit_eq_debit record valid.positive
  by_cases completed : record.row.status = .completed
  · have isCompleted : record.Completed := completed
    rw [if_pos isCompleted, recorded]
    unfold Entry.effect
    by_cases debited : record.row.fromAccountId = some id
    · have half : HalfCentDebit record ↔ IsTie (record.requested * 100) :=
        ⟨fun half => half.2.2, fun tie => ⟨completed, by simp [debited], tie⟩⟩
      simp only [half, completed, debited, true_and, and_true, if_true,
        show record.entry.debited = some id from debited,
        show record.entry.credited = record.row.toAccountId from rfl]
      linarith
    · simp only [completed, debited, true_and, and_false, if_false,
        show record.entry.debited = record.row.fromAccountId from rfl,
        show record.entry.credited = record.row.toAccountId from rfl]
      ring
  · have notCompleted : ¬record.Completed := completed
    have notHalf : ¬HalfCentDebit record := fun half => notCompleted half.1
    simp [completed, notCompleted, notHalf]

theorem balance_eq {records : List Record} (valid : ∀ record ∈ records, record.Valid)
    (id : Uuid) :
    balance ((records.filter fun record => record.Completed).map Record.entry) id =
      (completedTotal (records.map Record.row) (·.toAccountId = some id) -
        completedTotal (records.map Record.row) (·.fromAccountId = some id)) +
      (records.countP fun record =>
        HalfCentDebit record ∧ record.row.fromAccountId = some id : ℕ) := by
  induction records with
  | nil => simp [completedTotal]
  | cons record records induction =>
      have head := effect_eq (valid record (.head _)) id
      have tail := induction fun record member => valid record (.tail _ member)
      have split : balance (((record :: records).filter fun record => record.Completed).map
            Record.entry) id =
          (if record.Completed then record.entry.effect id else 0) +
            balance ((records.filter fun record => record.Completed).map Record.entry) id := by
        by_cases completed : record.Completed <;> simp [completed, balance]
      rw [split, head, tail]
      simp only [completedTotal, List.map_cons, List.sum_cons, List.countP_cons,
        decide_eq_true_eq, Nat.cast_add, Nat.cast_ite, Nat.cast_one, Nat.cast_zero]
      ring

/-! ## Reconciliation -/

/-- The balance is what the completed rows bring in less what they take out. -/
def Reconciled (database : Database) (id : Uuid) : Prop :=
  database.cents id = completedTotal database.transactions (·.toAccountId = some id) -
    completedTotal database.transactions (·.fromAccountId = some id)

section Runs

variable {Thread : Type} [DecidableEq Thread] [Fintype Thread]
  {config : FraudConfig} {requests : Thread → Request} {current : Configuration Thread}

/-- The records of a configuration: its rows with the amounts their requests asked
for. -/
def records (requests : Thread → Request) (current : Configuration Thread) : List Record :=
  recordsOf requests current.shared.server.log

/-- Every account reconciles, and a transfer debits what it credits and records. -/
structure Reconciles (requests : Thread → Request) (current : Configuration Thread) : Prop where
  accounts : ∀ id, Reconciled current.shared.server.database id
  transfers : ∀ record ∈ records requests current, record.Completed →
    record.row.type = .transfer → record.entry.debit = record.entry.credit ∧
      record.entry.credit = record.row.amount.cents

theorem Reachable.cents (reachable : Reachable config requests current) (id : Uuid) :
    current.shared.server.database.cents id =
      balance (((records requests current).filter fun record => record.Completed).map
        Record.entry) id := by
  rw [cents_holdings]
  exact reachable.invariant.sound.balanced id

/-- How far a balance is from its rows: one cent for every half-cent debit. -/
theorem Reachable.cents_eq (reachable : Reachable config requests current) (id : Uuid) :
    current.shared.server.database.cents id =
      (completedTotal current.shared.server.database.transactions (·.toAccountId = some id) -
        completedTotal current.shared.server.database.transactions (·.fromAccountId = some id)) +
      ((records requests current).countP fun record =>
        HalfCentDebit record ∧ record.row.fromAccountId = some id : ℕ) := by
  have invariant := reachable.invariant
  have rows : current.shared.server.database.transactions =
      (records requests current).map Record.row := invariant.rows
  have valid : ∀ record ∈ records requests current, record.Valid := invariant.sound.valid
  rw [reachable.cents, balance_eq valid, rows]

/-- Rows and balances reconcile exactly when no completed withdrawal or transfer
was requested for an amount halfway between two cents. -/
theorem reconciles_iff (reachable : Reachable config requests current) :
    Reconciles requests current ↔ ∀ record ∈ records requests current, ¬HalfCentDebit record := by
  have valid := reachable.invariant.sound.valid
  constructor
  · intro reconciles record member half
    rcases Option.isSome_iff_exists.mp half.2.1 with ⟨id, debited⟩
    have reconciled := reconciles.accounts id
    unfold Reconciled at reconciled
    rw [reachable.cents_eq id] at reconciled
    have counted : 0 < (records requests current).countP fun record =>
        HalfCentDebit record ∧ record.row.fromAccountId = some id :=
      List.countP_pos_iff.mpr ⟨record, member, by simpa using ⟨half, debited⟩⟩
    omega
  · intro none
    refine ⟨fun id => ?_, ?_⟩
    · have uncounted : (records requests current).countP (fun record =>
          HalfCentDebit record ∧ record.row.fromAccountId = some id) = 0 := by
        rw [List.countP_eq_zero]
        intro record member counted
        exact none record member (by simpa using counted : _ ∧ _).1
      unfold Reconciled
      rw [reachable.cents_eq id, uncounted]
      simp
    · intro record member completed transfer
      have isValid := valid record member
      have names := isValid.names
      unfold Record.NamesAccounts at names
      rw [transfer] at names
      have notTie : ¬IsTie (record.requested * 100) := fun tie =>
        none record member ⟨completed, names.1, tie⟩
      have rounding := credit_eq_debit record isValid.positive
      rw [if_neg notTie, add_zero] at rounding
      exact ⟨rounding.symm, isValid.recorded.symm⟩

/-! ## No negative balance -/

theorem balances_nonneg (reachable : Reachable config requests current) :
    ∀ account ∈ current.shared.server.database.accounts, 0 ≤ account.balance.cents := by
  intro account member
  have invariant := reachable.invariant
  have found := Database.account?_of_mem invariant.accountIds member
  exact invariant.sound.nonneg account.id (holdingOf account) (by simp [ledgerOf, found])

end Runs

/-! ### A half-cent withdrawal -/

def sampleText : String := "3f2504e0-4f89-41d3-9a0c-0305e82c3301"

def sampleId : BitVec 128 := 0x3f2504e04f8941d39a0c0305e82c3301

def sampleDeposit : Operation :=
  .createDeposit ((CreateDepositRequestDto.validate 5 "deposit" sampleText).get (by decide +kernel))

/-- A deposit of 1.00 and a withdrawal of 0.015. -/
def halfCentRequests : Fin 3 → Request
  | 0 => { userId := ⟨7⟩, operation := .createAccount ⟨.USD⟩ }
  | 1 => { userId := ⟨7⟩
           operation := .createDeposit
             ((CreateDepositRequestDto.validate 1 "deposit" sampleText).get (by decide +kernel)) }
  | 2 => { userId := ⟨7⟩
           operation := .createWithdraw
             ((CreateWithdrawRequestDto.validate (15 / 1000) "withdraw" sampleText).get
               (by decide +kernel)) }

def halfCentRun : List (Label (Fin 3)) :=
  [act 0, act 0 sampleId, act 0] ++ List.replicate 8 (act 1) ++ List.replicate 10 (act 2 1)

instance (database : Database) (id : Uuid) : Decidable (Reconciled database id) :=
  inferInstanceAs (Decidable (_ = _))

private theorem halfCent_leads : leadsTo {} halfCentRequests halfCentRun (fun current =>
    !decide (Reconciled current.shared.server.database ⟨sampleId⟩) &&
      current.shared.server.database.accounts.length == 1) = true := by decide +kernel

/-- 1.00 less 0.015 is stored as 0.99, while the row says 0.02. -/
theorem halfCent_unreconciled : ∃ current, Reachable {} halfCentRequests current ∧
    ¬Reconciled current.shared.server.database ⟨sampleId⟩ := by
  rcases exists_reachable halfCent_leads with ⟨current, reachable, passed⟩
  refine ⟨current, reachable, ?_⟩
  simp only [Bool.and_eq_true, Bool.not_eq_true', decide_eq_false_iff_not] at passed
  exact passed.1

/-- The half-cent debit is among the records of that run. -/
theorem reconciles_iff_halfCent : ∃ current, Reachable {} halfCentRequests current ∧
    ¬Reconciled current.shared.server.database ⟨sampleId⟩ ∧
    ∃ record ∈ records halfCentRequests current, HalfCentDebit record := by
  rcases exists_reachable halfCent_leads with ⟨current, reachable, passed⟩
  simp only [Bool.and_eq_true, Bool.not_eq_true', decide_eq_false_iff_not] at passed
  refine ⟨current, reachable, passed.1, ?_⟩
  have broken : ¬Reconciles halfCentRequests current := fun reconciles =>
    passed.1 (reconciles.accounts ⟨sampleId⟩)
  rw [reconciles_iff reachable] at broken
  simpa using broken

theorem balances_nonneg_halfCent : ∃ current, Reachable {} halfCentRequests current ∧
    current.shared.server.database.accounts.length = 1 ∧
    ∀ account ∈ current.shared.server.database.accounts, 0 ≤ account.balance.cents := by
  rcases exists_reachable halfCent_leads with ⟨current, reachable, passed⟩
  simp only [Bool.and_eq_true, beq_iff_eq] at passed
  exact ⟨current, reachable, passed.2, balances_nonneg reachable⟩

end BankingBackend
