import BankingBackend.Properties.Balances

/-! # Conservation per currency

No check compares the currencies of the two accounts of a transfer, so a transfer
may carry an amount from one currency to another.
-/

namespace BankingBackend

open Foundation Postgres Redis Common Fraud Transactions

def InCurrency (database : Database) (currency : Currency) (id : Option Uuid) : Prop :=
  (id.bind database.account?).map Account.currency = some currency

instance (database : Database) (currency : Currency) (id : Option Uuid) :
    Decidable (InCurrency database currency id) :=
  inferInstanceAs (Decidable (_ = _))

/-- The sum of the balances of the accounts of one currency. -/
def heldIn (database : Database) (currency : Currency) : ℤ :=
  ((database.accounts.filter fun account => account.currency = currency).map fun account =>
    account.balance.cents).sum

section Totals

variable (database : Database) (currency : Currency)

def depositedInto : ℤ :=
  completedTotal database.transactions fun row =>
    row.type = .deposit ∧ InCurrency database currency row.toAccountId

def withdrawnFrom : ℤ :=
  completedTotal database.transactions fun row =>
    row.type = .withdraw ∧ InCurrency database currency row.fromAccountId

/-- Transfers from accounts of another currency. -/
def transferredInto : ℤ :=
  completedTotal database.transactions fun row =>
    row.type = .transfer ∧ InCurrency database currency row.toAccountId ∧
      ¬InCurrency database currency row.fromAccountId

/-- Transfers to accounts of another currency. -/
def transferredFrom : ℤ :=
  completedTotal database.transactions fun row =>
    row.type = .transfer ∧ InCurrency database currency row.fromAccountId ∧
      ¬InCurrency database currency row.toAccountId

/-- Only deposits and withdrawals change what is held in the currency. -/
def Conserved : Prop :=
  heldIn database currency = depositedInto database currency - withdrawnFrom database currency

instance : Decidable (Conserved database currency) :=
  inferInstanceAs (Decidable (_ = _))

end Totals

/-! ## What one record carries across the border of a currency -/

section Border

variable (names : Option Uuid → Prop) [DecidablePred names]

private theorem creditTo_eq (record : Record) (unnamed : ¬names none) :
    record.entry.creditTo (fun id => names (some id)) =
      if names record.row.toAccountId then record.entry.credit else 0 := by
  unfold Entry.creditTo
  rw [show record.entry.credited = record.row.toAccountId from rfl]
  cases record.row.toAccountId with
  | none => rw [if_neg unnamed]
  | some id => rfl

private theorem debitFrom_eq (record : Record) (unnamed : ¬names none) :
    record.entry.debitFrom (fun id => names (some id)) =
      if names record.row.fromAccountId then record.entry.debit else 0 := by
  unfold Entry.debitFrom
  rw [show record.entry.debited = record.row.fromAccountId from rfl]
  cases record.row.fromAccountId with
  | none => rw [if_neg unnamed]
  | some id => rfl

private theorem record_flow {record : Record} (valid : record.Valid)
    (whole : record.Completed → WholeCents record.requested) (unnamed : ¬names none) :
    (if record.Completed then
      record.entry.creditTo (fun id => names (some id)) -
        record.entry.debitFrom (fun id => names (some id)) else 0) =
    (if record.row.status = .completed ∧ record.row.type = .deposit ∧
          names record.row.toAccountId then record.row.amount.cents else 0) -
      (if record.row.status = .completed ∧ record.row.type = .withdraw ∧
          names record.row.fromAccountId then record.row.amount.cents else 0) +
      (if record.row.status = .completed ∧ record.row.type = .transfer ∧
          names record.row.toAccountId ∧ ¬names record.row.fromAccountId then
        record.row.amount.cents else 0) -
      if record.row.status = .completed ∧ record.row.type = .transfer ∧
          names record.row.fromAccountId ∧ ¬names record.row.toAccountId then
        record.row.amount.cents else 0 := by
  have recorded : record.row.amount.cents = record.entry.credit := valid.recorded
  have shape := valid.names
  unfold Record.NamesAccounts at shape
  by_cases completed : record.row.status = .completed
  · have rounding := credit_eq_debit record valid.positive
    have notTie : ¬IsTie (record.requested * 100) := by
      rcases whole completed with ⟨cents, same⟩
      rw [same]
      exact not_isTie_intCast cents
    rw [if_neg notTie, add_zero] at rounding
    rw [creditTo_eq names record unnamed, debitFrom_eq names record unnamed, ← rounding, recorded,
      if_pos (show record.Completed from completed)]
    cases type : record.row.type with
    | deposit =>
        rw [type] at shape
        simp [completed, shape.1, unnamed]
    | withdraw =>
        rw [type] at shape
        simp [completed, shape.2, unnamed]
    | transfer =>
        by_cases fromNamed : names record.row.fromAccountId <;>
          by_cases toNamed : names record.row.toAccountId <;>
          simp [completed, fromNamed, toNamed]
  · have notCompleted : ¬record.Completed := completed
    simp [completed, notCompleted]

private theorem flow_eq {records : List Record} (valid : ∀ record ∈ records, record.Valid)
    (whole : ∀ record ∈ records, record.Completed → WholeCents record.requested)
    (unnamed : ¬names none) :
    (((records.filter fun record => record.Completed).map Record.entry).map fun entry =>
        entry.creditTo (fun id => names (some id))).sum -
      (((records.filter fun record => record.Completed).map Record.entry).map fun entry =>
        entry.debitFrom (fun id => names (some id))).sum =
    completedTotal (records.map Record.row)
        (fun row => row.type = .deposit ∧ names row.toAccountId) -
      completedTotal (records.map Record.row)
        (fun row => row.type = .withdraw ∧ names row.fromAccountId) +
      completedTotal (records.map Record.row)
        (fun row => row.type = .transfer ∧ names row.toAccountId ∧ ¬names row.fromAccountId) -
      completedTotal (records.map Record.row)
        (fun row => row.type = .transfer ∧ names row.fromAccountId ∧ ¬names row.toAccountId) := by
  induction records with
  | nil => simp [completedTotal]
  | cons record records induction =>
      have head := record_flow names (valid record (.head _)) (whole record (.head _)) unnamed
      have tail := induction (fun record member => valid record (.tail _ member))
        fun record member => whole record (.tail _ member)
      simp only [completedTotal, List.map_cons, List.sum_cons] at tail ⊢
      by_cases completed : record.Completed
      · rw [if_pos completed] at head
        have filtered : (record :: records).filter (fun record => record.Completed) =
            record :: records.filter fun record => record.Completed :=
          List.filter_cons_of_pos (decide_eq_true completed)
        simp only [filtered, List.map_cons, List.sum_cons]
        linarith
      · rw [if_neg completed] at head
        have filtered : (record :: records).filter (fun record => record.Completed) =
            records.filter fun record => record.Completed :=
          List.filter_cons_of_neg (by simpa using completed)
        rw [filtered]
        linarith

end Border

/-! ## Runs -/

section Runs

variable {Thread : Type} [DecidableEq Thread] [Fintype Thread]
  {config : FraudConfig} {requests : Thread → Request} {current : Configuration Thread}

private theorem heldIn_eq (reachable : Reachable config requests current) (currency : Currency) :
    heldIn current.shared.server.database currency =
      (((current.shared.server.database.accounts.filter fun account =>
        account.currency = currency).map Account.id).map
        (balance (((records requests current).filter fun record => record.Completed).map
          Record.entry))).sum := by
  unfold heldIn
  rw [List.map_map]
  congr 1
  refine List.map_congr_left fun account member => ?_
  have found := Database.account?_of_mem reachable.invariant.accountIds
    (List.mem_filter.mp member).1
  rw [Function.comp_apply, ← reachable.cents]
  simp [Database.cents, found]

private theorem mem_keys (reachable : Reachable config requests current) (currency : Currency)
    (id : Uuid) :
    id ∈ (current.shared.server.database.accounts.filter fun account =>
        account.currency = currency).map Account.id ↔
      InCurrency current.shared.server.database currency (some id) := by
  constructor
  · intro member
    rcases List.mem_map.mp member with ⟨account, accountMember, rfl⟩
    rcases List.mem_filter.mp accountMember with ⟨committed, same⟩
    have found := Database.account?_of_mem reachable.invariant.accountIds committed
    simp [InCurrency, found, of_decide_eq_true same]
  · intro inside
    unfold InCurrency at inside
    rcases Option.map_eq_some_iff.mp inside with ⟨account, found, same⟩
    have found : current.shared.server.database.account? id = some account := found
    exact List.mem_map.mpr ⟨account, List.mem_filter.mpr
      ⟨Database.account?_mem found, decide_eq_true same⟩, Database.account?_id found⟩

omit [DecidableEq Thread] [Fintype Thread] in
theorem requested_of_mem {record : Record} (member : record ∈ records requests current) :
    ∃ thread, record.requested = (requests thread).amount := by
  rcases List.mem_flatMap.mp member with ⟨commit, _, recordMember⟩
  rcases List.mem_map.mp recordMember with ⟨row, _, rfl⟩
  exact ⟨commit.thread, rfl⟩

/-- When the completed rows were requested for whole cents, what is held in a currency is
what deposits and transfers from other currencies brought in less what withdrawals and
transfers to other currencies took out. -/
theorem conservation (reachable : Reachable config requests current)
    (whole : ∀ record ∈ records requests current, record.Completed →
      WholeCents record.requested) (currency : Currency) :
    heldIn current.shared.server.database currency =
      depositedInto current.shared.server.database currency -
        withdrawnFrom current.shared.server.database currency +
        transferredInto current.shared.server.database currency -
        transferredFrom current.shared.server.database currency := by
  have invariant := reachable.invariant
  have nodup : ((current.shared.server.database.accounts.filter fun account =>
      account.currency = currency).map Account.id).Nodup :=
    invariant.accountIds.sublist (List.filter_sublist.map _)
  have rows : current.shared.server.database.transactions =
      (records requests current).map Record.row := invariant.rows
  have valid : ∀ record ∈ records requests current, record.Valid := invariant.sound.valid
  have flow := flow_eq (InCurrency current.shared.server.database currency) valid whole
    (fun absurd => by cases absurd)
  rw [heldIn_eq reachable, sum_balance _ nodup]
  simp only [mem_keys reachable]
  unfold depositedInto withdrawnFrom transferredInto transferredFrom
  rw [rows]
  convert flow

end Runs

/-! ### A transfer from dollars to euros -/

def euroText : String := "9b2d6c1e-7a40-4c55-8f3e-2d1c0b9a8f70"

def euroId : BitVec 128 := 0x9b2d6c1e7a404c558f3e2d1c0b9a8f70

/-- Two customers open accounts in different currencies; the first deposits 5.00
and transfers it to the second. -/
def exchangeRequests : Fin 4 → Request
  | 0 => { userId := ⟨7⟩, operation := .createAccount ⟨.USD⟩ }
  | 1 => { userId := ⟨8⟩, operation := .createAccount ⟨.EUR⟩ }
  | 2 => { userId := ⟨7⟩, operation := sampleDeposit }
  | 3 => { userId := ⟨7⟩
           operation := .createTransfer
             ((CreateTransferRequestDto.validate 5 "transfer" euroText sampleText).get
               (by decide +kernel)) }

def exchangeRun : List (Label (Fin 4)) :=
  [act 0, act 0 sampleId, act 0, act 1, act 1 euroId, act 1] ++ List.replicate 8 (act 2) ++
    List.replicate 15 (act 3 1)

private theorem exchange_leads : leadsTo {} exchangeRequests exchangeRun (fun current =>
    !decide (Conserved current.shared.server.database .USD)) = true := by decide +kernel

private theorem exchange_whole (thread : Fin 4) : WholeCents (exchangeRequests thread).amount := by
  match thread with
  | 0 => exact ⟨0, by decide +kernel⟩
  | 1 => exact ⟨0, by decide +kernel⟩
  | 2 => exact ⟨500, by decide +kernel⟩
  | 3 => exact ⟨500, by decide +kernel⟩

/-- The dollars are gone although none were withdrawn. -/
theorem exchange_not_conserved : ∃ current, Reachable {} exchangeRequests current ∧
    (∀ thread, WholeCents (exchangeRequests thread).amount) ∧
    ¬Conserved current.shared.server.database .USD := by
  rcases exists_reachable exchange_leads with ⟨current, reachable, passed⟩
  exact ⟨current, reachable, exchange_whole, by simpa using passed⟩

theorem conservation_exchange : ∃ current, Reachable {} exchangeRequests current ∧
    ¬Conserved current.shared.server.database .USD ∧
    heldIn current.shared.server.database .USD =
      depositedInto current.shared.server.database .USD -
        withdrawnFrom current.shared.server.database .USD +
        transferredInto current.shared.server.database .USD -
        transferredFrom current.shared.server.database .USD := by
  rcases exists_reachable exchange_leads with ⟨current, reachable, passed⟩
  refine ⟨current, reachable, by simpa using passed,
    conservation reachable (fun record member _ => ?_) .USD⟩
  rcases requested_of_mem member with ⟨thread, requested⟩
  rw [requested]
  exact exchange_whole thread

end BankingBackend
