import BankingBackend.Foundation.DoubleEntry
import BankingBackend.Postgres.Schema

/-! # The ledger

What the backend is for, without calls, locks or uncommitted rows: accounts with
owners and balances, and the records of the requests that were decided. Every
decision is one step.
-/

namespace BankingBackend

open Foundation Postgres

structure Holding where
  owner : Uuid
  currency : Currency
  status : AccountStatus
  cents : ℤ

/-- A transactions row and the amount its request asked for. -/
structure Record where
  row : Transaction
  requested : ℚ

namespace Record

def Completed (record : Record) : Prop := record.row.status = .completed

instance (record : Record) : Decidable record.Completed :=
  inferInstanceAs (Decidable (record.row.status = .completed))

def entry (record : Record) : Entry Uuid ℤ where
  debited := record.row.fromAccountId
  credited := record.row.toAccountId
  debit := Money.debitCents record.requested
  credit := Money.creditCents record.requested

/-- A deposit names only a destination, a withdrawal only a source. -/
def NamesAccounts (record : Record) : Prop :=
  match record.row.type with
  | .deposit => record.row.fromAccountId = none ∧ record.row.toAccountId.isSome
  | .withdraw => record.row.fromAccountId.isSome ∧ record.row.toAccountId = none
  | .transfer => record.row.fromAccountId.isSome ∧ record.row.toAccountId.isSome

structure Valid (record : Record) : Prop where
  names : record.NamesAccounts
  settled : record.row.status = .completed ∨
    record.row.status = .rejected ∧ record.row.fraudDecision = some .reject
  recorded : record.row.amount.cents = Money.creditCents record.requested
  positive : 0 < record.requested

theorem entry_effect_nonneg {record : Record} (valid : record.Valid) {id : Uuid}
    (other : record.row.fromAccountId ≠ some id) : 0 ≤ record.entry.effect id := by
  have credit := Money.creditCents_nonneg valid.positive.le
  unfold Entry.effect
  rw [if_neg (show record.entry.debited ≠ some id from other)]
  split
  · simpa [Record.entry] using credit
  · simp

/-- The account a request of this kind may only be made about by its owner. -/
def ownedAccount (record : Record) : Option Uuid :=
  match record.row.type with
  | .deposit => record.row.toAccountId
  | .withdraw | .transfer => record.row.fromAccountId

/-- Money is only taken from the owned account. -/
theorem Valid.owned_of_debited {record : Record} (valid : record.Valid) {id : Uuid}
    (debited : record.row.fromAccountId = some id) : record.ownedAccount = some id := by
  have names := valid.names
  unfold NamesAccounts at names
  unfold ownedAccount
  cases type : record.row.type with
  | deposit =>
      rw [type] at names
      rw [names.1] at debited
      cases debited
  | withdraw => exact debited
  | transfer => exact debited

end Record

structure Ledger where
  holdings : Uuid → Option Holding
  records : List Record

namespace Ledger

def journal (ledger : Ledger) : List (Entry Uuid ℤ) :=
  (ledger.records.filter fun record => record.Completed).map Record.entry

def cents (ledger : Ledger) (id : Uuid) : ℤ :=
  ((ledger.holdings id).map Holding.cents).getD 0

def record (ledger : Ledger) (record : Record) : Ledger :=
  { ledger with records := ledger.records ++ [record] }

def apply (ledger : Ledger) (entry : Entry Uuid ℤ) : Ledger :=
  { ledger with
    holdings := fun id => (ledger.holdings id).map fun holding =>
      { holding with cents := holding.cents + entry.effect id } }

def set (ledger : Ledger) (id : Uuid) (holding : Holding) : Ledger :=
  { ledger with holdings := Function.update ledger.holdings id (some holding) }

/-! ## Steps -/

structure Decides (user : Uuid) (ledger : Ledger) (record : Record) : Prop where
  valid : record.Valid
  actor : record.row.actorCustomerId = user
  fresh : ∀ other ∈ ledger.records, other.row.key ≠ record.row.key

inductive Step (user : Uuid) (before : Ledger) : Ledger → Prop
  | post (record : Record) (decides : Decides user before record)
      (completed : record.Completed)
      (owned : ∃ id holding, record.ownedAccount = some id ∧
        before.holdings id = some holding ∧ holding.owner = user)
      (parties : ∀ id, record.row.fromAccountId = some id ∨ record.row.toAccountId = some id →
        (before.holdings id).isSome)
      (covered : ∀ id holding, record.row.fromAccountId = some id →
        before.holdings id = some holding → 0 ≤ holding.cents + record.entry.effect id) :
      Step user before ((before.apply record.entry).record record)
  | reject (record : Record) (decides : Decides user before record)
      (rejected : ¬record.Completed) :
      Step user before (before.record record)
  | openAccount (id : Uuid) (currency : Currency) (fresh : before.holdings id = none) :
      Step user before (before.set id ⟨user, currency, .active, 0⟩)
  | setStatus (id : Uuid) (holding : Holding) (status : AccountStatus)
      (held : before.holdings id = some holding) (owned : holding.owner = user)
      (notClosed : holding.status ≠ .closed)
      (emptied : status = .closed → holding.cents = 0) :
      Step user before (before.set id { holding with status })

/-! ## What holds of every ledger -/

structure Sound (ledger : Ledger) : Prop where
  nonneg : ∀ id holding, ledger.holdings id = some holding → 0 ≤ holding.cents
  balanced : ∀ id, ledger.cents id = balance ledger.journal id
  valid : ∀ record ∈ ledger.records, record.Valid
  keys : (ledger.records.map fun record => record.row.key).Nodup
  owned : ∀ record ∈ ledger.records, record.Completed →
    ∃ id holding, record.ownedAccount = some id ∧ ledger.holdings id = some holding ∧
      holding.owner = record.row.actorCustomerId

section Lemmas

variable {ledger before after : Ledger} {user : Uuid}

@[simp] theorem holdings_record (record : Record) :
    (ledger.record record).holdings = ledger.holdings := rfl

@[simp] theorem records_record (record : Record) :
    (ledger.record record).records = ledger.records ++ [record] := rfl

@[simp] theorem records_apply (entry : Entry Uuid ℤ) :
    (ledger.apply entry).records = ledger.records := rfl

@[simp] theorem records_set (id : Uuid) (holding : Holding) :
    (ledger.set id holding).records = ledger.records := rfl

@[simp] theorem cents_record (record : Record) :
    (ledger.record record).cents = ledger.cents := rfl

theorem journal_record (record : Record) :
    (ledger.record record).journal =
      ledger.journal ++ if record.Completed then [record.entry] else [] := by
  by_cases completed : record.Completed <;> simp [journal, Ledger.record, completed]

theorem cents_apply {entry : Entry Uuid ℤ}
    (parties : ∀ id, entry.effect id ≠ 0 → (ledger.holdings id).isSome) (id : Uuid) :
    (ledger.apply entry).cents id = ledger.cents id + entry.effect id := by
  cases held : ledger.holdings id with
  | some holding => simp [cents, apply, held]
  | none =>
      have zero : entry.effect id = 0 := by
        by_contra nonzero
        simpa [held] using parties id nonzero
      simp [cents, apply, held, zero]

theorem cents_set (id : Uuid) (holding : Holding) (same : ledger.cents id = holding.cents) :
    (ledger.set id holding).cents = ledger.cents := by
  funext key
  by_cases equal : key = id
  · subst equal
    rw [same]
    simp [cents, set]
  · simp [cents, set, equal]

theorem party_of_effect {record : Record} {id : Uuid} (affected : record.entry.effect id ≠ 0) :
    record.row.fromAccountId = some id ∨ record.row.toAccountId = some id := by
  by_contra neither
  rw [not_or] at neither
  apply affected
  unfold Entry.effect
  rw [if_neg (show record.entry.credited ≠ some id from neither.2),
    if_neg (show record.entry.debited ≠ some id from neither.1), sub_zero]

theorem Step.persists (step : Step user before after) {id : Uuid} {holding : Holding}
    (held : before.holdings id = some holding) :
    ∃ kept, after.holdings id = some kept ∧ kept.owner = holding.owner ∧
      kept.currency = holding.currency := by
  cases step with
  | post record =>
      exact ⟨{ holding with cents := holding.cents + record.entry.effect id },
        by simp [apply, held], rfl, rfl⟩
  | reject => exact ⟨holding, held, rfl, rfl⟩
  | openAccount opened currency fresh =>
      have different : id ≠ opened := by
        rintro rfl
        rw [held] at fresh
        cases fresh
      exact ⟨holding, by simp [set, different, held], rfl, rfl⟩
  | setStatus changed current status currentlyHeld =>
      by_cases same : id = changed
      · subst same
        rw [held] at currentlyHeld
        cases currentlyHeld
        exact ⟨{ holding with status }, by simp [set], rfl, rfl⟩
      · exact ⟨holding, by simp [set, same, held], rfl, rfl⟩

/-- A user takes nothing from the account of another and does not change its
status. -/
theorem Step.respects (step : Step user before after) {id : Uuid} {holding : Holding}
    (held : before.holdings id = some holding) (foreign : holding.owner ≠ user) :
    ∃ kept, after.holdings id = some kept ∧ kept.owner = holding.owner ∧
      kept.status = holding.status ∧ holding.cents ≤ kept.cents := by
  cases step with
  | post record decides completed owned =>
      refine ⟨{ holding with cents := holding.cents + record.entry.effect id },
        by simp [apply, held], rfl, rfl, ?_⟩
      have spared : record.row.fromAccountId ≠ some id := by
        intro debited
        rcases owned with ⟨account, current, account_eq, currentHeld, owner⟩
        rw [decides.valid.owned_of_debited debited] at account_eq
        cases account_eq
        rw [held] at currentHeld
        cases currentHeld
        exact foreign owner
      have effect := Record.entry_effect_nonneg decides.valid spared
      show holding.cents ≤ holding.cents + record.entry.effect id
      omega
  | reject => exact ⟨holding, held, rfl, rfl, le_rfl⟩
  | openAccount opened currency fresh =>
      have different : id ≠ opened := by
        rintro rfl
        rw [held] at fresh
        cases fresh
      exact ⟨holding, by simp [set, different, held], rfl, rfl, le_rfl⟩
  | setStatus changed current status currentlyHeld owned =>
      have different : id ≠ changed := by
        rintro rfl
        rw [held] at currentlyHeld
        cases currentlyHeld
        exact foreign owned
      exact ⟨holding, by simp [set, different, held], rfl, rfl, le_rfl⟩

/-- An account that is closed has been closed before or has just been emptied. -/
theorem Step.closed (step : Step user before after) {id : Uuid} {holding : Holding}
    (held : after.holdings id = some holding) (closed : holding.status = .closed) :
    (∃ old, before.holdings id = some old ∧ old.status = .closed) ∨ holding.cents = 0 := by
  cases step with
  | post record =>
      rcases Option.map_eq_some_iff.mp held with ⟨old, oldHeld, rfl⟩
      exact .inl ⟨old, oldHeld, closed⟩
  | reject => exact .inl ⟨holding, held, closed⟩
  | openAccount opened currency fresh =>
      by_cases same : id = opened
      · subst same
        have opens : Holding.mk user currency .active 0 = holding := by simpa [set] using held
        rw [← opens] at closed
        cases closed
      · exact .inl ⟨holding, by simpa [set, same] using held, closed⟩
  | setStatus changed current status currentlyHeld owned notClosed emptied =>
      by_cases same : id = changed
      · subst same
        have changes : { current with status } = holding := by simpa [set] using held
        subst changes
        exact .inr (emptied closed)
      · exact .inl ⟨holding, by simpa [set, same] using held, closed⟩

private theorem Sound.owned_step (sound : Sound before) (step : Step user before after)
    {record : Record} (member : record ∈ before.records) (completed : record.Completed) :
    ∃ id holding, record.ownedAccount = some id ∧ after.holdings id = some holding ∧
      holding.owner = record.row.actorCustomerId := by
  rcases sound.owned record member completed with ⟨id, holding, account, held, owner⟩
  rcases step.persists held with ⟨kept, keptHeld, sameOwner, _⟩
  exact ⟨id, kept, account, keptHeld, sameOwner.trans owner⟩

private theorem Sound.keys_record (sound : Sound before) {record : Record}
    (decides : Decides user before record) :
    ((before.records ++ [record]).map fun record => record.row.key).Nodup := by
  rw [List.map_append, List.nodup_append]
  refine ⟨sound.keys, by simp, ?_⟩
  intro key keyMember new newMember
  rcases List.mem_map.mp keyMember with ⟨other, member, rfl⟩
  rcases List.mem_singleton.mp newMember with rfl
  exact decides.fresh other member

private theorem Sound.set (sound : Sound before) {id : Uuid} {holding : Holding}
    (step : Step user before (before.set id holding))
    (same : before.cents id = holding.cents) (nonneg : 0 ≤ holding.cents) :
    Sound (before.set id holding) where
  nonneg key current held := by
    by_cases equal : key = id
    · subst equal
      have same : holding = current := by simpa [Ledger.set] using held
      exact same ▸ nonneg
    · exact sound.nonneg key current (by simpa [Ledger.set, equal] using held)
  balanced key := by
    rw [cents_set id holding same]
    exact sound.balanced key
  valid := sound.valid
  keys := sound.keys
  owned _ member completed := sound.owned_step step member completed

theorem Sound.step (sound : Sound before) (step : Step user before after) : Sound after := by
  cases step with
  | post record decides completed owned parties covered =>
      have step : Step user before ((before.apply record.entry).record record) :=
        .post record decides completed owned parties covered
      refine ⟨?_, ?_, ?_, sound.keys_record decides, ?_⟩
      · intro id holding held
        rcases Option.map_eq_some_iff.mp held with ⟨old, oldHeld, rfl⟩
        by_cases debited : record.row.fromAccountId = some id
        · exact covered id old debited oldHeld
        · have effect := Record.entry_effect_nonneg decides.valid debited
          have balance := sound.nonneg id old oldHeld
          simp only
          omega
      · intro id
        rw [journal_record, if_pos completed, balance_append, balance_singleton, cents_record,
          cents_apply fun id affected => parties id (party_of_effect affected), sound.balanced id]
        rfl
      · intro other member
        rcases List.mem_append.mp member with member | member
        · exact sound.valid other member
        · exact List.mem_singleton.mp member ▸ decides.valid
      · intro other member otherCompleted
        rcases List.mem_append.mp member with member | member
        · exact sound.owned_step step member otherCompleted
        · cases List.mem_singleton.mp member
          rcases owned with ⟨id, holding, account, held, owner⟩
          rcases step.persists held with ⟨kept, keptHeld, sameOwner, _⟩
          exact ⟨id, kept, account, keptHeld, by rw [sameOwner, owner, decides.actor]⟩
  | reject record decides rejected =>
      have step : Step user before (before.record record) := .reject record decides rejected
      refine ⟨sound.nonneg, ?_, ?_, sound.keys_record decides, ?_⟩
      · intro id
        rw [journal_record, if_neg rejected, List.append_nil]
        exact sound.balanced id
      · intro other member
        rcases List.mem_append.mp member with member | member
        · exact sound.valid other member
        · exact List.mem_singleton.mp member ▸ decides.valid
      · intro other member otherCompleted
        rcases List.mem_append.mp member with member | member
        · exact sound.owned_step step member otherCompleted
        · exact absurd otherCompleted (List.mem_singleton.mp member ▸ rejected)
  | openAccount id currency fresh =>
      exact sound.set (.openAccount id currency fresh) (by simp [cents, fresh]) le_rfl
  | setStatus id holding status held owned notClosed emptied =>
      exact sound.set (.setStatus id holding status held owned notClosed emptied)
        (by simp [cents, held]) (sound.nonneg id holding held)

def empty : Ledger := ⟨fun _ => none, []⟩

theorem sound_empty : Sound empty where
  nonneg _ _ held := by cases held
  balanced _ := rfl
  valid _ member := by cases member
  keys := .nil
  owned _ member := by cases member

end Lemmas

end Ledger

end BankingBackend
