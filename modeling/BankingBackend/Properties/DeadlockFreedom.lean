import BankingBackend.Calls.LockOrder
import BankingBackend.Foundation.WaitFor
import BankingBackend.Properties.Balances
import Mathlib.Data.String.Basic
import Mathlib.Tactic.FinCases

/-! # Deadlocks on account rows

The locks of all calls are taken in one order of the rows exactly as far as the texts
of the transfers put their rows in one order.
-/

namespace BankingBackend

open Foundation Postgres Redis Common Fraud Transactions

section WaitFor

variable {Thread : Type} [DecidableEq Thread] [Fintype Thread]

def Postgres.Server.UpdateResult.isBlocked : Server.UpdateResult Thread → Bool
  | .blocked => true
  | _ => false

/-- The account row for whose lock a statement waits. -/
def Postgres.Server.awaits? (server : Server Thread) (thread : Thread) (statement : Statement) :
    Option Uuid :=
  match statement.update? with
  | none => none
  | some (text, filter, data) =>
      (Uuid.parse? text).filter fun id => (server.updateAccount thread id filter data).isBlocked

/-- The call is about to update a row whose lock it has to wait for. -/
def Awaits (current : Configuration Thread) (thread : Thread) (id : Uuid) : Prop :=
  ∃ statement next, current.program thread = .call (.query statement) next ∧
    current.shared.server.awaits? thread statement = some id

def HoldsRow (current : Configuration Thread) (thread : Thread) (id : Uuid) : Prop :=
  ∃ tx, current.shared.server.open_ thread = some tx ∧ (tx.accounts id).isSome

/-- No calls wait in a circle for the rows that they have updated. -/
def DeadlockFree (current : Configuration Thread) : Prop :=
  Acyclic (WaitsFor (HoldsRow current) (Awaits current))

omit [DecidableEq Thread] [Fintype Thread] in
/-- Some transfer locks the two rows in this order. -/
def LocksBefore (requests : Thread → Request) (first second : Uuid) : Prop :=
  first ≠ second ∧ ∃ thread earlier text, (requests thread).Orders earlier text ∧
    Uuid.parse? earlier = some first ∧ Uuid.parse? text = some second

variable {config : FraudConfig} {requests : Thread → Request} {current : Configuration Thread}

theorem Reachable.tracks (reachable : Reachable config requests current) :
    Monitor.Tracks (fun thread => lockMonitor (requests thread).Orders) HoldsOnly
      (fun _ _ _ => True) current := by
  rcases reachable with ⟨redis, now, run⟩
  have initially : Monitor.Tracks (fun thread => lockMonitor (requests thread).Orders) HoldsOnly
      (fun _ _ _ => True) (initial config requests redis now) := by
    refine fun thread => ⟨[], ⟨?_, ?_⟩, locks_handle config (requests thread)⟩
    · rintro _ _ ⟨⟩
    · rintro _ ⟨⟩
  exact initially.run (lockMonitor_reflects fun thread => (requests thread).Orders) run

/-- Calls never wait for each other in a circle when the texts of the transfers put the
rows in one order. -/
theorem deadlock_free (reachable : Reachable config requests current)
    (order : Acyclic (LocksBefore requests)) : DeadlockFree current := by
  refine WaitsFor.acyclic ?_ ?_ order
  · rintro thread other id ⟨tx, opened, locked⟩ ⟨otherTx, otherOpened, otherLocked⟩
    by_contra different
    have apart := (reachable.invariant.pending thread tx opened).apart other otherTx
      (Ne.symm different) otherOpened
    rw [apart.rows id locked] at otherLocked
    cases otherLocked
  · rintro thread held awaited ⟨tx, opened, locked⟩ ⟨statement, next, program, awaits⟩ different
    rcases reachable.tracks thread with ⟨texts, holds, follows⟩
    rw [program] at follows
    rcases holds.rows tx opened held locked with ⟨earlier, member, parsed⟩
    unfold Server.awaits? at awaits
    split at awaits
    · cases awaits
    · rename_i text filter data update
      have named := (Option.filter_eq_some_iff.mp awaits).1
      have updates : statement.updates = some text := by simp [Statement.updates, update]
      exact ⟨different, thread, earlier, text, follows.1 text updates earlier member, parsed, named⟩

end WaitFor

/-! ## One spelling for each account -/

/-- Transfers that name each account by one text lock their rows in one order. -/
theorem acyclic_of_spelling {Thread : Type} {requests : Thread → Request} (spelling : Uuid → String)
    (spelled : ∀ thread dto, (requests thread).operation = .createTransfer dto →
      ∀ id, (Uuid.parse? dto.fromAccountId = some id → dto.fromAccountId = spelling id) ∧
        (Uuid.parse? dto.toAccountId = some id → dto.toAccountId = spelling id)) :
    Acyclic (LocksBefore requests) := by
  refine acyclic_of_measure spelling ?_
  rintro first second ⟨different, thread, earlier, text, ⟨dto, transfer, ordered⟩, parsed, named⟩
  have spelled := spelled thread dto transfer
  have apart : dto.fromAccountId ≠ dto.toAccountId := by
    rintro same
    refine different (Option.some.inj (parsed.symm.trans (Eq.trans ?_ named)))
    unfold lockOrder at ordered
    split at ordered <;> cases ordered <;> rw [same]
  unfold lockOrder at ordered
  split at ordered
  · rename_i less
    cases ordered
    rwa [← (spelled first).1 parsed, ← (spelled second).2 named]
  · rename_i greater
    cases ordered
    rw [← (spelled first).2 parsed, ← (spelled second).1 named]
    exact lt_of_le_of_ne (not_lt.mp greater) apart.symm

/-! ### Two transfers in opposite directions -/

def firstText : String := "aaaaaaaa-aaaa-4aaa-8aaa-aaaaaaaaaaaa"

def secondText : String := "bbbbbbbb-bbbb-4bbb-8bbb-bbbbbbbbbbbb"

def firstId : BitVec 128 := 0xaaaaaaaaaaaa4aaa8aaaaaaaaaaaaaaa

def secondId : BitVec 128 := 0xbbbbbbbbbbbb4bbb8bbbbbbbbbbbbbbb

def transferThere : CreateTransferRequestDto :=
  (CreateTransferRequestDto.validate 3 "there" secondText firstText).get (by decide +kernel)

def transferBack : CreateTransferRequestDto :=
  (CreateTransferRequestDto.validate 3 "back" firstText secondText).get (by decide +kernel)

def transferBackUpper : CreateTransferRequestDto :=
  (CreateTransferRequestDto.validate 3 "back" firstText
    "BBBBBBBB-BBBB-4BBB-8BBB-BBBBBBBBBBBB").get (by decide +kernel)

/-- A customer's two accounts with 5.00 each, a transfer from the first to the second, and
one back. -/
def oppositeRequests (back : CreateTransferRequestDto) : Fin 6 → Request
  | 0 => { userId := ⟨7⟩, operation := .createAccount ⟨.USD⟩ }
  | 1 => { userId := ⟨7⟩, operation := .createAccount ⟨.EUR⟩ }
  | 2 => { userId := ⟨7⟩
           operation := .createDeposit
             ((CreateDepositRequestDto.validate 5 "first" firstText).get (by decide +kernel)) }
  | 3 => { userId := ⟨7⟩
           operation := .createDeposit
             ((CreateDepositRequestDto.validate 5 "second" secondText).get (by decide +kernel)) }
  | 4 => { userId := ⟨7⟩, operation := .createTransfer transferThere }
  | 5 => { userId := ⟨7⟩, operation := .createTransfer back }

/-- Each transfer updates its first row. -/
def oppositeRun : List (Label (Fin 6)) :=
  [act 0, act 0 firstId, act 0, act 1, act 1 secondId, act 1] ++
    List.replicate 8 (act 2 2) ++ List.replicate 8 (act 3 3) ++ List.replicate 11 (act 4 4) ++
    List.replicate 11 (act 5 5)

def awaiting {Thread : Type} [DecidableEq Thread] [Fintype Thread]
    (current : Configuration Thread) (thread : Thread) : Option Uuid :=
  match current.program thread with
  | .call (.query statement) _ => current.shared.server.awaits? thread statement
  | _ => none

theorem awaits_of_awaiting {Thread : Type} [DecidableEq Thread] [Fintype Thread]
    {current : Configuration Thread} {thread : Thread} {id : Uuid}
    (waiting : awaiting current thread = some id) : Awaits current thread id := by
  unfold awaiting at waiting
  split at waiting
  · rename_i statement next program
    exact ⟨statement, next, program, waiting⟩
  · cases waiting

def holdsRow? {Thread : Type} (server : Server Thread) (thread : Thread) (id : Uuid) : Bool :=
  (server.open_ thread).any fun tx => (tx.accounts id).isSome

private theorem opposite_leads :
    leadsTo {} (oppositeRequests transferBackUpper) oppositeRun (fun current =>
        awaiting current 4 == some ⟨secondId⟩ && awaiting current 5 == some ⟨firstId⟩ &&
          holdsRow? current.shared.server 4 ⟨firstId⟩ &&
          holdsRow? current.shared.server 5 ⟨secondId⟩) = true := by decide +kernel

theorem holdsRow_of_holdsRow? {Thread : Type} [DecidableEq Thread] [Fintype Thread]
    {current : Configuration Thread} {thread : Thread} {id : Uuid}
    (held : holdsRow? current.shared.server thread id = true) : HoldsRow current thread id :=
  (Option.any_eq_true _ _).mp held

/-- In upper case the second account comes first. -/
theorem opposite_deadlocks : ∃ current,
    Reachable {} (oppositeRequests transferBackUpper) current ∧ ¬DeadlockFree current := by
  rcases exists_reachable opposite_leads with ⟨current, reachable, passed⟩
  refine ⟨current, reachable, fun free => free 4 ?_⟩
  simp only [Bool.and_eq_true, beq_iff_eq] at passed
  rcases passed with ⟨⟨⟨there, back⟩, first⟩, second⟩
  have waits : WaitsFor (HoldsRow current) (Awaits current) 4 5 :=
    ⟨by decide, ⟨secondId⟩, awaits_of_awaiting there, holdsRow_of_holdsRow? second⟩
  have waited : WaitsFor (HoldsRow current) (Awaits current) 5 4 :=
    ⟨by decide, ⟨firstId⟩, awaits_of_awaiting back, holdsRow_of_holdsRow? first⟩
  exact .tail (.single waits) waited

private theorem ordered_leads :
    leadsTo {} (oppositeRequests transferBack) oppositeRun.dropLast (fun current =>
        awaiting current 5 == some ⟨firstId⟩ && holdsRow? current.shared.server 4 ⟨firstId⟩) =
      true := by decide +kernel

/-- In lower case one transfer waits for the other. -/
theorem deadlock_free_opposite : ∃ current,
    Reachable {} (oppositeRequests transferBack) current ∧
      Awaits current 5 ⟨firstId⟩ ∧ DeadlockFree current := by
  rcases exists_reachable ordered_leads with ⟨current, reachable, passed⟩
  simp only [Bool.and_eq_true, beq_iff_eq] at passed
  refine ⟨current, reachable, awaits_of_awaiting passed.1, deadlock_free reachable ?_⟩
  refine acyclic_of_spelling (fun id => if id = ⟨firstId⟩ then firstText else secondText) ?_
  have first : Uuid.parse? firstText = some ⟨firstId⟩ := by decide +kernel
  have second : Uuid.parse? secondText = some ⟨secondId⟩ := by decide +kernel
  have spells (text : String) (named : text = firstText ∨ text = secondText) (id : Uuid)
      (parsed : Uuid.parse? text = some id) :
      text = if id = ⟨firstId⟩ then firstText else secondText := by
    rcases named with rfl | rfl
    · rw [← Option.some.inj (first.symm.trans parsed), if_pos rfl]
    · rw [← Option.some.inj (second.symm.trans parsed), if_neg (by decide)]
  have there : transferThere.fromAccountId = firstText ∧ transferThere.toAccountId = secondText := by
    decide +kernel
  have back : transferBack.fromAccountId = secondText ∧ transferBack.toAccountId = firstText := by
    decide +kernel
  intro thread dto transfer id
  fin_cases thread <;> cases transfer
  · exact ⟨spells _ (.inl there.1) id, spells _ (.inr there.2) id⟩
  · exact ⟨spells _ (.inr back.1) id, spells _ (.inl back.2) id⟩

end BankingBackend
