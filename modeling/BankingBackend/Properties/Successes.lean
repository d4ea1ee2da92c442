import BankingBackend.Calls.Journaling
import BankingBackend.Properties.Balances
import BankingBackend.Properties.ExactlyOnce

/-! # What a success tells

A returned transaction is a completed row of the caller's reference. It has the
accounts and the amount of the call that committed it, which need not be the call
that returns it.
-/

namespace BankingBackend

open Foundation Postgres Common Fraud Transactions

/-- The response shows a completed row with the customer, the type, the reference, the accounts
and the amount of a request. -/
structure Shows (params : TransactionParams) (row : Transaction) (response : Response) : Prop where
  completed : row.status = .completed
  rowOf : RowOf params row
  shown : response = .transaction (Transactions.toResponseDto row)

def Fulfills (database : Database) (params : TransactionParams) (response : Response) : Prop :=
  ∃ row ∈ database.transactions, Shows params row response

section Runs

variable {Thread : Type} [DecidableEq Thread] [Fintype Thread] {config : FraudConfig}
  {requests : Thread → Request} {current : Configuration Thread} {thread : Thread}
  {params : TransactionParams} {response : Response}

/-- The response to a request fulfills the request of the call that committed its row, which has
the same customer, type and reference. -/
theorem success_fulfills (reachable : Reachable config requests current)
    (asks : (requests thread).params? = some params)
    (ended : current.program thread = .done (.ok response)) :
    ∃ commit ∈ current.shared.server.log, ∃ row ∈ commit.tx.transactions,
      row ∈ current.shared.server.database.transactions ∧ ∃ original,
        (requests commit.thread).params? = some original ∧ original.key = params.key ∧
          Shows original row response := by
  rcases (exactly_once config requests).returnsRow current thread params response reachable asks
    ended with ⟨row, member, key, completed, shown⟩
  rcases reachable.invariant.logged member with ⟨commit, logged, written⟩
  rcases reachable.logged commit logged with ⟨database, committable⟩
  rcases committable.row written with ⟨_, original, posts | rejects⟩
  · exact ⟨commit, logged, row, written, member, original, posts.asks,
      posts.rowOf.key.symm.trans key, completed, posts.rowOf, shown⟩
  · rw [rejects.rejected] at completed
    cases completed

end Runs

/-! ### One reference for two amounts -/

def smallerDeposit : Operation :=
  .createDeposit
    ((CreateDepositRequestDto.validate 3 "deposit" sampleText).get (by decide +kernel))

/-- A deposit of 5.00 and one of 3.00 under the same reference. -/
def repeatedRequests : Fin 3 → Request
  | 0 => { userId := ⟨7⟩, operation := .createAccount ⟨.USD⟩ }
  | 1 => { userId := ⟨7⟩, operation := sampleDeposit }
  | 2 => { userId := ⟨7⟩, operation := smallerDeposit }

/-- The three calls one after the other; the last one only looks its reference up. -/
def repeatedRun : List (Label (Fin 3)) :=
  [act 0, act 0 sampleId, act 0] ++ List.replicate 8 (act 1) ++ [act 2]

def returnedCents (program : Program interface CallResult) : Option ℤ :=
  match program with
  | .done (.ok (.transaction dto)) => some dto.amount.cents
  | _ => none

private theorem repeated_leads : leadsTo {} repeatedRequests repeatedRun
    (fun current => returnedCents (current.program 2) == some 500) = true := by
  decide +kernel

theorem returnedCents_eq {program : Program interface CallResult} {cents : ℤ}
    (returned : returnedCents program = some cents) :
    ∃ dto, program = .done (.ok (.transaction dto)) ∧ dto.amount.cents = cents := by
  unfold returnedCents at returned
  split at returned
  · rename_i dto
    cases returned
    exact ⟨dto, rfl, rfl⟩
  · cases returned

theorem success_fulfills_repeated : ∃ current params response,
    Reachable {} repeatedRequests current ∧ (repeatedRequests 2).params? = some params ∧
    current.program 2 = .done (.ok response) ∧
    ∃ commit ∈ current.shared.server.log, ∃ row ∈ commit.tx.transactions,
      row ∈ current.shared.server.database.transactions ∧ ∃ original,
        (repeatedRequests commit.thread).params? = some original ∧ original.key = params.key ∧
          Shows original row response := by
  rcases exists_reachable repeated_leads with ⟨current, reachable, passed⟩
  rcases returnedCents_eq (by simpa using passed) with ⟨dto, ended, _⟩
  refine ⟨current, _, .transaction dto, reachable, rfl, ended, ?_⟩
  exact success_fulfills reachable rfl ended

/-- The second deposit is answered with the first one's 5.00. -/
theorem repeated_unfulfilled : ∃ current response, Reachable {} repeatedRequests current ∧
    current.program 2 = .done (.ok response) ∧
    ∀ params, (repeatedRequests 2).params? = some params →
      ¬Fulfills current.shared.server.database params response := by
  rcases exists_reachable repeated_leads with ⟨current, reachable, passed⟩
  rcases returnedCents_eq (by simpa using passed) with ⟨dto, ended, cents⟩
  refine ⟨current, .transaction dto, reachable, ended, ?_⟩
  rintro _ ⟨⟩ ⟨row, _, shows⟩
  have stored : row.amount.cents = 500 := by
    have same := shows.shown
    injection same with same
    rw [← cents, same]
    rfl
  have requested : row.amount.cents = 300 := by
    rw [Money.assign?_cents shows.rowOf.amount]
    decide +kernel
  omega

end BankingBackend
