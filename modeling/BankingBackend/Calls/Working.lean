import BankingBackend.Calls.Statements

/-! # Inside a transaction

What the collaborators of the transactions service do to an open transaction.
-/

namespace BankingBackend

open Foundation Postgres Common Transactions

variable {Thread : Type} [DecidableEq Thread]
  {requests : Thread → Request} {thread : Thread} {tx : Tx} {delta : Uuid → ℤ}

theorem Working.works {server : Server Thread}
    (working : Working requests thread tx delta server) (following : Tx)
    {change : Uuid → ℤ} (pending : server.Pending thread following)
    (versions : Versions server.database following change)
    (reads : ∀ account ∈ following.reads, account ∈ tx.reads ∨
      server.database.account? account.id = some account) :
    Effect (requests thread) thread server (server.setOpen thread (some following)) ∧
      Working requests thread following change (server.setOpen thread (some following)) := by
  have effect : Effect (requests thread) thread server
      (server.setOpen thread (some following)) := by
    refine .works _ ?_ ?_
    · rintro _ ⟨⟩
      exact pending
    · rintro _ ⟨⟩ account member
      exact (reads account member).imp (fun old => ⟨tx, working.opened, old⟩) id
  refine ⟨effect, working.setOpen effect, Server.setOpen_open _, versions, ?_⟩
  intro account member
  rcases reads account member with old | found
  · exact working.reads account old
  · exact ⟨account, found, rfl⟩

omit [DecidableEq Thread] in
/-- A row the transaction sees is a committed row with the balance it has made of
it. -/
theorem Working.visible {server : Server Thread}
    (working : Working requests thread tx delta server) {id : Uuid} {account : Account}
    (visible : server.visible thread id = some account) :
    ∃ committed, server.database.account? id = some committed ∧
      account = { committed with balance := account.balance } ∧
      account.balance.cents = committed.balance.cents + delta id ∧
      0 ≤ account.balance.cents := by
  rw [Server.visible_open working.opened] at visible
  rcases Option.map_eq_some_iff.mp visible with ⟨committed, found, rfl⟩
  have same := Database.account?_id found
  have version := working.versions id
  cases written : tx.accounts id with
  | none =>
      rw [written] at version
      rw [Tx.version_of_unwritten (same ▸ written)]
      have nonneg := working.invariant.sound.nonneg id (holdingOf committed)
        (by simp [ledgerOf, found])
      exact ⟨committed, found, rfl, by simp [version], nonneg⟩
  | some current =>
      rw [written] at version
      have changed : tx.version committed = current := by simp [Tx.version, same, written]
      rw [changed]
      exact version

variable [Fintype Thread] {world : World Thread}

/-! ## Reading an account -/

theorem meets_getAccountOrThrow {text : String}
    (working : Working requests thread tx delta world.server)
    (unwritten : tx.accounts = fun _ => none) :
    Meets requests thread (getAccountOrThrow text)
      (Ends (fun account server => Uuid.parse? text = some account.id ∧
          Working requests thread (tx.read account) delta server)
        (Undecided requests thread)) world := by
  have finds : Meets requests thread (query (.accountFindUnique text))
      (Ends (fun found server => Undecided requests thread server ∧
          ∀ account, found = some account → Uuid.parse? text = some account.id ∧
            Working requests thread (tx.read account) delta server)
        (Undecided requests thread)) world := by
    refine meets_statement working working_stable (fun _ => rfl)
      (fun _ _ working => working.toUndecided) ?_
    intro server newId now answer after working responded
    simp only [Server.respond] at responded
    split at responded
    · cases responded
      exact ⟨.unchanged, working.toUndecided⟩
    · rename_i id parsed
      split at responded
      · cases responded
        exact ⟨.unchanged, working.toUndecided, by simp⟩
      · rename_i account visible
        rw [working.opened] at responded
        cases responded
        have committed : server.database.account? id = some account := by
          rw [Server.visible_open working.opened] at visible
          rcases Option.map_eq_some_iff.mp visible with ⟨row, found, rfl⟩
          rwa [Tx.version_of_unwritten (by rw [unwritten])]
        have same := Database.account?_id committed
        have pending := working.invariant.pending thread tx working.opened
        have works := working.works (tx.read account)
          (pending.mono rfl fun row member => ⟨row, member, rfl, rfl⟩) working.versions (by
            intro read member
            rcases List.mem_append.mp member with old | new
            · exact .inl old
            · rcases List.mem_singleton.mp new with rfl
              exact .inr (same ▸ committed))
        refine ⟨works.1, works.2.toUndecided, fun found equal => ?_⟩
        cases equal
        exact ⟨same ▸ parsed, works.2⟩
  unfold getAccountOrThrow
  refine finds.bind (fun _ _ undecided => undecided) fun found between holds => ?_
  cases found with
  | some account => exact .pure (holds.2 account rfl)
  | none => exact .throw holds.1

/-! ## Checking an account -/

theorem meets_ensureOwnedByUserOrThrow {accountCustomerId userId : Uuid}
    (working : Working requests thread tx delta world.server) :
    Meets requests thread (ensureOwnedByUserOrThrow accountCustomerId userId)
      (Ends (fun _ server => accountCustomerId = userId ∧
          Working requests thread tx delta server) (Undecided requests thread)) world :=
  EnsuresResult.check (fun _ => working.toUndecided) fun same => ⟨not_not.mp same, working⟩

theorem meets_ensureActiveOrThrow {accountStatus : AccountStatus} {message : String}
    (working : Working requests thread tx delta world.server) :
    Meets requests thread (ensureActiveOrThrow accountStatus message)
      (Ends (fun _ server => accountStatus = .active ∧
          Working requests thread tx delta server) (Undecided requests thread)) world :=
  EnsuresResult.check (fun _ => working.toUndecided) fun active => ⟨not_not.mp active, working⟩

/-! ## Inserting and completing the row -/

omit [DecidableEq Thread] [Fintype Thread] in
theorem rowOf_data {params : TransactionParams} {status : TransactionStatus}
    {fraudDecision : Option Postgres.FraudDecision} {fraudReason : Option String} {id : Uuid}
    {now : ℕ} {row : Transaction}
    (valid : (params.data status fraudDecision fraudReason).row id now = .ok row) :
    RowOf params row ∧ row.status = status ∧ row.fraudDecision = fraudDecision := by
  rcases TransactionData.row_ok valid with ⟨_, _, _, fromParsed, toParsed, assigned, rfl⟩
  exact ⟨⟨rfl, rfl, rfl, fromParsed, toParsed, assigned⟩, rfl, rfl⟩

theorem meets_transactionCreate {data : TransactionData}
    (working : Working requests thread tx delta world.server) :
    Meets requests thread (query (.transactionCreate data))
      (Ends (fun row server => (∃ id now, data.row id now = .ok row) ∧
          Working requests thread (tx.insertTransaction row) delta server)
        (Undecided requests thread)) world := by
  refine meets_statement working working_stable (fun _ => rfl)
    (fun _ _ working => working.toUndecided) ?_
  intro server newId now answer after working responded
  simp only [Server.respond] at responded
  rcases Server.insertTransaction_cases responded with
    ⟨error, rfl, rfl⟩ | ⟨row, rfl, valid, others, committed, rfl⟩
  · exact ⟨.unchanged, working.toUndecided⟩
  · rw [Server.write_open working.opened]
    have pending := working.invariant.pending thread tx working.opened
    have works := working.works (tx.insertTransaction row)
      (pending.insertTransaction others committed) working.versions
      fun account member => .inl member
    exact ⟨works.1, ⟨newId, now, valid⟩, works.2⟩

theorem meets_markCompleted {id : Uuid}
    (working : Working requests thread tx delta world.server) :
    Meets requests thread (markCompleted id)
      (Ends (fun completed server => (∃ row ∈ tx.transactions, row.id = id ∧
            completed = { row with status := .completed }) ∧
          Working requests thread (tx.setStatus id .completed) delta server)
        (Undecided requests thread)) world := by
  refine meets_statement working working_stable (fun _ => rfl)
    (fun _ _ working => working.toUndecided) ?_
  intro server newId now answer after working responded
  simp only [Server.respond, working.opened, Option.bind_some] at responded
  split at responded
  · rename_i row found
    cases responded
    rw [Server.write_open working.opened]
    have pending := working.invariant.pending thread tx working.opened
    have kept : ∀ completed ∈ (tx.setStatus id .completed).transactions,
        ∃ row ∈ tx.transactions, completed.key = row.key ∧ completed.id = row.id := by
      intro completed member
      rcases List.mem_map.mp member with ⟨row, rowMember, rfl⟩
      refine ⟨row, rowMember, ?_⟩
      split <;> exact ⟨rfl, rfl⟩
    have works := working.works (tx.setStatus id .completed)
      (pending.mono rfl kept) working.versions fun account member => .inl member
    have test := List.find?_some found
    exact ⟨works.1, ⟨row, List.mem_of_find?_eq_some found, by simpa using test, rfl⟩, works.2⟩
  · cases responded
    exact ⟨.unchanged, working.toUndecided⟩

theorem meets_eventCreate {data : EventData}
    (working : Working requests thread tx delta world.server) :
    Meets requests thread (query (.eventCreate data))
      (Ends (fun _ server => ∃ event : Event, event.type = data.type ∧
          event.payload = data.payload ∧
          Working requests thread (tx.insertEvent event) delta server)
        (Undecided requests thread)) world := by
  refine meets_statement working working_stable (fun _ => rfl)
    (fun _ _ working => working.toUndecided) ?_
  intro server newId now answer after working responded
  simp only [Server.respond] at responded
  cases responded
  rw [Server.write_open working.opened]
  have pending := working.invariant.pending thread tx working.opened
  have works := fun event => working.works (tx.insertEvent event)
    (pending.mono rfl fun row member => ⟨row, member, rfl, rfl⟩) working.versions
    fun account member => .inl member
  exact ⟨(works _).1, _, rfl, rfl, (works _).2⟩

/-! ## Moving money -/

/-- The balance of the version after an update by `change` cents. -/
structure Changes (filter : AccountFilter) (data : AccountUpdate) (change : ℤ) : Prop where
  writes : ∀ account written, filter.admits account = true → data.apply account = some written →
    0 ≤ account.balance.cents → written = { account with balance := written.balance } ∧
      written.balance.cents = account.balance.cents + change ∧ 0 ≤ written.balance.cents

omit [DecidableEq Thread] [Fintype Thread] in
theorem changes_increment {amount : ℚ} (nonneg : 0 ≤ amount) :
    Changes {} (.increment amount) (Money.creditCents amount) where
  writes account written _ applied covered := by
    rcases Option.map_eq_some_iff.mp applied with ⟨balance, assigned, rfl⟩
    have cents := Money.increment_cents covered nonneg assigned
    have credit := Money.creditCents_nonneg nonneg
    exact ⟨rfl, cents, by show 0 ≤ balance.cents; omega⟩

omit [DecidableEq Thread] [Fintype Thread] in
theorem changes_decrement {amount : ℚ} :
    Changes { balance := some (.gte amount) } (.decrement amount)
      (-Money.debitCents amount) where
  writes account written admitted applied _ := by
    have covers : amount ≤ account.balance.toRat := by
      simpa [AccountFilter.admits, BalanceFilter.admits] using admitted
    rcases Option.map_eq_some_iff.mp applied with ⟨balance, assigned, rfl⟩
    have cents := Money.decrement_cents covers assigned
    have bounded := Money.debitCents_le covers
    exact ⟨rfl, by show balance.cents = _; omega, by show 0 ≤ balance.cents; omega⟩

/-- An update of one row moves its balance and leaves every other row alone. -/
theorem Working.updates {server after : Server Thread}
    (working : Working requests thread tx delta server) {id : Uuid} {filter : AccountFilter}
    {data : AccountUpdate} {change : ℤ} (changes : Changes filter data change)
    (updated : server.updateAccount thread id filter data = .updated after) :
    Effect (requests thread) thread server after ∧
      ∃ written, written.id = id ∧
        Working requests thread (tx.writeAccount written)
          (fun key => delta key + if key = id then change else 0) after := by
  rcases Server.updateAccount_updated updated with
    ⟨account, written, visible, admitted, applied, free, rfl⟩
  rw [Server.write_open working.opened]
  rcases working.visible visible with ⟨committed, found, shape, cents, nonneg⟩
  rcases changes.writes account written admitted applied nonneg with
    ⟨writtenShape, writtenCents, writtenNonneg⟩
  have committedId := Database.account?_id found
  have sameAccount : account.id = id := by
    rw [shape]
    exact committedId
  have same : written.id = id := by
    rw [writtenShape]
    exact sameAccount
  have pending := working.invariant.pending thread tx working.opened
  have versions : Versions server.database (tx.writeAccount written)
      (fun key => delta key + if key = id then change else 0) := by
    intro key
    by_cases equal : key = id
    · subst equal
      simp only [Tx.writeAccount, same, Function.update_self, if_true]
      refine ⟨committed, found, ?_, by omega, writtenNonneg⟩
      rw [writtenShape, shape]
    · simp only [Tx.writeAccount, same, Function.update_of_ne equal, if_neg equal, add_zero]
      exact working.versions key
  have works := working.works (tx.writeAccount written)
    (pending.writeAccount (same.symm ▸ free)) versions fun account member => .inl member
  exact ⟨works.1, written, same, works.2⟩

theorem meets_incrementBalance {text : String} {amount : ℚ} (nonneg : 0 ≤ amount)
    (working : Working requests thread tx delta world.server) :
    Meets requests thread (incrementBalance text amount)
      (Ends (fun _ server => ∃ written, Uuid.parse? text = some written.id ∧
          Working requests thread (tx.writeAccount written)
            (fun key => delta key + if key = written.id then Money.creditCents amount else 0)
            server)
        (Undecided requests thread)) world := by
  refine meets_statement working working_stable (fun _ => rfl)
    (fun _ _ working => working.toUndecided) ?_
  intro server newId now answer after working responded
  simp only [Server.respond] at responded
  split at responded
  · cases responded
    exact ⟨.unchanged, working.toUndecided⟩
  · rename_i id parsed
    split at responded
    · cases responded
    · cases responded
      exact ⟨.unchanged, working.toUndecided⟩
    · cases responded
      exact ⟨.unchanged, working.toUndecided⟩
    · rename_i following updated
      cases responded
      rcases working.updates (changes_increment nonneg) updated with ⟨effect, written, rfl, works⟩
      exact ⟨effect, written, parsed, works⟩

theorem meets_decrementBalance {text : String} {amount : ℚ}
    (working : Working requests thread tx delta world.server) :
    Meets requests thread (decrementBalance text amount)
      (Ends (fun count server => Undecided requests thread server ∧ (count = 1 →
          ∃ written, Uuid.parse? text = some written.id ∧
            Working requests thread (tx.writeAccount written)
              (fun key => delta key + if key = written.id then -Money.debitCents amount else 0)
              server))
        (Undecided requests thread)) world := by
  refine meets_statement working working_stable (fun _ => rfl)
    (fun _ _ working => working.toUndecided) ?_
  intro server newId now answer after working responded
  simp only [Server.respond] at responded
  split at responded
  · cases responded
    exact ⟨.unchanged, working.toUndecided⟩
  · rename_i id parsed
    split at responded
    · cases responded
    · cases responded
      exact ⟨.unchanged, working.toUndecided, fun absurd => by cases absurd⟩
    · cases responded
      exact ⟨.unchanged, working.toUndecided⟩
    · rename_i following updated
      cases responded
      rcases working.updates changes_decrement updated with ⟨effect, written, rfl, works⟩
      exact ⟨effect, works.toUndecided, fun _ => ⟨written, parsed, works⟩⟩

end BankingBackend
