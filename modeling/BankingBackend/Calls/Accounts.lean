import BankingBackend.Calls.Statements

/-! # The accounts service

Every call returns and changes only accounts of its own user, and moves no money.
-/

namespace BankingBackend

open Foundation Postgres Common Accounts Transactions

variable {Thread : Type} [DecidableEq Thread]
  {requests : Thread → Request} {thread : Thread} {context : RequestContext}

def Shown (user : Uuid) (dto : AccountResponseDto) (server : Server Thread) : Prop :=
  Owns server.database user dto.id

/-! ## Statements of their own -/

theorem Idle.commits {server : Server Thread} (idle : Idle requests thread server) (tx : Tx)
    (pending : server.Pending thread tx)
    (committable : Committable (requests thread) server.database tx)
    (transactions : tx.transactions = []) :
    Effect (requests thread) thread server (server.commitTx thread tx) ∧
      Idle requests thread (server.commitTx thread tx) := by
  have effect : Effect (requests thread) thread server (server.commitTx thread tx) :=
    .commits tx pending committable (.inr transactions)
  refine ⟨effect, ⟨effect.keeps idle.invariant, ?_⟩, Server.commitTx_open tx⟩
  intro commit member own row rowMember
  rcases List.mem_append.mp member with old | new
  · exact idle.unmoved commit old own row rowMember
  · rcases List.mem_singleton.mp new with rfl
    simp [transactions] at rowMember

theorem admits_customer (filter : AccountFilter) {user : Uuid} {account : Account}
    (admitted : { filter with customerId := some user }.admits account = true) :
    account.customerId = user ∧ ({ filter with customerId := none }.admits account = true) := by
  simp only [AccountFilter.admits, Bool.and_eq_true, Option.all_some, beq_iff_eq,
    Option.all_none, true_and] at admitted ⊢
  exact ⟨admitted.1.1.1.symm, ⟨admitted.1.1.2, admitted.1.2⟩, admitted.2⟩

variable [Fintype Thread] {world : World Thread}

structure Owning (requests : Thread → Request) (thread : Thread) (user : Uuid) (ids : List Uuid)
    (server : Server Thread) : Prop extends Idle requests thread server where
  owned : ∀ id ∈ ids, Owns server.database user id

omit [DecidableEq Thread] [Fintype Thread] in
theorem owning_stable {user : Uuid} {ids : List Uuid} :
    Stable requests thread (Owning requests thread user ids) := by
  intro before after rely owning
  exact ⟨idle_stable before after rely owning.toIdle,
    fun id member => rely.owners user id (owning.owned id member)⟩

theorem meets_auditLogCreate {data : AuditLogData} {user : Uuid} {ids : List Uuid}
    (owning : Owning requests thread user ids world.server) :
    Meets requests thread (query (.auditLogCreate data))
      (Ends (fun _ => Owning requests thread user ids) (Undecided requests thread)) world := by
  refine meets_statement owning owning_stable (fun _ => rfl)
    (fun _ _ owning => owning.toUndecided) ?_
  intro server newId now answer after owning responded
  simp only [Server.respond] at responded
  split at responded
  · cases responded
    exact ⟨.unchanged, owning.toUndecided⟩
  · cases responded
    rw [Server.write_closed owning.closed]
    have commits := fun tx unwritten created transactions events =>
      owning.commits tx (Server.pending_of_empty unwritten transactions)
        (.audit unwritten created transactions events) transactions
    refine ⟨(commits _ rfl rfl rfl rfl).1, (commits _ rfl rfl rfl rfl).2, fun id member => ?_⟩
    rcases owning.owned id member with ⟨account, found, owner⟩
    refine ⟨account, ?_, owner⟩
    rw [Server.commitTx_database, holdings_unwritten rfl rfl, found]

theorem meets_findMany {user : Uuid} (idle : Idle requests thread world.server) :
    Meets requests thread (query (.accountFindMany { customerId := some user }))
      (Ends (fun accounts server => Idle requests thread server ∧
          ∀ account ∈ accounts, Owns server.database user account.id)
        (Undecided requests thread)) world := by
  refine meets_read idle idle_stable (fun _ => rfl) (fun _ _ idle => idle.toUndecided) ?_
  intro server newId now answer after idle responded
  cases responded
  refine ⟨rfl, idle, ?_⟩
  intro account member
  rcases List.mem_filter.mp member with ⟨committed, admitted⟩
  exact ⟨account, Database.account?_of_mem idle.invariant.accountIds committed,
    (admits_customer {} admitted).1⟩

theorem meets_findOwned {user : Uuid} {text : String} (idle : Idle requests thread world.server) :
    Meets requests thread (findOwned user text)
      (Ends (fun found server => Idle requests thread server ∧
          ∀ account, found = some account → Owns server.database user account.id)
        (Undecided requests thread)) world := by
  refine meets_read idle idle_stable (fun _ => rfl) (fun _ _ idle => idle.toUndecided) ?_
  intro server newId now answer after idle responded
  cases responded
  refine ⟨rfl, ?_⟩
  simp only [Server.findFirstAccount]
  split
  · exact idle.toUndecided
  · rename_i id parsed
    refine ⟨idle, fun account found => ?_⟩
    rcases Option.filter_eq_some_iff.mp found with ⟨visible, admitted⟩
    rw [Server.visible_closed idle.closed] at visible
    have same := Database.account?_id visible
    exact ⟨account, same ▸ visible, (admits_customer {} admitted).1⟩

theorem meets_accountCreate {user : Uuid} {currency : Currency}
    (own : user = (requests thread).userId) (idle : Idle requests thread world.server) :
    Meets requests thread (query (.accountCreate user currency))
      (Ends (fun account server => Idle requests thread server ∧
          Owns server.database user account.id) (Undecided requests thread)) world := by
  refine meets_statement idle idle_stable (fun _ => rfl) (fun _ _ idle => idle.toUndecided) ?_
  intro server newId now answer after idle responded
  simp only [Server.respond, idle.closed] at responded
  split at responded
  · cases responded
  · rename_i unused
    split at responded
    · cases responded
      exact ⟨.unchanged, idle.toUndecided⟩
    · cases responded
      rw [Server.write_closed idle.closed]
      subst own
      have fresh : server.database.account? newId = none := by simpa using unused
      have commits := idle.commits (Tx.empty.createAccount
          ⟨newId, (requests thread).userId, .zero, currency, .active, now⟩)
        (Server.pending_of_empty rfl rfl) (.openAccount newId currency now fresh rfl) rfl
      refine ⟨commits.1, commits.2,
        ⟨newId, (requests thread).userId, .zero, currency, .active, now⟩, ?_, rfl⟩
      have keeps : Tx.KeepsIds (Tx.empty.createAccount
          ⟨newId, (requests thread).userId, .zero, currency, .active, now⟩) :=
        fun _ _ absurd => by cases absurd
      rw [Server.commitTx_database, keeps.account?_applyTo, fresh]
      simp [Tx.createAccount, Tx.empty]

/-! ## Reading and creating -/

theorem meets_getAccounts {user : Uuid} (idle : Idle requests thread world.server) :
    Meets requests thread (getAccounts user)
      (Ends (fun dtos server => ∀ dto ∈ dtos, Shown user dto server)
        (Undecided requests thread)) world := by
  refine (meets_findMany idle).bind (fun _ _ undecided => undecided) ?_
  rintro accounts between ⟨_, owned⟩
  refine .pure fun dto member => ?_
  rcases List.mem_map.mp member with ⟨account, accountMember, rfl⟩
  exact owned account accountMember

theorem meets_getAccountById {user : Uuid} {text : String}
    (idle : Idle requests thread world.server) :
    Meets requests thread (getAccountById user text)
      (Ends (Shown user) (Undecided requests thread)) world := by
  refine (meets_findOwned idle).bind (fun _ _ undecided => undecided) ?_
  rintro found between ⟨idle, owned⟩
  cases found with
  | some account => exact .pure (owned account rfl)
  | none => exact .throw idle.toUndecided

theorem meets_createAccount {user : Uuid} {dto : CreateAccountRequestDto}
    (own : user = (requests thread).userId) (idle : Idle requests thread world.server) :
    Meets requests thread (createAccount context user dto)
      (Ends (Shown user) (Undecided requests thread)) world := by
  have looks : Meets requests thread (query (.accountFindFirst none
      { customerId := some user, currency := some dto.currency
        status := some (.differs .closed) }))
      (fun _ server => Idle requests thread server) world := by
    refine meets_read idle idle_stable (fun _ => rfl) (fun _ _ idle => idle) ?_
    intro server newId now answer after idle responded
    cases responded
    exact ⟨rfl, idle⟩
  refine looks.bind (fun _ _ idle => idle.toUndecided) ?_
  intro existing between idle
  cases existing with
  | some account => exact .throw idle.toUndecided
  | none =>
      have creates : Meets requests thread
          (tryCatch (query (.accountCreate user dto.currency)) fun err =>
            if err.code = some "P2002" then
              throw (.http (.conflict (accountExistsMessage dto.currency)))
            else throw err)
          (Ends (fun account server => Idle requests thread server ∧
            Owns server.database user account.id) (Undecided requests thread)) between := by
        refine EnsuresResult.tryCatch (meets_accountCreate own idle) (fun _ _ holds => holds) ?_
        intro error between undecided
        by_cases conflict : error.code = some "P2002"
        · rw [if_pos conflict]
          exact .throw undecided
        · rw [if_neg conflict]
          exact .throw undecided
      refine creates.bind (fun _ _ undecided => undecided) ?_
      rintro account between ⟨idle, owned⟩
      have owning : Owning requests thread user [account.id] between.server :=
        ⟨idle, by simpa using owned⟩
      refine (meets_auditLogCreate owning).bind (fun _ _ undecided => undecided) ?_
      rintro _ between ⟨_, owned⟩
      exact .pure (owned account.id (.head _))

/-! ## Changing the status -/

structure ChangesOpen (change : StatusChange) : Prop where
  anyCustomer : change.filter.customerId = none
  notClosed : ∀ account, change.filter.admits account = true → account.status ≠ .closed
  emptied : ∀ account, change.filter.admits account = true → change.status = .closed →
    account.balance.cents = 0

omit [DecidableEq Thread] [Fintype Thread] in
theorem changesOpen_freeze : ChangesOpen freeze where
  anyCustomer := rfl
  notClosed account admitted := by
    have active : account.status = .active := by
      simpa [freeze, AccountFilter.admits, StatusFilter.admits] using admitted
    rw [active]
    decide
  emptied _ _ absurd := by cases absurd

omit [DecidableEq Thread] [Fintype Thread] in
theorem changesOpen_unfreeze : ChangesOpen unfreeze where
  anyCustomer := rfl
  notClosed account admitted := by
    have frozen : account.status = .frozen := by
      simpa [unfreeze, AccountFilter.admits, StatusFilter.admits] using admitted
    rw [frozen]
    decide
  emptied _ _ absurd := by cases absurd

omit [DecidableEq Thread] [Fintype Thread] in
theorem changesOpen_close : ChangesOpen close where
  anyCustomer := rfl
  notClosed account admitted closed := by
    simp [close, AccountFilter.admits, StatusFilter.admits, closed] at admitted
  emptied account admitted _ := by
    have empty : account.balance.toRat = 0 := by
      simp only [close, AccountFilter.admits, BalanceFilter.admits, Bool.and_eq_true,
        Option.all_some, beq_iff_eq] at admitted
      exact admitted.2
    have cents : (account.balance.cents : ℚ) = 0 := by
      unfold Money.toRat at empty
      linarith
    exact_mod_cast cents

omit [DecidableEq Thread] [Fintype Thread] in
theorem ChangesOpen.filter {change : StatusChange} (opens : ChangesOpen change) :
    { change.filter with customerId := none } = change.filter := by
  rw [← opens.anyCustomer]

theorem meets_setStatus {change : StatusChange} {user : Uuid} {text : String}
    (opens : ChangesOpen change) (own : user = (requests thread).userId)
    (idle : Idle requests thread world.server) :
    Meets requests thread
      (query (.accountUpdateMany text { change.filter with customerId := some user }
        (.setStatus change.status)))
      (Ends (fun _ => Idle requests thread) (Undecided requests thread)) world := by
  refine meets_statement idle idle_stable (fun _ => rfl) (fun _ _ idle => idle.toUndecided) ?_
  intro server newId now answer after idle responded
  simp only [Server.respond] at responded
  split at responded
  · cases responded
    exact ⟨.unchanged, idle.toUndecided⟩
  · rename_i id parsed
    split at responded
    · cases responded
    · cases responded
      exact ⟨.unchanged, idle⟩
    · cases responded
      exact ⟨.unchanged, idle.toUndecided⟩
    · rename_i following updated
      cases responded
      rcases Server.updateAccount_updated updated with
        ⟨account, written, visible, admitted, applied, free, rfl⟩
      rw [Server.visible_closed idle.closed] at visible
      rcases admits_customer _ admitted with ⟨owner, admits⟩
      rw [opens.filter] at admits
      cases applied
      have same := Database.account?_id visible
      rw [Server.write_closed idle.closed]
      have pending : server.Pending thread
          (Tx.empty.writeAccount { account with status := change.status }) :=
        (Server.pending_of_empty rfl rfl).writeAccount (same ▸ free)
      exact idle.commits _ pending
        (.setStatus account change.status (same ▸ visible) (owner.trans own)
          (opens.notClosed account admits) (opens.emptied account admits) rfl) rfl

theorem meets_changeStatus {change : StatusChange} {user : Uuid} {text : String}
    (opens : ChangesOpen change) (own : user = (requests thread).userId)
    (idle : Idle requests thread world.server) :
    Meets requests thread (changeStatus change context user text)
      (Ends (Shown user) (Undecided requests thread)) world := by
  refine (meets_setStatus opens own idle).bind (fun _ _ undecided => undecided) ?_
  intro count between idle
  by_cases one : count = 1
  · rw [if_neg (not_not.mpr one)]
    have owning : Owning requests thread user [] between.server :=
      ⟨idle, fun _ absurd => by cases absurd⟩
    refine (meets_auditLogCreate owning).bind (fun _ _ undecided => undecided) ?_
    rintro _ between ⟨idle, _⟩
    refine (meets_findOwned idle).bind (fun _ _ undecided => undecided) ?_
    rintro found between ⟨idle, owned⟩
    cases found with
    | some account => exact .pure (owned account rfl)
    | none => exact .throw idle.toUndecided
  · rw [if_pos one]
    refine (meets_findOwned idle).bind (fun _ _ undecided => undecided) ?_
    rintro found between ⟨idle, owned⟩
    cases found with
    | some account => exact .throw idle.toUndecided
    | none => exact .throw idle.toUndecided

end BankingBackend
