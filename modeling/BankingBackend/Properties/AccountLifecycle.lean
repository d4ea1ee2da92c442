import BankingBackend.Calls.Openings

/-! # The lifecycle of an account

A customer has at most one open account in a currency. Its status changes along the
three transitions only, each made by the first step of one call, and of several
concurrent requests for an account exactly one opens it.
-/

namespace BankingBackend

open Foundation Foundation.Program Postgres Common Fraud Transactions Accounts

inductive Transition : AccountStatus → AccountStatus → Prop
  | freezes : Transition .active .frozen
  | unfreezes : Transition .frozen .active
  | closesActive : Transition .active .closed
  | closesFrozen : Transition .frozen .closed

theorem Transition.differs {before after : AccountStatus} (transition : Transition before after) :
    before ≠ after ∧ before ≠ .closed := by
  cases transition <;> decide

theorem Request.change?_transition {request : Request} {text : String} {change : StatusChange}
    (asks : request.change? = some (text, change)) {account : Account}
    (admitted : change.filter.admits account = true) :
    Transition account.status change.status := by
  rcases request with ⟨userId, context, operation⟩
  cases status : account.status <;> cases operation <;> cases asks <;>
    simp [freeze, unfreeze, Accounts.close, AccountFilter.admits, StatusFilter.admits, status]
      at admitted <;> constructor

def Opens (request : Request) (customerId : Uuid) (currency : Currency) : Prop :=
  request.userId = customerId ∧ request.operation = .createAccount ⟨currency⟩

/-! ## The accounts of a customer in a currency -/

namespace Postgres.Database

def Belongs (database : Database) (customerId : Uuid) (currency : Currency) (id : Uuid) : Prop :=
  ∃ status, database.standing? id = some ⟨customerId, currency, status⟩

def Opened (database : Database) (customerId : Uuid) (currency : Currency) (id : Uuid) : Prop :=
  ∃ status, database.standing? id = some ⟨customerId, currency, status⟩ ∧ status ≠ .closed

variable {database : Database} {customerId : Uuid} {currency : Currency} {id : Uuid}

theorem opened_of_account? {account : Account} (found : database.account? id = some account)
    (opened : account.status ≠ .closed) : database.Opened account.customerId account.currency id :=
  ⟨account.status, by rw [standing?, found]; rfl, opened⟩

theorem standing?_eq {standing : Standing} (stands : database.standing? id = some standing) :
    ∃ account, database.account? id = some account ∧ account.standing = standing :=
  Option.map_eq_some_iff.mp stands

/-- The unique index looks at the open accounts. -/
theorem hasOpenAccount_iff (ids : (database.accounts.map Account.id).Nodup) :
    Server.hasOpenAccount database customerId currency = true ↔
      ∃ id, database.Opened customerId currency id := by
  simp only [Server.hasOpenAccount, List.any_eq_true, Bool.and_eq_true, beq_iff_eq, bne_iff_ne]
  constructor
  · rintro ⟨account, member, ⟨rfl, rfl⟩, opened⟩
    exact ⟨account.id, opened_of_account? (account?_of_mem ids member) opened⟩
  · rintro ⟨id, status, stands, opened⟩
    rcases standing?_eq stands with ⟨account, found, same⟩
    cases same
    exact ⟨account, List.mem_of_find?_eq_some found, ⟨rfl, rfl⟩, opened⟩

end Postgres.Database

/-! ## One step -/

section Steps

variable {request : Request} {statement : Statement}
  {answer : Except DatabaseError statement.Result} {before after : Database} {customerId : Uuid}
  {currency : Currency}

/-- An account that a step opens is the only one it opens, and there was none. -/
theorem AccountsStep.opened (accounts : AccountsStep request statement answer before after)
    (customerId : Uuid) (currency : Currency) : ∃ new, ∀ id, after.Opened customerId currency id →
      before.Opened customerId currency id ∨ id = new ∧ Opens request customerId currency ∧
        Server.hasOpenAccount before customerId currency = false := by
  cases accounts with
  | keeps same =>
      refine ⟨⟨0⟩, fun id opened => .inl ?_⟩
      simpa only [Database.Opened, same] using opened
  | opens dto new asks fresh unique changes =>
      refine ⟨new, fun id opened => ?_⟩
      rcases opened with ⟨status, stands, opened⟩
      rw [changes] at stands
      split at stands
      · rename_i same
        cases stands
        exact .inr ⟨same, ⟨rfl, asks⟩, unique⟩
      · exact .inl ⟨status, stands, opened⟩
  | changes text change account asks sets parsed found owned admitted changes =>
      refine ⟨⟨0⟩, fun id opened => .inl ?_⟩
      rcases opened with ⟨status, stands, opened⟩
      rw [changes] at stands
      split at stands
      · rename_i same
        cases stands
        subst same
        exact Database.opened_of_account? found (Request.change?_transition asks admitted).differs.2
      · exact ⟨status, stands, opened⟩

/-- A step opens no second account. -/
theorem AccountsStep.oneOpened (accounts : AccountsStep request statement answer before after)
    (ids : (before.accounts.map Account.id).Nodup)
    (one : ∀ id other, before.Opened customerId currency id →
      before.Opened customerId currency other → id = other) {id other : Uuid}
    (first : after.Opened customerId currency id)
    (second : after.Opened customerId currency other) : id = other := by
  have excludes {key : Uuid} (opened : before.Opened customerId currency key)
      (free : Server.hasOpenAccount before customerId currency = false) : False := by
    rw [(Database.hasOpenAccount_iff ids).mpr ⟨key, opened⟩] at free
    cases free
  rcases accounts.opened customerId currency with ⟨new, opened⟩
  rcases opened id first with old | ⟨rfl, _, free⟩
  · rcases opened other second with otherOld | ⟨_, _, free⟩
    · exact one id other old otherOld
    · exact (excludes old free).elim
  · rcases opened other second with otherOld | ⟨rfl, _, _⟩
    · exact (excludes otherOld free).elim
    · rfl

/-- An open account stays open when no one asks to close it. -/
theorem AccountsStep.stays (accounts : AccountsStep request statement answer before after)
    (unclosing : ∀ text, request.operation ≠ .closeAccount text) {id : Uuid}
    (opened : before.Opened customerId currency id) : after.Opened customerId currency id := by
  rcases opened with ⟨status, stands, opened⟩
  cases accounts with
  | keeps same => exact ⟨status, (same id).trans stands, opened⟩
  | opens dto new asks fresh unique changes =>
      refine ⟨status, ?_, opened⟩
      rw [changes, if_neg, stands]
      rintro rfl
      simp [Database.standing?, fresh] at stands
  | changes text change account asks sets parsed found owned admitted changes =>
      by_cases same : id = account.id
      · subst same
        refine ⟨change.status, ?_, ?_⟩
        · rw [Database.standing?, found] at stands
          cases stands
          rw [changes, if_pos rfl]
          rfl
        · rcases request with ⟨userId, context, operation⟩
          cases operation <;> cases asks
          · rintro ⟨⟩
          · rintro ⟨⟩
          · exact absurd rfl (unclosing _)
      · exact ⟨status, by rw [changes, if_neg same, stands], opened⟩

/-- Only a request for an account adds one. -/
theorem AccountsStep.belongs (accounts : AccountsStep request statement answer before after)
    {id : Uuid} (belongs : after.Belongs customerId currency id) :
    before.Belongs customerId currency id ∨ Opens request customerId currency := by
  rcases belongs with ⟨status, stands⟩
  cases accounts with
  | keeps same => exact .inl ⟨status, (same id).symm.trans stands⟩
  | opens dto new asks fresh unique changes =>
      rw [changes] at stands
      split at stands
      · cases stands
        exact .inr ⟨rfl, asks⟩
      · exact .inl ⟨status, stands⟩
  | changes text change account asks sets parsed found owned admitted changes =>
      rw [changes] at stands
      split at stands
      · rename_i same
        cases stands
        subst same
        exact .inl ⟨account.status, by rw [Database.standing?, found]; rfl⟩
      · exact .inl ⟨status, stands⟩

theorem AccountsStep.persists (accounts : AccountsStep request statement answer before after)
    {id : Uuid} (present : (before.standing? id).isSome) : (after.standing? id).isSome := by
  cases accounts with
  | keeps same => rwa [same]
  | opens dto new asks fresh unique changes =>
      rw [changes]
      split
      · rfl
      · exact present
  | changes text change account asks sets parsed found owned admitted changes =>
      rw [changes]
      split
      · rfl
      · exact present

theorem AccountsStep.closed (accounts : AccountsStep request statement answer before after)
    {id : Uuid} {standing : Standing} (stands : before.standing? id = some standing)
    (closed : standing.status = .closed) : after.standing? id = some standing := by
  cases accounts with
  | keeps same => exact (same id).trans stands
  | opens dto new asks fresh unique changes =>
      rw [changes, if_neg, stands]
      rintro rfl
      simp [Database.standing?, fresh] at stands
  | changes text change account asks sets parsed found owned admitted changes =>
      rw [changes, if_neg, stands]
      rintro rfl
      rw [Database.standing?, found] at stands
      cases stands
      exact (Request.change?_transition asks admitted).differs.2 closed

/-- A step that changes the status of an account is that of a call that asks for it. -/
theorem AccountsStep.changed (accounts : AccountsStep request statement answer before after)
    {id : Uuid} {account changed : Account} (found : before.account? id = some account)
    (present : after.account? id = some changed) (differs : changed.status ≠ account.status) :
    Transition account.status changed.status ∧ account.customerId = request.userId ∧
      ∃ text change, request.change? = some (text, change) ∧ Uuid.parse? text = some id ∧
        change.status = changed.status ∧ ¬Statusless (.query statement) := by
  have stood : before.standing? id = some account.standing := by rw [Database.standing?, found]; rfl
  have stands : after.standing? id = some changed.standing := by
    rw [Database.standing?, present]
    rfl
  cases accounts with
  | keeps same =>
      rw [same, stood] at stands
      exact absurd (congrArg Standing.status (Option.some.inj stands)).symm differs
  | opens dto new asks fresh unique changes =>
      rw [changes, if_neg, stood] at stands
      · exact absurd (congrArg Standing.status (Option.some.inj stands)).symm differs
      · rintro rfl
        rw [fresh] at found
        cases found
  | changes text change other asks sets parsed foundOther owned admitted changes =>
      by_cases same : id = other.id
      · subst same
        rw [foundOther] at found
        cases found
        rw [changes, if_pos rfl] at stands
        have status : change.status = changed.status :=
          congrArg Standing.status (Option.some.inj stands)
        refine ⟨?_, owned, text, change, asks, parsed, status, ?_⟩
        · rw [← status]
          exact Request.change?_transition asks admitted
        · rw [sets]
          exact id
      · rw [changes, if_neg same, stood] at stands
        exact absurd (congrArg Standing.status (Option.some.inj stands)).symm differs

end Steps

/-! ## Every interleaving -/

section Runs

variable {Thread : Type} [DecidableEq Thread] [Fintype Thread] {config : FraudConfig}
  {requests : Thread → Request} {current following : Configuration Thread} {thread : Thread}

theorem Reachable.oneOpened (reachable : Reachable config requests current) {customerId : Uuid}
    {currency : Currency} {id other : Uuid}
    (first : current.shared.server.database.Opened customerId currency id)
    (second : current.shared.server.database.Opened customerId currency other) : id = other := by
  rcases reachable with ⟨redis, now, run⟩
  have everywhere : Reachable config requests current ∧
      ∀ id other, current.shared.server.database.Opened customerId currency id →
        current.shared.server.database.Opened customerId currency other → id = other := by
    refine run.invariant (fun between => Reachable config requests between ∧
      ∀ id other, between.shared.server.database.Opened customerId currency id →
        between.shared.server.database.Opened customerId currency other → id = other)
      ⟨⟨redis, now, .start⟩, ?_⟩ ?_
    · rintro id other ⟨status, stands, _⟩
      cases stands
    · rintro between label next ⟨reachable, one⟩ _ taken
      refine ⟨reachable.next taken, fun id other first second => ?_⟩
      rcases (reachable.opening.step taken).2 with
        same | ⟨thread, choice, statement, next, answer, _, _, accounts⟩
      · rw [same] at first second
        exact one id other first second
      · exact accounts.oneOpened reachable.invariant.accountIds one first second
  exact everywhere.2 id other first second

theorem Reachable.one_open (reachable : Reachable config requests current) (customerId : Uuid)
    (currency : Currency) :
    (current.shared.server.database.accounts.filter fun account =>
      account.customerId = customerId ∧ account.currency = currency ∧
        account.status ≠ .closed).length ≤ 1 := by
  have ids := reachable.invariant.accountIds
  generalize rows : current.shared.server.database.accounts.filter _ = opened
  have listed {account : Account} (member : account ∈ opened) :
      current.shared.server.database.Opened customerId currency account.id := by
    rw [← rows, List.mem_filter, decide_eq_true_eq] at member
    rcases member with ⟨member, rfl, rfl, notClosed⟩
    exact Database.opened_of_account? (Database.account?_of_mem ids member) notClosed
  have distinct : (opened.map Account.id).Nodup :=
    ids.sublist ((rows ▸ List.filter_sublist).map _)
  rcases opened with _ | ⟨account, _ | ⟨other, rest⟩⟩
  · exact Nat.zero_le 1
  · exact le_refl 1
  · have same := reachable.oneOpened (listed List.mem_cons_self)
      (listed (List.mem_cons_of_mem _ List.mem_cons_self))
    simp [same] at distinct

theorem Reachable.changed {label : Label Thread} (reachable : Reachable config requests current)
    (taken : step current label = some following) {id : Uuid} {account changed : Account}
    (found : current.shared.server.database.account? id = some account)
    (present : following.shared.server.database.account? id = some changed)
    (differs : changed.status ≠ account.status) :
    Transition account.status changed.status ∧ ∃ thread choice text change,
      label = .perform thread choice ∧ (requests thread).change? = some (text, change) ∧
        Uuid.parse? text = some id ∧ account.customerId = (requests thread).userId ∧
        changed.status = change.status ∧ current.begun thread = false := by
  rcases (reachable.opening.step taken).2 with
    same | ⟨thread, choice, statement, next, answer, rfl, program, accounts⟩
  · rw [same, found] at present
    cases present
    exact absurd rfl differs
  · rcases accounts.changed found present differs with
      ⟨transition, owner, text, change, asks, parsed, status, sets⟩
    refine ⟨transition, thread, choice, text, change, rfl, asks, parsed, owner, status.symm, ?_⟩
    cases begun : current.begun thread with
    | false => rfl
    | true =>
        have only := reachable.settled thread begun
        rw [program] at only
        exact absurd only.1 sets

theorem Reachable.terminal {final : Configuration Thread}
    (reachable : Reachable config requests current) (run : Run step Unrestricted current final)
    {id : Uuid} {account : Account}
    (found : current.shared.server.database.account? id = some account)
    (closed : account.status = .closed) :
    ∃ later, final.shared.server.database.account? id = some later ∧ later.status = .closed := by
  have kept : Reachable config requests final ∧
      final.shared.server.database.standing? id = some account.standing := by
    refine run.invariant (fun between => Reachable config requests between ∧
      between.shared.server.database.standing? id = some account.standing)
      ⟨reachable, by rw [Database.standing?, found]; rfl⟩ ?_
    rintro between label next ⟨reachable, stands⟩ _ taken
    refine ⟨reachable.next taken, ?_⟩
    rcases (reachable.opening.step taken).2 with
        same | ⟨thread, choice, statement, next, answer, _, _, accounts⟩
    · rwa [same]
    · exact accounts.closed stands closed
  rcases Database.standing?_eq kept.2 with ⟨later, present, same⟩
  exact ⟨later, present, (congrArg Standing.status same).trans closed⟩

/-- A status change that is answered has changed an account in its first step. -/
theorem Reachable.answered {final : Configuration Thread} {choice : Choice} {text : String}
    {change : StatusChange} {response : Response} (reachable : Reachable config requests current)
    (fresh : current.begun thread = false)
    (asks : (requests thread).change? = some (text, change))
    (taken : step current (.perform thread choice) = some following)
    (run : Run step Unrestricted following final)
    (ended : final.program thread = .done (.ok response)) :
    ∃ account changed, Uuid.parse? text = some account.id ∧
      current.shared.server.database.account? account.id = some account ∧
      following.shared.server.database.account? account.id = some changed ∧
      changed.status = change.status ∧ Transition account.status change.status := by
  rcases change_begins asks config with ⟨next, begins, _, fails⟩
  rcases Machine.step_perform taken with ⟨command, rest, answer, shared, program, performed, rfl⟩
  rw [reachable.unbegun fresh, begins] at program
  cases program
  rcases Option.map_eq_some_iff.mp performed with ⟨⟨reply, server⟩, done, equal⟩
  cases equal
  have issued := issued_handle config (requests thread)
  rw [Issues, begins] at issued
  cases (reachable.opening.composed.performs issued.1 (Server.perform_performs done)).2 with
  | keeps same unset =>
      have failing := run.invariant (fun between => (between.program thread).Yields Failed)
        (by simpa using fails answer unset) fun _ _ _ yields _ taken =>
          Machine.yields_step taken yields
      rw [ended] at failing
      exact absurd rfl (failing response)
  | opens dto id asked =>
      rcases shape : requests thread with ⟨userId, context, operation⟩
      rw [shape] at asks asked
      cases asked
      cases asks
  | changes text change account asked sets parsed found owned admitted changes =>
      cases asks.symm.trans asked
      have stands := changes account.id
      rw [if_pos rfl] at stands
      rcases Database.standing?_eq stands with ⟨changed, present, same⟩
      exact ⟨account, changed, parsed, found, present, congrArg Standing.status same,
        Request.change?_transition asks admitted⟩

end Runs

/-! ## Concurrent requests for one account -/

section Races

variable {Thread : Type} [DecidableEq Thread] [Fintype Thread] {config : FraudConfig}
  {requests : Thread → Request} {contenders : Finset Thread} {customerId : Uuid}
  {currency : Currency} {start current following : Configuration Thread}

/-- While the contenders act, no other call asks for an account of theirs, none closes an
account, and no statement of theirs fails but by the unique index. -/
def Contested (requests : Thread → Request) (contenders : Finset Thread) (customerId : Uuid)
    (currency : Currency) (_ : Configuration Thread) : Label Thread → Prop
  | .perform thread choice =>
      (thread ∈ contenders → choice.failure = none) ∧
      (Opens (requests thread) customerId currency → thread ∈ contenders) ∧
      ∀ text, (requests thread).operation ≠ .closeAccount text
  | .environment _ => True

/-- A contender that has read at most that there is no open account. -/
def Contending (config : FraudConfig) (request : Request) (currency : Currency)
    (program : Program interface CallResult) : Prop :=
  program = (handle config request).run ∨
    program = inserting request.context request.userId currency

def Winning (request : Request) (account : Account) (program : Program interface CallResult) :
    Prop :=
  program = auditing request.context request.userId account ∨
    program = .done (.ok (.account (Accounts.toResponseDto account)))

def Losing (config : FraudConfig) (request : Request) (currency : Currency)
    (program : Program interface CallResult) : Prop :=
  Contending config request currency program ∨ program = .done (.error (existsError currency))

/-- What holds while the contenders act: no account is open and none of them is decided, or one
of them has opened the only new one. -/
inductive Race (config : FraudConfig) (requests : Thread → Request) (contenders : Finset Thread)
    (customerId : Uuid) (currency : Currency) (start current : Configuration Thread) : Prop
  | undecided
      (free : ∀ id, ¬current.shared.server.database.Opened customerId currency id)
      (known : ∀ id, current.shared.server.database.Belongs customerId currency id →
        start.shared.server.database.Belongs customerId currency id)
      (persists : ∀ id, (start.shared.server.database.standing? id).isSome →
        (current.shared.server.database.standing? id).isSome)
      (contending : ∀ thread ∈ contenders,
        Contending config (requests thread) currency (current.program thread))
  | decided (winner : Thread) (account : Account) (member : winner ∈ contenders)
      (new : start.shared.server.database.standing? account.id = none)
      (opened : current.shared.server.database.Opened customerId currency account.id)
      (known : ∀ id, current.shared.server.database.Belongs customerId currency id →
        start.shared.server.database.Belongs customerId currency id ∨ id = account.id)
      (wins : Winning (requests winner) account (current.program winner))
      (loses : ∀ thread ∈ contenders, thread ≠ winner →
        Losing config (requests thread) currency (current.program thread))

omit [DecidableEq Thread] [Fintype Thread] in
theorem Race.others (race : Race config requests contenders customerId currency start current)
    (programs : ∀ thread ∈ contenders, following.program thread = current.program thread)
    (belongs : ∀ id, following.shared.server.database.Belongs customerId currency id →
      current.shared.server.database.Belongs customerId currency id)
    (opens : ∀ id, following.shared.server.database.Opened customerId currency id →
      current.shared.server.database.Opened customerId currency id)
    (stays : ∀ id, current.shared.server.database.Opened customerId currency id →
      following.shared.server.database.Opened customerId currency id)
    (persists : ∀ id, (current.shared.server.database.standing? id).isSome →
      (following.shared.server.database.standing? id).isSome) :
    Race config requests contenders customerId currency start following := by
  cases race with
  | undecided free known kept contending =>
      refine .undecided (fun id opened => free id (opens id opened))
        (fun id belonging => known id (belongs id belonging))
        (fun id present => persists id (kept id present)) fun thread member => ?_
      rw [programs thread member]
      exact contending thread member
  | decided winner account member new opened known wins loses =>
      refine .decided winner account member new (stays _ opened)
        (fun id belonging => known id (belongs id belonging)) ?_ fun thread contends other => ?_
      · rw [programs winner member]
        exact wins
      · rw [programs thread contends]
        exact loses thread contends other

/-! ### The step of a contender -/

inductive Attempt (request : Request) (currency : Currency) (thread : Thread)
    (before after : Server Thread) (program : Program interface CallResult) : Prop
  | proceeds (free : ∀ id, ¬before.database.Opened request.userId currency id)
      (same : after = before)
      (rest : program = inserting request.context request.userId currency)
  | conflicts {id : Uuid} (opened : before.database.Opened request.userId currency id)
      (same : after = before) (rest : program = .done (.error (existsError currency)))
  | opens (account : Account) (free : ∀ id, ¬before.database.Opened request.userId currency id)
      (fresh : before.database.account? account.id = none)
      (stands : account.standing = ⟨request.userId, currency, .active⟩)
      (created : after = before.commitTx thread (Tx.empty.createAccount account))
      (rest : program = auditing request.context request.userId account)

omit [DecidableEq Thread] [Fintype Thread] in
theorem Opens.request_eq {request : Request} (opens : Opens request customerId currency) :
    request = ⟨customerId, request.context, .createAccount ⟨currency⟩⟩ := by
  rcases request with ⟨userId, context, operation⟩
  rcases opens with ⟨rfl, rfl⟩
  rfl

variable {thread : Thread} {choice : Choice}
  (reachable : Reachable config requests current)
  (opens : Opens (requests thread) customerId currency)
include reachable opens

theorem Reachable.contender_closed : current.shared.server.open_ thread = none := by
  cases opened : current.shared.server.open_ thread with
  | none => rfl
  | some tx =>
      rcases (reachable.opening.composed.opened thread tx opened).1 with ⟨params, money⟩
      rw [opens.request_eq] at money
      cases money

variable (succeeds : choice.failure = none)
  (taken : step current (.perform thread choice) = some following)
include succeeds taken

theorem Reachable.attempt
    (contending : Contending config (requests thread) currency (current.program thread)) :
    Attempt (requests thread) currency thread current.shared.server following.shared.server
      (following.program thread) := by
  have ids := reachable.invariant.accountIds
  have closed := reachable.contender_closed opens
  have free (unopened : Server.hasOpenAccount current.shared.server.database customerId currency
      = false) (id : Uuid) : ¬current.shared.server.database.Opened customerId currency id := by
    intro opened
    rw [(Database.hasOpenAccount_iff ids).mpr ⟨id, opened⟩] at unopened
    cases unopened
  rcases opens.1 with rfl
  rcases contending with start | later
  · rw [opens.request_eq] at start
    rcases createAccount_run (requests thread).context (requests thread).userId currency config with
      ⟨next, begins, none_, some_⟩
    rcases step_query (start.trans begins) succeeds taken with ⟨answer, responded, rest⟩
    rcases Prod.mk.inj (Option.some.inj responded) with ⟨answered, same⟩
    subst answered
    have looked := find?_openAccounts (requests thread).userId currency
      current.shared.server.database
    change following.program thread = next (.ok (current.shared.server.database.accounts.find?
      (openAccounts (requests thread).userId currency).admits)) at rest
    cases found : current.shared.server.database.accounts.find?
        (openAccounts (requests thread).userId currency).admits with
    | none =>
        rw [found] at looked rest
        exact .proceeds (free looked.symm) same.symm (rest.trans none_)
    | some account =>
        rw [found] at looked rest
        rcases (Database.hasOpenAccount_iff ids).mp looked.symm with ⟨id, opened⟩
        exact .conflicts opened same.symm (rest.trans (some_ account))
  · rcases inserting_run (requests thread).context (requests thread).userId currency with
      ⟨next, begins, inserted, refused⟩
    rcases step_query (later.trans begins) succeeds taken with ⟨answer, responded, rest⟩
    rcases respond_accountCreate closed responded with
      ⟨unique, rfl, same⟩ | ⟨unopened, account, rfl, fresh, stands, created⟩
    · rcases (Database.hasOpenAccount_iff ids).mp unique with ⟨id, opened⟩
      exact .conflicts opened same (rest.trans refused)
    · exact .opens account (free unopened) fresh stands created (rest.trans (inserted account))

theorem Reachable.win {account : Account}
    (wins : Winning (requests thread) account (current.program thread)) :
    (∀ id, following.shared.server.database.standing? id =
        current.shared.server.database.standing? id) ∧
      Winning (requests thread) account (following.program thread) := by
  rcases wins with audits | ended
  · rcases auditing_run (requests thread).context (requests thread).userId account with
      ⟨data, next, begins, named, rest⟩
    rcases step_query (audits.trans begins) succeeds taken with ⟨answer, responded, goesOn⟩
    rcases respond_auditLogCreate (reachable.contender_closed opens) named responded with
      ⟨rfl, same⟩
    exact ⟨same, .inr (goesOn.trans rest)⟩
  · exact (Machine.not_step_done ended taken).elim

theorem Race.contender (race : Race config requests contenders customerId currency start current)
    (member : thread ∈ contenders) :
    Race config requests contenders customerId currency start following := by
  have unmoved {other : Thread} (different : other ≠ thread) :
      following.program other = current.program other := by
    refine Machine.step_other taken fun _ same => ?_
    cases same
    exact different rfl
  have owner := opens.1
  cases race with
  | undecided free known persists contending =>
      cases reachable.attempt opens succeeds taken (contending thread member) with
      | proceeds _ same rest =>
          rw [← same] at free known persists
          refine .undecided free known persists fun other contends => ?_
          by_cases equal : other = thread
          · rw [equal]
            exact .inr rest
          · rw [unmoved equal]
            exact contending other contends
      | conflicts opened =>
          rw [owner] at opened
          exact absurd opened (free _)
      | opens account _ fresh stands created rest =>
          have changed (id : Uuid) : following.shared.server.database.standing? id =
              if id = account.id then some ⟨customerId, currency, .active⟩
              else current.shared.server.database.standing? id := by
            rw [created, Server.commitTx_database, standing?_createAccount fresh, stands, owner]
          have unknown : start.shared.server.database.standing? account.id = none := by
            rw [← Option.not_isSome_iff_eq_none]
            intro present
            have kept := persists account.id present
            simp [Database.standing?, fresh] at kept
          refine .decided thread account member unknown ?_ ?_ (.inl rest) fun other contends apart => ?_
          · exact ⟨.active, by rw [changed, if_pos rfl], by decide⟩
          · rintro id ⟨status, stands⟩
            rw [changed] at stands
            split at stands
            · rename_i same
              exact .inr same
            · exact .inl (known id ⟨status, stands⟩)
          · rw [unmoved apart]
            exact .inl (contending other contends)
  | decided winner account winnerMember new opened known wins loses =>
      by_cases equal : thread = winner
      · subst equal
        rcases reachable.win opens succeeds taken wins with ⟨same, wins⟩
        simp only [Database.Opened, Database.Belongs, ← same] at opened known
        refine .decided thread account member new opened known wins fun other contends apart => ?_
        rw [unmoved apart]
        exact loses other contends apart
      · have lost : following.shared.server = current.shared.server ∧
            Losing config (requests thread) currency (following.program thread) := by
          rcases loses thread member equal with contending | ended
          · cases reachable.attempt opens succeeds taken contending with
            | proceeds free =>
                rw [owner] at free
                exact absurd opened (free _)
            | conflicts _ same rest => exact ⟨same, .inr rest⟩
            | opens _ free =>
                rw [owner] at free
                exact absurd opened (free _)
          · exact (Machine.not_step_done ended taken).elim
        rw [← lost.1] at opened known
        refine .decided winner account winnerMember new opened known ?_ fun other contends apart => ?_
        · rw [unmoved (Ne.symm equal)]
          exact wins
        · by_cases own : other = thread
          · rw [own]
            exact lost.2
          · rw [unmoved own]
            exact loses other contends apart

omit reachable opens succeeds taken in
theorem Race.next (race : Race config requests contenders customerId currency start current)
    (reachable : Reachable config requests current) {label : Label Thread}
    (asks : ∀ thread ∈ contenders, Opens (requests thread) customerId currency)
    (allowed : Contested requests contenders customerId currency current label)
    (taken : step current label = some following) :
    Race config requests contenders customerId currency start following := by
  by_cases contends : ∃ thread ∈ contenders, ∃ choice, label = .perform thread choice
  · rcases contends with ⟨thread, member, choice, rfl⟩
    exact race.contender reachable (asks thread member) (allowed.1 member) taken member
  · have programs (thread : Thread) (member : thread ∈ contenders) :
        following.program thread = current.program thread :=
      Machine.step_other taken fun choice same => contends ⟨thread, member, choice, same⟩
    rcases (reachable.opening.step taken).2 with
      same | ⟨thread, choice, statement, next, answer, rfl, _, accounts⟩
    · refine race.others programs ?_ ?_ ?_ ?_ <;> rw [same] <;> exact fun _ => id
    · have unasked : ¬Opens (requests thread) customerId currency := fun opens =>
        contends ⟨thread, allowed.2.1 opens, choice, rfl⟩
      refine race.others programs (fun id belongs => ?_) (fun id opened => ?_)
        (fun id opened => accounts.stays allowed.2.2 opened) fun id present =>
          accounts.persists present
      · exact (accounts.belongs belongs).resolve_right unasked
      · rcases accounts.opened customerId currency with ⟨new, cases⟩
        exact (cases id opened).resolve_right fun other => unasked other.2.1

omit reachable opens succeeds taken in
theorem Race.reaches {final : Configuration Thread} (reachable : Reachable config requests start)
    (asks : ∀ thread ∈ contenders,
      Opens (requests thread) customerId currency ∧ start.begun thread = false)
    (free : Server.hasOpenAccount start.shared.server.database customerId currency = false)
    (run : Run step (Contested requests contenders customerId currency) start final) :
    Reachable config requests final ∧
      Race config requests contenders customerId currency start final := by
  refine run.invariant (fun between => Reachable config requests between ∧
    Race config requests contenders customerId currency start between) ⟨reachable, ?_⟩ ?_
  · refine .undecided (fun id opened => ?_) (fun _ => id) (fun _ => id) fun thread member =>
      .inl (reachable.unbegun (asks thread member).2)
    rw [(Database.hasOpenAccount_iff reachable.invariant.accountIds).mpr ⟨id, opened⟩] at free
    cases free
  · rintro between label next ⟨reachable, race⟩ allowed taken
    exact ⟨reachable.next taken,
      race.next reachable (fun thread member => (asks thread member).1) allowed taken⟩

omit [DecidableEq Thread] [Fintype Thread] reachable opens succeeds taken in
theorem Contending.not_finished {request : Request} {program : Program interface CallResult}
    (opens : Opens request customerId currency)
    (contending : Contending config request currency program) : program.finished = false := by
  rcases contending with start | later
  · rw [opens.request_eq] at start
    rcases createAccount_run request.context customerId currency config with ⟨_, begins, _⟩
    rw [start, begins]
    rfl
  · rcases inserting_run request.context request.userId currency with ⟨_, begins, _⟩
    rw [later, begins]
    rfl

omit [DecidableEq Thread] [Fintype Thread] reachable opens succeeds taken in
/-- When all contenders have ended, one of them has opened the only new account. -/
theorem Race.ended (race : Race config requests contenders customerId currency start current)
    (some_ : contenders.Nonempty)
    (asks : ∀ thread ∈ contenders, Opens (requests thread) customerId currency)
    (ended : ∀ thread ∈ contenders, (current.program thread).finished = true) :
    ∃ winner ∈ contenders, ∃ account,
      current.program winner = .done (.ok (.account (Accounts.toResponseDto account))) ∧
      start.shared.server.database.account? account.id = none ∧
      current.shared.server.database.Opened customerId currency account.id ∧
      (∀ id, current.shared.server.database.Belongs customerId currency id →
        start.shared.server.database.Belongs customerId currency id ∨ id = account.id) ∧
      ∀ thread ∈ contenders, thread ≠ winner →
        current.program thread = .done (.error (existsError currency)) := by
  cases race with
  | undecided free known persists contending =>
      rcases some_ with ⟨thread, member⟩
      have finished := ended thread member
      rw [(contending thread member).not_finished (asks thread member)] at finished
      cases finished
  | decided winner account member new opened known wins loses =>
      refine ⟨winner, member, account, ?_, by simpa [Database.standing?] using new, opened, known,
        fun thread contends other => ?_⟩
      · rcases wins with audits | ended_
        · have finished := ended winner member
          rcases auditing_run (requests winner).context (requests winner).userId account with
            ⟨_, _, begins, _⟩
          rw [audits, begins] at finished
          cases finished
        · exact ended_
      · rcases loses thread contends other with contending | lost
        · have finished := ended thread contends
          rw [contending.not_finished (asks thread contends)] at finished
          cases finished
        · exact lost

omit opens succeeds taken in
theorem Race.progress (race : Race config requests contenders customerId currency start current)
    (opens : Opens (requests thread) customerId currency) (member : thread ∈ contenders)
    (unfinished : (current.program thread).finished = false) {newId : Uuid}
    (unused : current.shared.server.database.account? newId = none) :
    ∃ following, step current (.perform thread { newId }) = some following := by
  have closed := reachable.contender_closed opens
  have contends (contending : Contending config (requests thread) currency
      (current.program thread)) :
      ∃ following, step current (.perform thread { newId }) = some following := by
    rcases contending with start | later
    · rw [opens.request_eq] at start
      rcases createAccount_run (requests thread).context customerId currency config with
        ⟨_, begins, _⟩
      exact step_of_respond (start.trans begins) rfl
    · rcases inserting_run (requests thread).context (requests thread).userId currency with
        ⟨_, begins, _⟩
      rcases exists_respond_accountCreate closed unused with ⟨_, _, responded⟩
      exact step_of_respond (later.trans begins) responded
  cases race with
  | undecided _ _ _ contending => exact contends (contending thread member)
  | decided winner account _ _ _ _ wins loses =>
      by_cases equal : thread = winner
      · rcases wins with audits | ended
        · rcases auditing_run (requests winner).context (requests winner).userId account with
            ⟨data, _, begins, _⟩
          rw [equal]
          rcases exists_respond_auditLogCreate current.shared.server winner newId
            current.shared.now data with ⟨_, _, responded⟩
          exact step_of_respond (audits.trans begins) responded
        · rw [equal, ended] at unfinished
          cases unfinished
      · rcases loses thread member equal with contending | ended
        · exact contends contending
        · rw [ended] at unfinished
          cases unfinished

end Races

/-! ## The claim -/

structure AccountLifecycle {Thread : Type} [DecidableEq Thread] [Fintype Thread]
    (config : FraudConfig) (requests : Thread → Request) : Prop where
  oneOpen : ∀ current, Reachable config requests current → ∀ customerId currency,
    (current.shared.server.database.accounts.filter fun account =>
      account.customerId = customerId ∧ account.currency = currency ∧
        account.status ≠ .closed).length ≤ 1
  changes : ∀ current label following id account changed, Reachable config requests current →
    step current label = some following →
    current.shared.server.database.account? id = some account →
    following.shared.server.database.account? id = some changed →
    changed.status ≠ account.status →
    Transition account.status changed.status ∧ ∃ thread choice text change,
      label = .perform thread choice ∧ (requests thread).change? = some (text, change) ∧
        Uuid.parse? text = some id ∧ account.customerId = (requests thread).userId ∧
        changed.status = change.status ∧ current.begun thread = false
  answers : ∀ current thread choice following final text change response,
    Reachable config requests current → current.begun thread = false →
    (requests thread).change? = some (text, change) →
    step current (.perform thread choice) = some following →
    Run step Unrestricted following final → final.program thread = .done (.ok response) →
    ∃ account changed, Uuid.parse? text = some account.id ∧
      current.shared.server.database.account? account.id = some account ∧
      following.shared.server.database.account? account.id = some changed ∧
      changed.status = change.status ∧ Transition account.status change.status
  terminal : ∀ current final id account, Reachable config requests current →
    Run step Unrestricted current final →
    current.shared.server.database.account? id = some account → account.status = .closed →
    ∃ later, final.shared.server.database.account? id = some later ∧ later.status = .closed
  contest : ∀ (contenders : Finset Thread) customerId currency start final,
    Reachable config requests start → contenders.Nonempty →
    (∀ thread ∈ contenders,
      Opens (requests thread) customerId currency ∧ start.begun thread = false) →
    Server.hasOpenAccount start.shared.server.database customerId currency = false →
    Run step (Contested requests contenders customerId currency) start final →
    ((∀ thread ∈ contenders, (final.program thread).finished = true) →
      ∃ winner ∈ contenders, ∃ account,
        final.program winner = .done (.ok (.account (Accounts.toResponseDto account))) ∧
        start.shared.server.database.account? account.id = none ∧
        final.shared.server.database.Opened customerId currency account.id ∧
        (∀ id, final.shared.server.database.Belongs customerId currency id →
          start.shared.server.database.Belongs customerId currency id ∨ id = account.id) ∧
        ∀ thread ∈ contenders, thread ≠ winner →
          final.program thread = .done (.error (existsError currency))) ∧
    ∀ thread ∈ contenders, (final.program thread).finished = false →
      ∀ newId, final.shared.server.database.account? newId = none →
        ∃ following, step final (.perform thread { newId }) = some following

theorem account_lifecycle {Thread : Type} [DecidableEq Thread] [Fintype Thread]
    (config : FraudConfig) (requests : Thread → Request) : AccountLifecycle config requests where
  oneOpen _ reachable := reachable.one_open
  changes _ _ _ _ _ _ reachable taken := reachable.changed taken
  answers _ _ _ _ _ _ _ _ reachable fresh asks taken run :=
    reachable.answered fresh asks taken run
  terminal _ _ _ _ reachable run := reachable.terminal run
  contest contenders customerId currency start final reachable some_ asks free run := by
    rcases Race.reaches reachable asks free run with ⟨reaches, race⟩
    have opens (thread : Thread) (member : thread ∈ contenders) := (asks thread member).1
    exact ⟨fun ended => race.ended some_ opens ended, fun thread member unfinished newId unused =>
      race.progress reaches (opens thread member) member unfinished unused⟩

end BankingBackend