import BankingBackend.Auth.Replay

/-! # What a statement does -/

namespace BankingBackend.Auth

open Foundation
open Postgres (Uuid DatabaseError)

/-- Statements that find a row missing or a unique column taken. -/
def Statement.refusable : Statement → Bool
  | .customerCreate _ | .customerUpdate _ _ | .refreshTokenCreate _ | .refreshTokenRevoke _ _ => true
  | _ => false

def Statement.remembered : Statement → Bool
  | .customerFindUnique _ | .refreshTokenSelectLive _ => true
  | _ => false

def Statement.change? (now : ℕ) (newId : Uuid) : Statement → Option Change
  | .customerCreate data => some (.customerCreated newId data)
  | .customerUpdate id data => some (.customerUpdated id data)
  | .recordLoginFailure id threshold durationMinutes =>
      some (.loginFailed id threshold durationMinutes now)
  | .refreshTokenCreate data => some (.tokenCreated newId data)
  | .refreshTokenRevokeLive id revokedAt => some (.tokenRevokedLive id revokedAt)
  | .refreshTokenExchange id date revokedAt replacedById =>
      some (.tokenExchanged id date revokedAt replacedById)
  | .refreshTokenRevoke id revokedAt => some (.tokenRevoked id revokedAt)
  | _ => none

section Statements

variable {Thread : Type} [DecidableEq Thread] (thread : Thread) (now : ℕ) (newId : Uuid)

/-- The server when a statement that takes effect is answered. -/
inductive Executes (before : Server Thread) : (statement : Statement) →
    Except DatabaseError statement.Result → Server Thread → Prop
  | begin (closed : before.open_ thread = none) :
      Executes before .begin (.ok ()) (before.setOpen thread (some { since := now }))
  | beginOpen (transaction : Transaction) (opened : before.open_ thread = some transaction) :
      Executes before .begin (.ok ()) before
  | commit (transaction : Transaction) (opened : before.open_ thread = some transaction) :
      Executes before .commit (.ok ()) (before.commit thread now transaction)
  | commitClosed (closed : before.open_ thread = none) : Executes before .commit (.ok ()) before
  | rollback : Executes before .rollback (.ok ()) (before.rollback thread)
  | customerFindUnique (key : CustomerKey) :
      Executes before (.customerFindUnique key) (.ok (before.findCustomer thread key))
        { before with seen := Function.update before.seen thread before.log.length }
  | customerCreate (data : CustomerData) (base : Server Thread)
      (writes : before.Writes base thread (.customerCreated newId data)) :
      Executes before (.customerCreate data) (.ok ⟨newId, .new data⟩)
        (base.change thread now (.customerCreated newId data))
  | customerUpdate (id : Uuid) (data : CustomerUpdate) (base : Server Thread) (row : Customer)
      (writes : before.Writes base thread (.customerUpdated id data)) :
      Executes before (.customerUpdate id data) (.ok ⟨id, row⟩)
        (base.change thread now (.customerUpdated id data))
  | recordLoginFailure (id : Uuid) (threshold : ℚ) (durationMinutes : ℤ) (base : Server Thread)
      (row : ℕ × Option ℤ)
      (writes : before.Writes base thread (.loginFailed id threshold durationMinutes now)) :
      Executes before (.recordLoginFailure id threshold durationMinutes) (.ok (some row))
        (base.change thread now (.loginFailed id threshold durationMinutes now))
  | recordLoginFailureMissing (id : Uuid) (threshold : ℚ) (durationMinutes : ℤ) :
      Executes before (.recordLoginFailure id threshold durationMinutes) (.ok none) before
  | eventCreate (event : UserRegisteredEvent) :
      Executes before (.eventCreate event) (.ok ()) (before.createEvent thread event)
  | refreshTokenFindUnique (tokenHash : String) :
      Executes before (.refreshTokenFindUnique tokenHash)
        (.ok ((before.findRefreshToken thread tokenHash).map fun token =>
          (token, before.findCustomer thread (.id token.row.customerId)))) before
  | refreshTokenCreate (data : RefreshTokenData) (base : Server Thread)
      (writes : before.Writes base thread (.tokenCreated newId data)) :
      Executes before (.refreshTokenCreate data) (.ok ⟨newId, .new data⟩)
        (base.change thread now (.tokenCreated newId data))
  | refreshTokenSelectLive (customerId : Uuid) :
      Executes before (.refreshTokenSelectLive customerId)
        (.ok (before.tokens.select thread fun row => row.customerId == customerId && row.live))
        { before with selected := Function.update before.selected thread before.log.length }
  | refreshTokenRevokeLive (id : Uuid) (revokedAt : ℕ) (base : Server Thread)
      (writes : before.Writes base thread (.tokenRevokedLive id revokedAt)) :
      Executes before (.refreshTokenRevokeLive id revokedAt) (.ok 1)
        (base.change thread now (.tokenRevokedLive id revokedAt))
  | refreshTokenRevokeLiveSkipped (id : Uuid) (revokedAt : ℕ)
      (dead : ∀ row, (before.view thread).tokens id = some row → row.live = false) :
      Executes before (.refreshTokenRevokeLive id revokedAt) (.ok 0) before
  | refreshTokenExchange (id : Uuid) (date revokedAt : ℕ) (replacedById : Uuid)
      (base : Server Thread)
      (writes : before.Writes base thread (.tokenExchanged id date revokedAt replacedById)) :
      Executes before (.refreshTokenExchange id date revokedAt replacedById) (.ok 1)
        (base.change thread now (.tokenExchanged id date revokedAt replacedById))
  | refreshTokenExchangeSkipped (id : Uuid) (date revokedAt : ℕ) (replacedById : Uuid) :
      Executes before (.refreshTokenExchange id date revokedAt replacedById) (.ok 0) before
  | refreshTokenRevoke (id : Uuid) (revokedAt : ℕ) (base : Server Thread)
      (writes : before.Writes base thread (.tokenRevoked id revokedAt)) :
      Executes before (.refreshTokenRevoke id revokedAt) (.ok ())
        (base.change thread now (.tokenRevoked id revokedAt))
  | auditLogCreate (data : AuditLogData) :
      Executes before (.auditLogCreate data) (.ok ())
        { before with auditLogs := before.auditLogs ++ [data] }
  | refused (statement : Statement) (error : DatabaseError)
      (refusable : statement.refusable = true) : Executes before statement (.error error) before

variable {thread now newId} {before after : Server Thread}

theorem insertCustomer_executes {data : CustomerData}
    {answer : Except DatabaseError (Entity Customer)}
    (executed : before.insertCustomer thread now newId data = some (answer, after)) :
    Executes thread now newId before (.customerCreate data) answer after := by
  unfold Server.insertCustomer at executed
  split at executed
  · cases executed
  · rename_i free
    have unused := Table.own_of_not_used (by simpa using free)
    split at executed
    · cases executed
    · cases executed
      exact .refused _ _ rfl
    · cases executed
      refine .customerCreate data _ (writes_customers (fun other _ => (unused other).1) rfl ?_)
      rw [Table.visible_of_own_none (unused thread).1, (unused thread).2]
      rfl

theorem insertRefreshToken_executes {data : RefreshTokenData}
    {answer : Except DatabaseError (Entity RefreshToken)}
    (executed : before.insertRefreshToken thread now newId data = some (answer, after)) :
    Executes thread now newId before (.refreshTokenCreate data) answer after := by
  unfold Server.insertRefreshToken at executed
  split at executed
  · cases executed
  · rename_i free
    have unused := Table.own_of_not_used (by simpa using free)
    split at executed
    · cases executed
    · cases executed
      exact .refused _ _ rfl
    · cases executed
      refine .refreshTokenCreate data _ (writes_tokens (fun other _ => (unused other).1) rfl ?_)
      rw [Table.visible_of_own_none (unused thread).1, (unused thread).2]
      rfl

theorem updateCustomer_cases {id : Uuid} {update : Customer → Customer} {written : Change}
    {row : Option Customer} (about : written.customer? = some id)
    (applies : ∀ version, written.onCustomer (some version) = some (update version))
    (updated : before.updateCustomer thread now id update written = some (row, after)) :
    row = none ∧ after = before ∨ ∃ base version, before.Writes base thread written ∧
      row = some version ∧ after = base.change thread now written := by
  unfold Server.updateCustomer at updated
  split at updated
  · cases updated
  · cases updated
    exact .inl ⟨rfl, rfl⟩
  · rename_i version customers writes
    cases updated
    rcases Table.update_written writes with ⟨unlocked, seen, visible, _, rfl, rfl⟩
    refine .inr ⟨_, _, writes_customers unlocked about ?_, rfl, rfl⟩
    rw [visible, applies]

theorem updateRefreshToken_cases {id : Uuid} {meets : RefreshToken → Bool}
    {update : RefreshToken → RefreshToken} {written : Change} {row : Option RefreshToken}
    (about : written.token? = some id)
    (applies : ∀ version, meets version = true →
      written.onToken (some version) = some (update version))
    (updated : before.updateRefreshToken thread now id meets update written = some (row, after)) :
    (row = none ∧ after = before ∧
      ∀ version, (before.view thread).tokens id = some version → meets version = false) ∨
    ∃ base version, before.Writes base thread written ∧
      row = some version ∧ after = base.change thread now written := by
  unfold Server.updateRefreshToken at updated
  split at updated
  · cases updated
  · rename_i skips
    cases updated
    exact .inl ⟨rfl, rfl, fun version => Table.update_skipped skips⟩
  · rename_i version tokens writes
    cases updated
    rcases Table.update_written writes with ⟨unlocked, seen, visible, met, rfl, rfl⟩
    refine .inr ⟨_, _, writes_tokens unlocked about ?_, rfl, rfl⟩
    rw [visible, applies seen met]

theorem execute_executes {statement : Statement} {answer : Except DatabaseError statement.Result}
    (executed : before.execute thread now newId statement = some (answer, after)) :
    Executes thread now newId before statement answer after := by
  cases statement with
  | begin =>
      simp only [Server.execute] at executed
      split at executed
      · rename_i transaction opened
        cases executed
        exact .beginOpen transaction opened
      · rename_i closed
        cases executed
        exact .begin closed
  | commit =>
      simp only [Server.execute] at executed
      split at executed
      · rename_i transaction opened
        cases executed
        exact .commit transaction opened
      · rename_i closed
        cases executed
        exact .commitClosed closed
  | rollback =>
      cases executed
      exact .rollback
  | customerFindUnique key =>
      cases executed
      exact .customerFindUnique key
  | customerCreate data => exact insertCustomer_executes executed
  | customerUpdate id data =>
      simp only [Server.execute] at executed
      split at executed
      · cases executed
      · cases executed
        exact .refused _ _ rfl
      · rcases Option.map_eq_some_iff.mp executed with ⟨⟨row, server⟩, updated, result⟩
        rcases updateCustomer_cases rfl (fun _ => rfl) updated with
          ⟨rfl, rfl⟩ | ⟨base, version, writes, rfl, rfl⟩
        · cases result
          exact .refused _ _ rfl
        · cases result
          exact .customerUpdate id data base version writes
  | recordLoginFailure id threshold durationMinutes =>
      rcases Option.map_eq_some_iff.mp executed with ⟨⟨row, server⟩, updated, result⟩
      rcases updateCustomer_cases rfl (fun _ => rfl) updated with
        ⟨rfl, rfl⟩ | ⟨base, version, writes, rfl, rfl⟩
      · cases result
        exact .recordLoginFailureMissing id threshold durationMinutes
      · cases result
        exact .recordLoginFailure id threshold durationMinutes base _ writes
  | eventCreate event =>
      cases executed
      exact .eventCreate event
  | refreshTokenFindUnique tokenHash =>
      cases executed
      exact .refreshTokenFindUnique tokenHash
  | refreshTokenCreate data => exact insertRefreshToken_executes executed
  | refreshTokenSelectLive customerId =>
      cases executed
      exact .refreshTokenSelectLive customerId
  | refreshTokenRevokeLive id revokedAt =>
      rcases Option.map_eq_some_iff.mp executed with ⟨⟨row, server⟩, updated, result⟩
      rcases updateRefreshToken_cases rfl (Change.onToken_tokenRevokedLive id revokedAt) updated with
        ⟨rfl, rfl, dead⟩ | ⟨base, version, writes, rfl, rfl⟩
      · cases result
        exact .refreshTokenRevokeLiveSkipped id revokedAt dead
      · cases result
        exact .refreshTokenRevokeLive id revokedAt base writes
  | refreshTokenExchange id date revokedAt replacedById =>
      rcases Option.map_eq_some_iff.mp executed with ⟨⟨row, server⟩, updated, result⟩
      rcases updateRefreshToken_cases rfl
          (Change.onToken_tokenExchanged id date revokedAt replacedById) updated with
        ⟨rfl, rfl, _⟩ | ⟨base, version, writes, rfl, rfl⟩
      · cases result
        exact .refreshTokenExchangeSkipped id date revokedAt replacedById
      · cases result
        exact .refreshTokenExchange id date revokedAt replacedById base writes
  | refreshTokenRevoke id revokedAt =>
      rcases Option.map_eq_some_iff.mp executed with ⟨⟨row, server⟩, updated, result⟩
      rcases updateRefreshToken_cases rfl (fun _ _ => rfl) updated with
        ⟨rfl, rfl, _⟩ | ⟨base, version, writes, rfl, rfl⟩
      · cases result
        exact .refused _ _ rfl
      · cases result
        exact .refreshTokenRevoke id revokedAt base writes
  | auditLogCreate data =>
      cases executed
      exact .auditLogCreate data

/-! ## Statements that may fail -/

/-- What a failing statement leaves behind. -/
inductive Fails (thread : Thread) (now : ℕ) (newId : Uuid) (before : Server Thread)
    (statement : Statement) (after : Server Thread) : Prop
  | kept (same : after = before)
  | ended (ends : statement = .commit ∨ statement = .rollback)
      (result : after = before.rollback thread)
  | executed (answer : Except DatabaseError statement.Result)
      (executes : Executes thread now newId before statement answer after)

inductive Performs (thread : Thread) (now : ℕ) (newId : Uuid) (before : Server Thread)
    (statement : Statement) (answer : Except DatabaseError statement.Result)
    (after : Server Thread) : Prop
  | answered (executes : Executes thread now newId before statement answer after)
  | failed (error : DatabaseError) (thrown : answer = .error error)
      (fails : Fails thread now newId before statement after)

theorem afterFailure_fails (failure : Failure) (statement : Statement) :
    Fails thread now newId before statement
      (before.afterFailure thread now newId failure statement) := by
  unfold Server.afterFailure
  split
  · rename_i answer after executed
    split
    · exact .executed answer (execute_executes executed)
    · split
      · exact .ended (.inl rfl) rfl
      · exact .ended (.inr rfl) rfl
      · exact .kept rfl
  · exact .kept rfl

theorem perform_performs {failure : Option Failure} {statement : Statement}
    {answer : Except DatabaseError statement.Result}
    (performed : before.perform thread now newId failure statement = some (answer, after)) :
    Performs thread now newId before statement answer after := by
  cases failure with
  | none => exact .answered (execute_executes performed)
  | some failure =>
      cases performed
      exact .failed failure.error rfl (afterFailure_fails failure statement)

/-! ## What is kept -/

omit [DecidableEq Thread] in
theorem Server.changes_of_closed (closed : before.open_ thread = none) :
    before.changes thread = [] := by
  rw [Server.changes, closed]
  rfl

omit [DecidableEq Thread] in
theorem Server.changes_of_open {transaction : Transaction}
    (opened : before.open_ thread = some transaction) :
    before.changes thread = transaction.changes := by
  rw [Server.changes, opened]
  rfl

theorem coherent_setOpen (coherent : before.Coherent) {transaction : Transaction}
    (same : transaction.changes = before.changes thread) :
    (before.setOpen thread (some transaction)).Coherent := by
  refine coherent.of_tables rfl rfl (fun other => ?_) rfl
  rw [changes_setOpen]
  by_cases mine : other = thread
  · rw [if_pos mine, same, mine]
  · rw [if_neg mine]

theorem Executes.coherent {statement : Statement} {answer : Except DatabaseError statement.Result}
    (executes : Executes thread now newId before statement answer after)
    (coherent : before.Coherent) : after.Coherent := by
  cases executes with
  | begin closed => exact coherent_setOpen coherent (Server.changes_of_closed closed).symm
  | commit transaction opened =>
      have pending := coherent.pending thread
      rw [Server.changes_of_open opened] at pending
      exact coherent_commit pending (fun other _ => coherent.pending other) coherent.logged
  | rollback => exact coherent.rollback thread
  | eventCreate event =>
      unfold Server.createEvent
      split
      · rename_i transaction opened
        exact coherent_setOpen coherent (Server.changes_of_open opened).symm
      · exact coherent.of_tables rfl rfl (fun _ => rfl) rfl
  | customerCreate data base writes => exact coherent.write writes
  | customerUpdate id data base row writes => exact coherent.write writes
  | recordLoginFailure id threshold durationMinutes base row writes => exact coherent.write writes
  | refreshTokenCreate data base writes => exact coherent.write writes
  | refreshTokenRevokeLive id revokedAt base writes => exact coherent.write writes
  | refreshTokenExchange id date revokedAt replacedById base writes => exact coherent.write writes
  | refreshTokenRevoke id revokedAt base writes => exact coherent.write writes
  | _ => exact coherent.of_tables rfl rfl (fun _ => rfl) rfl

theorem Performs.coherent {statement : Statement} {answer : Except DatabaseError statement.Result}
    (performs : Performs thread now newId before statement answer after)
    (coherent : before.Coherent) : after.Coherent := by
  cases performs with
  | answered executes => exact executes.coherent coherent
  | failed error thrown fails =>
      cases fails with
      | kept same => exact same ▸ coherent
      | ended ends result => exact result ▸ coherent.rollback thread
      | executed answer executes => exact executes.coherent coherent

/-! ## The log and the other transactions -/

inductive Logs (thread : Thread) (now : ℕ) (newId : Uuid) (before : Server Thread)
    (statement : Statement) (after : Server Thread) : Prop
  | same (log : after.log = before.log)
  | commits (transaction : Transaction) (ends : statement = .commit)
      (opened : before.open_ thread = some transaction)
      (result : after = before.commit thread now transaction)
  | writes (change : Change) (base : Server Thread)
      (written : statement.change? now newId = some change)
      (closed : before.open_ thread = none) (writes : before.Writes base thread change)
      (result : after = base.commit thread now { since := now, changes := [change] })

structure Apart (thread : Thread) (before after : Server Thread) : Prop where
  open_ : ∀ other, other ≠ thread → after.open_ other = before.open_ other
  seen : ∀ other, other ≠ thread → after.seen other = before.seen other
  selected : ∀ other, other ≠ thread → after.selected other = before.selected other

theorem change_of_open {transaction : Transaction} (change : Change)
    (opened : before.open_ thread = some transaction) :
    before.change thread now change = before.setOpen thread
      (some { transaction with changes := transaction.changes ++ [change] }) := by
  simp only [Server.change, opened]

theorem change_of_closed (change : Change) (closed : before.open_ thread = none) :
    before.change thread now change =
      before.commit thread now { since := now, changes := [change] } := by
  simp only [Server.change, closed]

theorem Logs.written {statement : Statement} {base : Server Thread} {change : Change}
    (writes : before.Writes base thread change)
    (written : statement.change? now newId = some change) :
    Logs thread now newId before statement (base.change thread now change) := by
  cases opened : base.open_ thread with
  | some transaction =>
      rw [change_of_open change opened]
      exact .same writes.log
  | none =>
      rw [change_of_closed change opened]
      exact .writes change base written (writes.open_ ▸ opened) writes rfl

theorem Executes.logs {statement : Statement} {answer : Except DatabaseError statement.Result}
    (executes : Executes thread now newId before statement answer after) :
    Logs thread now newId before statement after := by
  cases executes with
  | commit transaction opened => exact .commits transaction rfl opened rfl
  | eventCreate event =>
      unfold Server.createEvent
      split
      · exact .same rfl
      · exact .same rfl
  | customerCreate data base writes => exact .written writes rfl
  | customerUpdate id data base row writes => exact .written writes rfl
  | recordLoginFailure id threshold durationMinutes base row writes => exact .written writes rfl
  | refreshTokenCreate data base writes => exact .written writes rfl
  | refreshTokenRevokeLive id revokedAt base writes => exact .written writes rfl
  | refreshTokenExchange id date revokedAt replacedById base writes => exact .written writes rfl
  | refreshTokenRevoke id revokedAt base writes => exact .written writes rfl
  | _ => exact .same rfl

theorem Performs.logs {statement : Statement} {answer : Except DatabaseError statement.Result}
    (performs : Performs thread now newId before statement answer after) :
    Logs thread now newId before statement after := by
  cases performs with
  | answered executes => exact executes.logs
  | failed error thrown fails =>
      cases fails with
      | kept same => exact .same (same ▸ rfl)
      | ended ends result => exact .same (result ▸ rfl)
      | executed answer executes => exact executes.logs

omit [DecidableEq Thread] in
theorem Apart.refl (server : Server Thread) : Apart thread server server :=
  ⟨fun _ _ => rfl, fun _ _ => rfl, fun _ _ => rfl⟩

theorem apart_setOpen (server : Server Thread) (transaction : Option Transaction) :
    Apart thread server (server.setOpen thread transaction) :=
  ⟨fun _ different => Function.update_of_ne different _ _, fun _ _ => rfl, fun _ _ => rfl⟩

theorem apart_commit (server : Server Thread) (transaction : Transaction) :
    Apart thread server (server.commit thread now transaction) :=
  ⟨fun _ different => Function.update_of_ne different _ _, fun _ _ => rfl, fun _ _ => rfl⟩

theorem apart_rollback (server : Server Thread) (thread : Thread) :
    Apart thread server (server.rollback thread) :=
  ⟨fun _ different => Function.update_of_ne different _ _, fun _ _ => rfl, fun _ _ => rfl⟩

theorem Apart.written {base : Server Thread} {change : Change}
    (writes : before.Writes base thread change) :
    Apart thread before (base.change thread now change) := by
  have apart : Apart thread base (base.change thread now change) := by
    unfold Server.change
    split
    · exact apart_setOpen base _
    · exact apart_commit base _
  exact ⟨writes.open_ ▸ apart.open_, writes.seen ▸ apart.seen, writes.selected ▸ apart.selected⟩

theorem Executes.apart {statement : Statement} {answer : Except DatabaseError statement.Result}
    (executes : Executes thread now newId before statement answer after) :
    Apart thread before after := by
  cases executes with
  | begin closed => exact apart_setOpen before _
  | commit transaction opened => exact apart_commit before transaction
  | rollback => exact apart_rollback before thread
  | customerFindUnique key =>
      exact ⟨fun _ _ => rfl, fun _ different => Function.update_of_ne different _ _, fun _ _ => rfl⟩
  | refreshTokenSelectLive customerId =>
      exact ⟨fun _ _ => rfl, fun _ _ => rfl, fun _ different => Function.update_of_ne different _ _⟩
  | eventCreate event =>
      unfold Server.createEvent
      split
      · exact apart_setOpen before _
      · exact ⟨fun _ _ => rfl, fun _ _ => rfl, fun _ _ => rfl⟩
  | customerCreate data base writes => exact .written writes
  | customerUpdate id data base row writes => exact .written writes
  | recordLoginFailure id threshold durationMinutes base row writes => exact .written writes
  | refreshTokenCreate data base writes => exact .written writes
  | refreshTokenRevokeLive id revokedAt base writes => exact .written writes
  | refreshTokenExchange id date revokedAt replacedById base writes => exact .written writes
  | refreshTokenRevoke id revokedAt base writes => exact .written writes
  | auditLogCreate data => exact ⟨fun _ _ => rfl, fun _ _ => rfl, fun _ _ => rfl⟩
  | _ => exact .refl before

theorem Performs.apart {statement : Statement} {answer : Except DatabaseError statement.Result}
    (performs : Performs thread now newId before statement answer after) :
    Apart thread before after := by
  cases performs with
  | answered executes => exact executes.apart
  | failed error thrown fails =>
      cases fails with
      | kept same =>
          rw [same]
          exact .refl before
      | ended ends result => exact result ▸ apart_rollback before thread
      | executed answer executes => exact executes.apart

theorem Server.change_seen (server : Server Thread) (change : Change) :
    (server.change thread now change).seen = server.seen := by
  unfold Server.change
  split <;> rfl

theorem Server.change_selected (server : Server Thread) (change : Change) :
    (server.change thread now change).selected = server.selected := by
  unfold Server.change
  split <;> rfl

theorem Executes.remembers {statement : Statement}
    {answer : Except DatabaseError statement.Result}
    (executes : Executes thread now newId before statement answer after)
    (other : statement.remembered = false) :
    after.seen = before.seen ∧ after.selected = before.selected := by
  have written {base : Server Thread} {change : Change} (writes : before.Writes base thread change) :
      (base.change thread now change).seen = before.seen ∧
        (base.change thread now change).selected = before.selected :=
    ⟨(base.change_seen change).trans writes.seen, (base.change_selected change).trans writes.selected⟩
  cases executes with
  | customerFindUnique key => cases other
  | refreshTokenSelectLive customerId => cases other
  | eventCreate event =>
      unfold Server.createEvent
      split <;> exact ⟨rfl, rfl⟩
  | customerCreate data base writes => exact written writes
  | customerUpdate id data base row writes => exact written writes
  | recordLoginFailure id threshold durationMinutes base row writes => exact written writes
  | refreshTokenCreate data base writes => exact written writes
  | refreshTokenRevokeLive id revokedAt base writes => exact written writes
  | refreshTokenExchange id date revokedAt replacedById base writes => exact written writes
  | refreshTokenRevoke id revokedAt base writes => exact written writes
  | _ => exact ⟨rfl, rfl⟩

end Statements

end BankingBackend.Auth
