import BankingBackend.Auth.Queries

/-! # Calls

Every call makes only commits of its operation.
-/

namespace BankingBackend.Auth

open Foundation Users
open Postgres (Uuid DatabaseError)
open Transactions (RequestContext)

section Calls

variable {Thread : Type} [DecidableEq Thread] {config : AuthConfig} {operation : Operation}
  {thread : Thread} {world : World Thread} {since : ℕ} {changes : List Change}
  {fact : World Thread → Prop}

/-! ## Statements of the transactions -/

theorem meets_customerCreate (data : CustomerData) (opened : Opened thread since changes world) :
    Meets config operation thread (query (.customerCreate data))
      (Ends thread fun created final =>
        Opened thread since (changes ++ [.customerCreated created.id data]) final) world := by
  refine meets_opened opened True.intro lasting_nothing (by rintro ⟨⟩) rfl ?_
  intro before newId created after opened _ _ log executes
  cases executes with
  | customerCreate _ base writes => exact opened.writes writes

theorem meets_eventCreate (event : UserRegisteredEvent) (opened : Opened thread since changes world) :
    Meets config operation thread (query (.eventCreate event))
      (Ends thread fun _ => Opened thread since changes) world := by
  refine meets_opened opened True.intro lasting_nothing (by rintro ⟨⟩) rfl ?_
  intro before newId created after opened _ _ log executes
  have coherent := executes.coherent opened.coherent
  rcases opened.opened with ⟨transaction, begun, since, changes⟩
  cases executes with
  | eventCreate _ =>
      refine ⟨coherent, opened.since_le,
        { transaction with events := transaction.events ++ [event] }, ?_, since, changes⟩
      simp [Server.createEvent, begun, Server.setOpen]

theorem meets_passwordUpdate (id : Uuid) (passwordHash : String)
    (opened : Opened thread since changes world) :
    Meets config operation thread (query (.customerUpdate id (.password passwordHash)))
      (Ends thread fun _ final =>
        Opened thread since (changes ++ [.customerUpdated id (.password passwordHash)]) final)
      world := by
  refine meets_opened opened True.intro lasting_nothing (by rintro ⟨⟩) rfl ?_
  intro before newId created after opened _ _ log executes
  cases executes with
  | customerUpdate _ _ base row writes => exact opened.writes writes

theorem meets_refreshTokenCreate (data : RefreshTokenData)
    (opened : Opened thread since changes world) (holds : fact world)
    (lasting : Lasting thread fact) :
    Meets config operation thread (query (.refreshTokenCreate data))
      (Ends thread fun created final =>
        Opened thread since (changes ++ [.tokenCreated created.id data]) final ∧ fact final)
      world := by
  refine meets_opened opened holds lasting (by rintro ⟨⟩) rfl ?_
  intro before newId created after opened holds _ log executes
  cases executes with
  | refreshTokenCreate _ base writes => exact ⟨opened.writes writes, holds⟩

theorem meets_refreshTokenExchange (id : Uuid) (date revokedAt : ℕ) (replacedById : Uuid)
    (opened : Opened thread since changes world) (holds : fact world)
    (lasting : Lasting thread fact) :
    Meets config operation thread (query (.refreshTokenExchange id date revokedAt replacedById))
      (Ends thread fun count final => fact final ∧ (count = 1 → Opened thread since
        (changes ++ [.tokenExchanged id date revokedAt replacedById]) final)) world := by
  refine meets_opened opened holds lasting (by rintro ⟨⟩) rfl ?_
  intro before newId created after opened holds _ log executes
  cases executes with
  | refreshTokenExchange _ _ _ _ base writes => exact ⟨holds, fun _ => opened.writes writes⟩
  | refreshTokenExchangeSkipped _ _ _ _ => exact ⟨holds, by rintro ⟨⟩⟩

/-! ### Revoking all live tokens -/

def OnlyRevokes (changes : List Change) : Prop :=
  ∀ change ∈ changes, ∀ id, change.token? = some id →
    ∃ revokedAt, change = .tokenRevokedLive id revokedAt

theorem Opened.pending (opened : Opened thread since changes world) :
    world.server.Pending thread changes := by
  have pending := opened.coherent.pending thread
  rcases opened.opened with ⟨transaction, begun, _, rfl⟩
  rwa [Server.changes_of_open begun] at pending

theorem Opened.settled (opened : Opened thread since changes world) (only : OnlyRevokes changes)
    {id : Uuid} {token : RefreshToken} (found : (rowsOf world.server.log).tokens id = some token)
    (dead : ∀ row, (world.server.view thread).tokens id = some row → row.live = false) :
    Settled world.server.log changes id := by
  have pending := opened.pending
  cases mine : world.server.tokens.own thread id with
  | some row =>
      rcases (pending.tokens id).mp (by rw [mine]; rfl) with ⟨change, member, about⟩
      rcases only change member id about with ⟨revokedAt, rfl⟩
      exact .inl ⟨revokedAt, member⟩
  | none =>
      have same : (world.server.view thread).tokens id = (rowsOf world.server.log).tokens id := by
        rw [← opened.coherent.logged.rows_eq]
        exact Table.visible_of_own_none mine
      exact .inr ⟨token, found, dead token (same.trans found)⟩

omit [DecidableEq Thread] in
theorem Settled.mono {older : List (Commit Thread)} {more : List Change} {id : Uuid}
    (settled : Settled older changes id) : Settled older (changes ++ more) id :=
  settled.imp_left fun ⟨revokedAt, member⟩ => ⟨revokedAt, List.mem_append_left more member⟩

theorem OnlyRevokes.append {more : List Change} (only : OnlyRevokes changes)
    (revokes : Revokes more) : OnlyRevokes (changes ++ more) := by
  intro change member id about
  rcases List.mem_append.mp member with first | second
  · exact only change first id about
  · rcases revokes change second with ⟨other, revokedAt, rfl⟩
    cases about
    exact ⟨revokedAt, rfl⟩

theorem Revokes.append {first second : List Change} (left : Revokes first)
    (right : Revokes second) : Revokes (first ++ second) :=
  fun change member => (List.mem_append.mp member).elim (left change) (right change)

theorem meets_refreshTokenRevokeLive (id : Uuid) (revokedAt : ℕ)
    (opened : Opened thread since changes world) (only : OnlyRevokes changes)
    (known : ((rowsOf world.server.log).tokens id).isSome) (holds : fact world)
    (lasting : Lasting thread fact) :
    Meets config operation thread (query (.refreshTokenRevokeLive id revokedAt))
      (Ends thread fun _ final => ∃ more, Revokes more ∧
        Opened thread since (changes ++ more) final ∧
        Settled final.server.log (changes ++ more) id ∧ fact final) world := by
  refine meets_opened opened ⟨known, holds⟩ (lasting_known.and lasting) (by rintro ⟨⟩) rfl ?_
  rintro before newId count after opened ⟨_, holds⟩ ⟨known, _⟩ log executes
  cases executes with
  | refreshTokenRevokeLive _ _ base writes =>
      refine ⟨[.tokenRevokedLive id revokedAt], ?_, opened.writes writes, .inl ⟨revokedAt, ?_⟩, holds⟩
      · intro change member
        exact ⟨id, revokedAt, List.mem_singleton.mp member⟩
      · exact List.mem_append_right _ (.head _)
  | refreshTokenRevokeLiveSkipped _ _ dead =>
      rcases Option.isSome_iff_exists.mp known with ⟨token, found⟩
      refine ⟨[], fun _ absurd => (by cases absurd), ?_, ?_, holds⟩
      · rw [List.append_nil]
        exact opened
      · rw [List.append_nil]
        exact opened.settled only found dead

theorem meets_revokeEach (revokedAt : ℕ) (ids : List Uuid)
    (opened : Opened thread since changes world) (only : OnlyRevokes changes)
    (known : ∀ id ∈ ids, ((rowsOf world.server.log).tokens id).isSome) (holds : fact world)
    (lasting : Lasting thread fact) :
    Meets config operation thread (revokeEach revokedAt ids)
      (Ends thread fun _ final => ∃ more, Revokes more ∧
        Opened thread since (changes ++ more) final ∧
        (∀ id ∈ ids, Settled final.server.log (changes ++ more) id) ∧ fact final) world := by
  induction ids generalizing changes world fact with
  | nil =>
      refine .pure ⟨[], fun _ absurd => (by cases absurd), ?_, fun _ absurd => (by cases absurd), holds⟩
      rw [List.append_nil]
      exact opened
  | cons id rest induction =>
      have lastingRest : Lasting thread fun world : World Thread =>
          ∀ id ∈ rest, ((rowsOf world.server.log).tokens id).isSome :=
        lasting_all fun _ => lasting_known
      have knownRest : ∀ id ∈ rest, ((rowsOf world.server.log).tokens id).isSome :=
        fun other member => known other (.tail _ member)
      refine .bind (meets_refreshTokenRevokeLive id revokedAt opened only (known id (.head _))
        ⟨knownRest, holds⟩ (lastingRest.and lasting)) (fun _ _ thrown => thrown) ?_
      rintro _ between ⟨more, revokes, opened, settled, knownRest, holds⟩
      refine (induction opened (only.append revokes) knownRest ⟨settled, holds⟩
        (lasting_settled.and lasting)).mono fun result final ends => ?_
      cases result with
      | error error => exact ends
      | ok value =>
          rcases ends with ⟨others, revokesOthers, opened, settledRest, settled, holds⟩
          rw [List.append_assoc] at opened settledRest
          refine ⟨more ++ others, revokes.append revokesOthers, opened, ?_, holds⟩
          intro other member
          rcases List.mem_cons.mp member with rfl | member
          · rw [← List.append_assoc]
            exact settled.mono
          · exact settledRest other member

theorem meets_refreshTokenSelectLive (customerId : Uuid)
    (opened : Opened thread since changes world)
    (tokenless : ∀ change ∈ changes, change.token? = none) (holds : fact world)
    (lasting : Lasting thread fact)
    (unselected : ∀ (before : World Thread) selected, fact before →
      fact { before with server := { before.server with selected } }) :
    Meets config operation thread (query (.refreshTokenSelectLive customerId))
      (Ends thread fun ids final => Opened thread since changes final ∧
        (∀ id ∈ ids, ((rowsOf final.server.log).tokens id).isSome) ∧
        Selected thread customerId ids final ∧ fact final) world := by
  refine meets_query (fun before kept =>
    (stable_opened.and lasting.stable) world before kept opened.coherent ⟨opened, holds⟩) ?_
  rintro before newId answer after ⟨opened, holds⟩ performs
  refine ⟨.inl (grows_opened opened performs (by rintro ⟨⟩)), ?_⟩
  cases performs with
  | failed error equal _ =>
      subst equal
      exact thrown_database error _
  | answered executes =>
      have coherent := executes.coherent opened.coherent
      cases executes with
      | refused _ error refusable => cases refusable
      | refreshTokenSelectLive _ =>
          have same : (before.server.view thread).tokens = (rowsOf before.server.log).tokens := by
            rw [← opened.coherent.logged.rows_eq]
            exact opened.pending.replays.tokens_same tokenless
          have selected : Function.update before.server.selected thread before.server.log.length
              thread = before.server.log.length := Function.update_self _ _ _
          refine ⟨⟨coherent, opened.since_le, opened.opened⟩, ?_, ⟨selected.le, ?_⟩,
            unselected before _ holds⟩
          · intro id member
            rcases Table.mem_select.mp member with ⟨token, visible, _⟩
            have found := congrFun same id
            rw [show (before.server.view thread).tokens id = some token from visible] at found
            show ((rowsOf before.server.log).tokens id).isSome
            rw [← found]
            rfl
          · intro id token found owner live
            refine Table.mem_select.mpr ⟨token, ?_, by simp [owner, live]⟩
            have present : (rowsOf before.server.log).tokens id = some token := by
              have asRead := found
              simp only [selected, asOf_length] at asRead
              exact asRead
            exact (congrFun same id).trans present

theorem meets_revokeAllLive (customerId : Uuid) (opened : Opened thread since changes world)
    (tokenless : ∀ change ∈ changes, change.token? = none) (holds : fact world)
    (lasting : Lasting thread fact)
    (unselected : ∀ (before : World Thread) selected, fact before →
      fact { before with server := { before.server with selected } }) :
    Meets config operation thread (revokeAllLive customerId)
      (Ends thread fun _ final => ∃ ids more, Revokes more ∧
        Opened thread since (changes ++ more) final ∧
        (∀ id ∈ ids, Settled final.server.log (changes ++ more) id) ∧
        Selected thread customerId ids final ∧ fact final) world := by
  have only : OnlyRevokes changes := by
    intro change member id about
    rw [tokenless change member] at about
    cases about
  refine .bind (meets_date opened.coherent ⟨opened, holds⟩ (stable_opened.and lasting.stable))
    (fun _ _ thrown => thrown) ?_
  rintro revokedAt dated ⟨⟨opened, holds⟩, _⟩
  refine .bind (meets_refreshTokenSelectLive customerId opened tokenless holds lasting unselected)
    (fun _ _ thrown => thrown) ?_
  rintro ids chosen ⟨opened, known, selected, holds⟩
  refine (meets_revokeEach revokedAt ids opened only known ⟨selected, holds⟩
    (lasting_selected.and lasting)).mono fun result final ends => ?_
  cases result with
  | error error => exact ends
  | ok value =>
      rcases ends with ⟨more, revokes, opened, settled, selected, holds⟩
      exact ⟨ids, more, revokes, opened, settled, selected, holds⟩

omit [DecidableEq Thread] in
theorem Commit.Of.cleared {commit : Commit Thread} {customerId : Uuid} {ids : List Uuid}
    (of : commit.Of thread since changes world) (selected : Selected thread customerId ids world)
    (settled : ∀ id ∈ ids, Settled world.server.log changes id) :
    Cleared world.server.log commit customerId := by
  intro id token found owner live
  rw [of.selected] at found
  rw [of.changes]
  exact settled id (selected.selects id token found owner live)

/-! ## Registration -/

variable {context : RequestContext}

omit [DecidableEq Thread] in
theorem thrown_http {exception : HttpException} (other : .http exception ≠ invalidRefreshToken)
    (world : World Thread) : Thrown thread (.http exception) world :=
  fun same => absurd same other

theorem meets_createCustomer (dto : RegisterRequestDto) (passwordHash : String)
    (closed : Closed thread world) :
    Meets config (.register dto) thread (createCustomer context dto passwordHash)
      (Ends thread fun _ => Closed thread) world := by
  let data : CustomerData := { email := dto.email, name := dto.name, phone := dto.phone, passwordHash }
  refine meets_transaction (fun created _ changes _ => changes = [.customerCreated created.id data])
    closed True.intro lasting_nothing ?_ (fun _ _ _ _ _ _ _ => id) ?_ ?_
  · intro since begun opened _
    refine .bind (meets_customerCreate data opened) (fun _ _ thrown => thrown) ?_
    intro created between opened
    refine .bind (meets_eventCreate _ opened) (fun _ _ thrown => thrown) ?_
    intro _ final opened
    exact .pure ⟨_, opened, rfl⟩
  · rintro created since _ before rfl commit of
    exact .registered created.id data of.changes
  · exact fun _ _ _ _ _ _ _ _ _ _ closed => closed

theorem meets_recordAudit {action : AuditAction} {customerId : Uuid} {success : Bool}
    {reasonCode : Option String} (closed : Closed thread world) (holds : fact world)
    (lasting : Lasting thread fact) :
    Meets config operation thread (recordAudit context action customerId success reasonCode)
      (Ends thread fun _ => fact) world :=
  (meets_auditLogCreate _ closed holds lasting).mono fun result final ends => by
    cases result with
    | error error => exact ends
    | ok value => exact ends.2

theorem meets_register (dto : RegisterRequestDto) (closed : Closed thread world) :
    Meets config (.register dto) thread (register context dto) (Ends thread fun _ _ => True)
      world := by
  have conflict (world : World Thread) :
      Thrown thread (.http (.conflict "Customer already exists")) world :=
    thrown_http (by decide) world
  refine .bind (meets_findCustomer _ closed) (fun _ _ thrown => thrown) fun found between known => ?_
  cases found with
  | some customer => exact .throw (conflict between)
  | none =>
      refine .bind (meets_bcryptHash dto.password known.1.coherent known.1 stable_closed)
        (fun _ _ thrown => thrown) fun passwordHash hashed closed => ?_
      have caught : Meets config (.register dto) thread
          (tryCatch (createCustomer context dto passwordHash) fun err =>
            if err.code = some "P2002" then
              throw (.http (.conflict "Customer already exists"))
            else throw err) (Ends thread fun _ => Closed thread) hashed := by
        refine .tryCatch (meets_createCustomer dto passwordHash closed)
          (fun _ _ closed => closed) fun error final thrown => ?_
        split
        · exact .throw (conflict final)
        · exact .throw thrown
      refine .bind caught (fun _ _ thrown => thrown) fun customer created closed => ?_
      refine .bind (meets_recordAudit closed True.intro lasting_nothing)
        (fun _ _ thrown => thrown) fun _ final _ => ?_
      exact .pure True.intro

/-! ## Login -/

def Passed (thread : Thread) (customer : Entity Customer) (world : World Thread) : Prop :=
  Read thread customer world ∧ ∃ date, Dated date world ∧ isLocked customer date = false

theorem lasting_passed {customer : Entity Customer} : Lasting thread (Passed thread customer) := by
  rintro before after later coherent ⟨read, date, dated, unlocked⟩
  exact ⟨lasting_read before after later coherent read, date,
    lasting_dated before after later coherent dated, unlocked⟩

omit [DecidableEq Thread] in
theorem Passed.admitted {customer : Entity Customer} {commit : Commit Thread}
    (passed : Passed thread customer world) (of : commit.Of thread since changes world) :
    Admitted world.server.log commit customer := by
  rcases passed with ⟨read, date, dated, unlocked⟩
  refine ⟨?_, date, ?_, unlocked⟩
  · rw [of.seen]
    exact read.found
  · rw [of.now]
    exact dated

theorem meets_failLogin (dto : LoginRequestDto) (customer : Entity Customer)
    (closed : Closed thread world) :
    Meets config (.login dto) thread (failLogin config context customer)
      (Ends thread fun _ _ => True) world := by
  have refused (world : World Thread) : Thrown thread invalidCredentials world :=
    thrown_http (by decide) world
  have counted : Meets config (.login dto) thread (query (.recordLoginFailure customer.id
      config.loginLockThreshold config.loginLockDurationMinutes))
      (Ends thread fun _ => Closed thread) world := by
    refine meets_written closed True.intro lasting_nothing ?_ ?_
    · rintro before newId _ closed _ ⟨⟩ commit of
      refine .loginFailed customer.id ?_
      rw [of.changes, of.now]
    · intro before newId answer after closed _ executes
      cases executes with
      | recordLoginFailure _ _ _ base row writes => exact (closed.writes writes).1
      | recordLoginFailureMissing _ _ _ => exact closed
  refine .bind counted (fun _ _ thrown => thrown) fun row between closed => ?_
  cases row with
  | none => exact .throw (refused between)
  | some row =>
      refine .bind (meets_recordAudit closed True.intro lasting_nothing)
        (fun _ _ thrown => thrown) fun _ final _ => ?_
      exact .throw (refused final)

theorem meets_resetLogin (dto : LoginRequestDto) (customer : Entity Customer)
    (closed : Closed thread world) (passed : Passed thread customer world) :
    Meets config (.login dto) thread (query (.customerUpdate customer.id .resetLogin))
      (Ends thread fun _ final => Closed thread final ∧ Passed thread customer final) world := by
  refine meets_written closed passed lasting_passed ?_ ?_
  · rintro before newId _ closed passed ⟨⟩ commit of
    exact .loginReset customer of.changes (passed.admitted of)
  · rintro before newId answer after closed ⟨read, date⟩ executes
    have seen := congrFun (executes.remembers rfl).1 thread
    cases executes with
    | customerUpdate _ _ base row writes =>
        rcases closed.writes writes with ⟨closed, commit, log⟩
        exact ⟨closed, ⟨read.grows seen (show _ = [commit] ++ _ from log), date⟩⟩

theorem meets_issueToken (dto : LoginRequestDto) (customer : Entity Customer)
    (data : RefreshTokenData) (customerId : data.customerId = customer.id)
    (passwordChanges : data.passwordChanges = customer.row.passwordChanges)
    (closed : Closed thread world) (passed : Passed thread customer world) :
    Meets config (.login dto) thread (issueToken customer data) (Ends thread fun _ => Closed thread)
      world := by
  refine meets_transaction (fun _ _ changes final => ∃ ids revokes newId,
      changes = revokes ++ [.tokenCreated newId data] ∧ Revokes revokes ∧
      (∀ id ∈ ids, Settled final.server.log changes id) ∧ Selected thread customer.id ids final ∧
      Passed thread customer final) closed passed lasting_passed ?_ ?_ ?_ ?_
  · intro since begun opened passed
    have unselected (before : World Thread) (selected : Thread → ℕ)
        (passed : Passed thread customer before) :
        Passed thread customer { before with server := { before.server with selected } } :=
      ⟨⟨passed.1.had, passed.1.found⟩, passed.2⟩
    refine .bind (meets_revokeAllLive customer.id opened (by simp) passed lasting_passed unselected)
      (fun _ _ thrown => thrown) ?_
    rintro _ between ⟨ids, revokes, revoking, opened, settled, selected, passed⟩
    refine .bind (meets_refreshTokenCreate data opened ⟨settled, selected, passed⟩
      ((lasting_all fun _ => lasting_settled).and (lasting_selected.and lasting_passed)))
      (fun _ _ thrown => thrown) ?_
    rintro created final ⟨opened, settled, selected, passed⟩
    exact .pure ⟨_, opened, ids, revokes, created.id, rfl, revoking,
      fun id member => (settled id member).mono, selected, passed⟩
  · rintro _ since changes before after later coherent
      ⟨ids, revokes, newId, same, revoking, settled, selected, passed⟩
    exact ⟨ids, revokes, newId, same, revoking,
      lasting_all (fun _ => lasting_settled) before after later coherent settled,
      lasting_selected before after later coherent selected,
      lasting_passed before after later coherent passed⟩
  · rintro _ since changes before
      ⟨ids, revokes, newId, same, revoking, settled, selected, passed⟩ commit of
    exact .loginIssued customer revokes newId data (of.changes.trans same) revoking
      (passed.admitted of) customerId passwordChanges (of.cleared selected settled)
  · exact fun _ _ _ _ _ _ _ _ _ _ closed => closed

theorem meets_succeedLogin (dto : LoginRequestDto) (customer : Entity Customer)
    (closed : Closed thread world) (passed : Passed thread customer world) :
    Meets config (.login dto) thread (succeedLogin config context customer dto.email)
      (Ends thread fun _ _ => True) world := by
  have stable : Stable thread fun world : World Thread =>
      Closed thread world ∧ Passed thread customer world :=
    stable_closed.and lasting_passed.stable
  refine .bind (meets_resetLogin dto customer closed passed) (fun _ _ thrown => thrown) ?_
  rintro _ reset ⟨closed, passed⟩
  refine .bind (meets_signAsync customer.id closed.coherent ⟨closed, passed⟩ stable)
    (fun _ _ thrown => thrown) ?_
  rintro accessToken signed ⟨closed, passed⟩
  refine .bind (meets_randomBytes closed.coherent ⟨closed, passed⟩ stable)
    (fun _ _ thrown => thrown) ?_
  rintro rawRefreshToken drawn ⟨closed, passed⟩
  refine .bind (meets_date closed.coherent ⟨closed, passed⟩ stable) (fun _ _ thrown => thrown) ?_
  rintro now dated ⟨⟨closed, passed⟩, _⟩
  refine .bind (meets_issueToken dto customer _ rfl rfl closed passed) (fun _ _ thrown => thrown) ?_
  intro _ issued closed
  refine .bind (meets_recordAudit closed True.intro lasting_nothing)
    (fun _ _ thrown => thrown) fun _ final _ => ?_
  exact .pure True.intro

theorem meets_login (dto : LoginRequestDto) (closed : Closed thread world) :
    Meets config (.login dto) thread (login config context dto) (Ends thread fun _ _ => True)
      world := by
  refine .bind (meets_findCustomer _ closed) (fun _ _ thrown => thrown) ?_
  rintro found between ⟨closed, known⟩
  cases found with
  | none => exact .throw (thrown_http (by decide) between)
  | some customer =>
      have read := (known customer rfl).1
      refine .bind (meets_date closed.coherent ⟨closed, read⟩
        (stable_closed.and lasting_read.stable)) (fun _ _ thrown => thrown) ?_
      rintro now dated ⟨⟨closed, read⟩, today⟩
      split
      · exact .throw (thrown_http (by decide) dated)
      · rename_i unlocked
        split
        · exact meets_succeedLogin dto customer closed
            ⟨read, now, today.le, by simpa using unlocked⟩
        · exact meets_failLogin dto customer closed

/-! ## Refreshing -/

def Exchanged (thread : Thread) (tokenHash : String) (world : World Thread) : Prop :=
  ∃ commit ∈ world.server.log, commit.thread = thread ∧
    ∃ newId data, .tokenCreated newId data ∈ commit.changes ∧ data.tokenHash = tokenHash

theorem lasting_exchanged {tokenHash : String} : Lasting thread (Exchanged thread tokenHash) := by
  rintro before after later coherent ⟨commit, member, created⟩
  rcases later.log with ⟨newer, log, _⟩
  exact ⟨commit, log ▸ List.mem_append_right newer member, created⟩

theorem lasting_uncommitted : Lasting thread (Uncommitted thread) :=
  fun _ _ later _ => later.uncommitted

theorem meets_exchangeToken (cookie : Option String) (token : Entity RefreshToken)
    (data : RefreshTokenData) (customerId : data.customerId = token.row.customerId)
    (passwordChanges : data.passwordChanges = token.row.passwordChanges)
    (closed : Closed thread world) (uncommitted : Uncommitted thread world)
    (held : Held token.id token.row.customerId token.row.passwordChanges world) :
    Meets config (.refresh cookie) thread (exchangeToken token data)
      (Ends thread fun _ final => Closed thread final ∧ Exchanged thread data.tokenHash final)
      world := by
  have lasting : Lasting thread fun world : World Thread => Uncommitted thread world ∧
      Held token.id token.row.customerId token.row.passwordChanges world :=
    lasting_uncommitted.and lasting_held
  refine meets_transaction (fun _ since changes final => ∃ newId date revokedAt,
      changes = [.tokenCreated newId data, .tokenExchanged token.id date revokedAt newId] ∧
      toDate since ≤ date ∧ Dated date final ∧
      Held token.id token.row.customerId token.row.passwordChanges final)
    closed ⟨uncommitted, held⟩ lasting ?_ ?_ ?_ ?_
  · intro since begun opened known
    refine .bind (meets_refreshTokenCreate data opened known lasting) (fun _ _ thrown => thrown) ?_
    rintro created inserted ⟨opened, known⟩
    refine .bind (meets_date opened.coherent ⟨opened, known⟩ (stable_opened.and lasting.stable))
      (fun _ _ thrown => thrown) ?_
    rintro date dated ⟨⟨opened, known⟩, rfl⟩
    have began : toDate since ≤ toDate dated.now := Nat.div_le_div_right opened.since_le
    have lastingDate : Lasting thread fun world : World Thread =>
        Dated (toDate dated.now) world ∧ Uncommitted thread world ∧
          Held token.id token.row.customerId token.row.passwordChanges world :=
      lasting_dated.and lasting
    refine .bind (meets_date opened.coherent ⟨opened, le_rfl, known⟩
      (stable_opened.and lastingDate.stable)) (fun _ _ thrown => thrown) ?_
    rintro revokedAt dates ⟨⟨opened, known⟩, _⟩
    refine .bind (meets_refreshTokenExchange token.id (toDate dated.now) revokedAt created.id opened
      known lastingDate) (fun _ _ thrown => thrown) ?_
    rintro count exchanged ⟨⟨ended, uncommitted, held⟩, opens⟩
    split
    · exact .throw fun _ => uncommitted
    · rename_i one
      exact .pure ⟨_, opens (by simpa using one), created.id, _, revokedAt, rfl, began, ended, held⟩
  · rintro _ since changes before after later coherent
      ⟨newId, date, revokedAt, same, began, dated, held⟩
    exact ⟨newId, date, revokedAt, same, began, lasting_dated before after later coherent dated,
      lasting_held before after later coherent held⟩
  · rintro _ since changes before ⟨newId, date, revokedAt, same, began, dated, held⟩ commit of
    rcases held with ⟨row, found, owner, password⟩
    refine .refreshed token.id row newId data date revokedAt (of.changes.trans same) found
      (customerId.trans owner.symm) (passwordChanges.trans password.symm) ?_ ?_
    · rw [of.since]
      exact began
    · rw [of.now]
      exact dated
  · rintro _ since changes before commit after ⟨newId, date, revokedAt, same, _⟩ coherent log of
      closed
    refine ⟨closed, commit, log ▸ .head _, of.mine, newId, data, ?_, rfl⟩
    rw [of.changes, same]
    exact .head _

theorem meets_rotate (cookie : Option String) (token : Entity RefreshToken)
    (customer : Entity Customer) (owner : customer.id = token.row.customerId)
    (closed : Closed thread world) (uncommitted : Uncommitted thread world)
    (held : Held token.id token.row.customerId token.row.passwordChanges world) :
    Meets config (.refresh cookie) thread (rotate config context token customer)
      (Ends thread fun dto final => Exchanged thread (config.sha256 dto.refreshToken) final)
      world := by
  have lasting : Lasting thread fun world : World Thread => Uncommitted thread world ∧
      Held token.id token.row.customerId token.row.passwordChanges world :=
    lasting_uncommitted.and lasting_held
  have stable : Stable thread fun world : World Thread => Closed thread world ∧
      Uncommitted thread world ∧
        Held token.id token.row.customerId token.row.passwordChanges world :=
    stable_closed.and lasting.stable
  refine .bind (meets_randomBytes closed.coherent ⟨closed, uncommitted, held⟩ stable)
    (fun _ _ thrown => thrown) ?_
  rintro newRawRefreshToken drawn ⟨closed, known⟩
  refine .bind (meets_date closed.coherent ⟨closed, known⟩ stable) (fun _ _ thrown => thrown) ?_
  rintro now dated ⟨⟨closed, uncommitted, held⟩, _⟩
  refine .bind (meets_exchangeToken cookie token _ owner rfl closed uncommitted held)
    (fun _ _ thrown => thrown) ?_
  rintro _ exchanged ⟨closed, done⟩
  have both : Lasting thread fun world : World Thread =>
      Exchanged thread (config.sha256 newRawRefreshToken) world := lasting_exchanged
  refine .bind (meets_auditLogCreate _ closed done both) (fun _ _ thrown => thrown) ?_
  rintro _ recorded ⟨closed, done⟩
  refine .bind (meets_signAsync customer.id closed.coherent ⟨closed, done⟩
    (stable_closed.and both.stable)) (fun _ _ thrown => thrown) ?_
  rintro accessToken signed ⟨_, done⟩
  exact .pure done

theorem meets_refresh (cookie : Option String) (closed : Closed thread world)
    (uncommitted : Uncommitted thread world) :
    Meets config (.refresh cookie) thread (refresh config context cookie)
      (Ends thread fun dto final => Exchanged thread (config.sha256 dto.refreshToken) final)
      world := by
  unfold refresh
  split
  · exact .throw fun _ => uncommitted
  · refine .bind (meets_findToken _ closed uncommitted lasting_uncommitted)
      (fun _ _ thrown => thrown) ?_
    rintro found between ⟨closed, uncommitted, known⟩
    split
    · rename_i token customer
      have held := known token customer rfl
      exact meets_rotate cookie token customer held.1 closed uncommitted held.2
    · exact .throw fun _ => uncommitted
    · exact .throw fun _ => uncommitted

/-! ## Logout -/

theorem meets_logout (cookie : Option String) (closed : Closed thread world) :
    Meets config (.logout cookie) thread (logout config context cookie)
      (Ends thread fun _ _ => True) world := by
  unfold logout
  split
  · exact .pure True.intro
  · refine .bind (meets_findToken _ closed True.intro lasting_nothing)
      (fun _ _ thrown => thrown) ?_
    rintro found between ⟨closed, _⟩
    cases found with
    | none => exact .pure True.intro
    | some found =>
      rcases found with ⟨token, owner⟩
      dsimp only
      split
      · refine .bind (meets_date closed.coherent closed stable_closed)
          (fun _ _ thrown => thrown) ?_
        rintro revokedAt dated ⟨closed, _⟩
        have revoked : Meets config (.logout cookie) thread
            (query (.refreshTokenRevoke token.id revokedAt)) (Ends thread fun _ => Closed thread)
            dated := by
          refine meets_written closed True.intro lasting_nothing ?_ ?_
          · rintro before newId _ closed _ ⟨⟩ commit of
            exact .loggedOut token.id revokedAt of.changes
          · intro before newId answer after closed _ executes
            cases executes with
            | refreshTokenRevoke _ _ base writes => exact (closed.writes writes).1
        refine .bind revoked (fun _ _ thrown => thrown) fun _ final closed => ?_
        refine .bind (meets_recordAudit closed True.intro lasting_nothing)
          (fun _ _ thrown => thrown) fun _ _ _ => ?_
        exact .pure True.intro
      · exact .pure True.intro

/-! ## Users -/

theorem meets_putMe (userId : Uuid) (dto : UpdateUserMeRequestDto) (closed : Closed thread world) :
    Meets config (.putMe userId dto) thread (putMe userId dto) (Ends thread fun _ _ => True)
      world := by
  refine .bind (meets_findCustomer _ closed) (fun _ _ thrown => thrown) ?_
  rintro found between ⟨closed, known⟩
  cases found with
  | none => exact .throw (thrown_http (by decide) between)
  | some user =>
      rcases known user rfl with ⟨read, same⟩
      have id := same userId rfl
      have updated : Meets config (.putMe userId dto) thread
          (tryCatch (query (.customerUpdate userId (profileUpdate dto user.row))) fun err =>
            if err.code = some "P2002" then throw (.http (.conflict "Email already exists"))
            else throw err) (Ends thread fun _ _ => True) between := by
        have written : Meets config (.putMe userId dto) thread
            (query (.customerUpdate userId (profileUpdate dto user.row)))
            (Ends thread fun _ _ => True) between := by
          refine meets_written closed read lasting_read ?_ fun _ _ _ _ _ _ _ => True.intro
          rintro before newId _ closed read ⟨⟩ commit of
          refine .profileUpdated user.row of.changes ?_
          rw [of.seen, ← id]
          exact read.found
        refine .tryCatch written (fun _ _ _ => True.intro) fun error final thrown => ?_
        split
        · exact .throw (thrown_http (by decide) final)
        · exact .throw thrown
      exact .bind updated (fun _ _ thrown => thrown) fun _ _ _ => .pure True.intro

theorem meets_changePassword (userId : Uuid) (dto : UpdatePasswordRequestDto)
    (passwordHash : String) (closed : Closed thread world) :
    Meets config (.patchPassword userId dto) thread (changePassword userId passwordHash)
      (Ends thread fun _ => Closed thread) world := by
  refine meets_transaction (fun _ _ changes final => ∃ ids revokes,
      changes = .customerUpdated userId (.password passwordHash) :: revokes ∧ Revokes revokes ∧
      (∀ id ∈ ids, Settled final.server.log changes id) ∧ Selected thread userId ids final)
    closed True.intro lasting_nothing ?_ ?_ ?_ ?_
  · intro since begun opened _
    refine .bind (meets_passwordUpdate userId passwordHash opened) (fun _ _ thrown => thrown) ?_
    intro _ between opened
    have tokenless : ∀ change ∈ [] ++ [.customerUpdated userId (.password passwordHash)],
        Change.token? change = none := by simp [Change.token?]
    refine (meets_revokeAllLive userId opened tokenless True.intro lasting_nothing
      fun _ _ _ => True.intro).mono fun result final ends => ?_
    cases result with
    | error error => exact ends
    | ok value =>
        rcases ends with ⟨ids, revokes, revoking, opened, settled, selected, _⟩
        exact ⟨_, opened, ids, revokes, rfl, revoking, settled, selected⟩
  · rintro _ since changes before after later coherent
      ⟨ids, revokes, same, revoking, settled, selected⟩
    exact ⟨ids, revokes, same, revoking,
      lasting_all (fun _ => lasting_settled) before after later coherent settled,
      lasting_selected before after later coherent selected⟩
  · rintro _ since changes before ⟨ids, revokes, same, revoking, settled, selected⟩ commit of
    exact .passwordChanged passwordHash revokes (of.changes.trans same) revoking
      (of.cleared selected settled)
  · exact fun _ _ _ _ _ _ _ _ _ _ closed => closed

theorem meets_patchPassword (userId : Uuid) (dto : UpdatePasswordRequestDto)
    (closed : Closed thread world) :
    Meets config (.patchPassword userId dto) thread (patchPassword config context userId dto)
      (Ends thread fun _ _ => True) world := by
  refine .bind (meets_findCustomer _ closed) (fun _ _ thrown => thrown) ?_
  rintro found between ⟨closed, known⟩
  cases found with
  | none => exact .throw (thrown_http (by decide) between)
  | some user =>
      dsimp only
      split
      · exact .throw (thrown_http (by decide) between)
      · split
        · exact .throw (thrown_http (by decide) between)
        · refine .bind (meets_bcryptHash dto.newPassword closed.coherent closed stable_closed)
            (fun _ _ thrown => thrown) fun passwordHash hashed closed => ?_
          refine .bind (meets_changePassword userId dto passwordHash closed)
            (fun _ _ thrown => thrown) fun _ changed closed => ?_
          refine .bind (meets_recordAudit closed True.intro lasting_nothing)
            (fun _ _ thrown => thrown) fun _ _ _ => ?_
          exact .pure True.intro

/-! ## Every call -/

/-- A refresh that returns a token has committed it. -/
def Returned (config : AuthConfig) (operation : Operation) (thread : Thread) (response : Response)
    (world : World Thread) : Prop :=
  match operation, response with
  | .refresh _, .tokens dto => Exchanged thread (config.sha256 dto.refreshToken) world
  | _, _ => True

theorem meets_handle (request : Request) (closed : Closed thread world)
    (uncommitted : Uncommitted thread world) :
    Meets config request.operation thread (handle config request)
      (Ends thread (Returned config request.operation thread)) world := by
  rcases request with ⟨context, operation⟩
  cases operation with
  | register dto => exact .map (meets_register dto closed) (fun _ _ => id) fun _ _ => id
  | login dto => exact .map (meets_login dto closed) (fun _ _ => id) fun _ _ => id
  | refresh cookie =>
      exact .map (meets_refresh cookie closed uncommitted) (fun _ _ => id) fun _ _ => id
  | logout cookie => exact .map (meets_logout cookie closed) (fun _ _ => id) fun _ _ => id
  | putMe userId dto => exact .map (meets_putMe userId dto closed) (fun _ _ => id) fun _ _ => id
  | patchPassword userId dto =>
      exact .map (meets_patchPassword userId dto closed) (fun _ _ => id) fun _ _ => id

end Calls

end BankingBackend.Auth
