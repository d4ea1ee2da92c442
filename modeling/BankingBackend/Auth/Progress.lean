import BankingBackend.Auth.System
import BankingBackend.Auth.Execution
import BankingBackend.Foundation.Monitor

/-! # The progress of a call

What a call has written and committed, as far as its own requests and their answers
tell.
-/

namespace BankingBackend.Auth

open Foundation Users
open Postgres (Uuid DatabaseError)
open Transactions (RequestContext)

/-! ## Events of a statement -/

namespace Statement

def pending (open_ : Option (List UserRegisteredEvent)) :
    Statement → Option (List UserRegisteredEvent)
  | .begin => some (open_.getD [])
  | .commit | .rollback => none
  | .eventCreate event => open_.map (· ++ [event])
  | _ => open_

def committed (open_ : Option (List UserRegisteredEvent)) :
    Statement → List UserRegisteredEvent
  | .commit => open_.getD []
  | .eventCreate event => if open_.isSome then [] else [event]
  | _ => []

def writes (statement : Statement) : Bool := (statement.change? 0 ⟨0⟩).isSome

/-- It commits what it or the transaction has written. -/
def commits (open_ : Option (List UserRegisteredEvent)) (statement : Statement) : Bool :=
  match open_ with
  | some _ => match statement with
    | .commit => true
    | _ => false
  | none => statement.writes

theorem writes_of_change {statement : Statement} {now : ℕ} {newId : Uuid} {change : Change}
    (written : statement.change? now newId = some change) : statement.writes = true := by
  cases statement <;> first | rfl | cases written

end Statement

section Execution

variable {Thread : Type} [DecidableEq Thread] {thread : Thread} {now : ℕ} {newId : Uuid}
  {before after : Server Thread}

def Server.pending (server : Server Thread) (thread : Thread) :
    Option (List UserRegisteredEvent) :=
  (server.open_ thread).map Transaction.events

theorem Server.change_pending (server : Server Thread) (thread : Thread) (now : ℕ)
    (change : Change) :
    (server.change thread now change).pending thread = server.pending thread ∧
      (server.change thread now change).events = server.events := by
  unfold Server.change
  split
  · rename_i transaction opened
    simp [Server.pending, Server.setOpen, opened]
  · rename_i closed
    simp [Server.pending, Server.commit, closed]

theorem Executes.progress {statement : Statement} {answer : Except DatabaseError statement.Result}
    (executes : Executes thread now newId before statement answer after) :
    after.pending thread = statement.pending (before.pending thread) ∧
      after.events = before.events ++ statement.committed (before.pending thread) := by
  have written {base : Server Thread} {change : Change} (writes : before.Writes base thread change) :
      (base.change thread now change).pending thread = before.pending thread ∧
        (base.change thread now change).events = before.events ++ [] := by
    have changed := base.change_pending thread now change
    rw [List.append_nil, ← writes.events]
    refine ⟨changed.1.trans ?_, changed.2⟩
    rw [Server.pending, writes.open_]
    rfl
  have kept : before.pending thread = before.pending thread ∧
      before.events = before.events ++ [] := ⟨rfl, (List.append_nil _).symm⟩
  cases executes with
  | begin closed =>
      simp [Server.pending, Server.setOpen, Statement.pending, Statement.committed, closed]
  | beginOpen transaction opened =>
      simp [Server.pending, Statement.pending, Statement.committed, opened]
  | commit transaction opened =>
      simp [Server.pending, Server.commit, Statement.pending, Statement.committed, opened]
  | commitClosed closed => simp [Server.pending, Statement.pending, Statement.committed, closed]
  | rollback => simp [Server.pending, Server.rollback, Statement.pending, Statement.committed]
  | eventCreate event =>
      unfold Server.createEvent
      split
      · rename_i transaction opened
        simp [Server.pending, Server.setOpen, Statement.pending, Statement.committed, opened]
      · rename_i closed
        simp [Server.pending, Statement.pending, Statement.committed, closed]
  | customerCreate data base writes => exact written writes
  | customerUpdate id data base row writes => exact written writes
  | recordLoginFailure id threshold durationMinutes base row writes => exact written writes
  | refreshTokenCreate data base writes => exact written writes
  | refreshTokenRevokeLive id revokedAt base writes => exact written writes
  | refreshTokenExchange id date revokedAt replacedById base writes => exact written writes
  | refreshTokenRevoke id revokedAt base writes => exact written writes
  | refused statement error refusable =>
      cases statement <;> first | exact kept | cases refusable
  | _ => exact kept

end Execution

/-! ## Following a call -/

/-- What a call has open and what it has committed. It is effective once a commit of it may
have changed a row and no request has failed since. -/
structure Track where
  pending : Option (List UserRegisteredEvent) := none
  written : List UserRegisteredEvent := []
  effective : Bool := false

namespace Track

def answered (track : Track) (statement : Statement) : Track where
  pending := statement.pending track.pending
  written := track.written ++ statement.committed track.pending
  effective := track.effective || statement.commits track.pending

def Moves (track : Track) : (command : Command) → command.Answer → Track → Prop
  | .query statement, .ok _, following => following = track.answered statement
  | .query _, .error _, following => following.effective = false
  | .signAsync _, .ok _, following => following = track
  | .signAsync _, .error _, following => following.effective = false
  | .date, _, following => following = track
  | .bcryptHash _, _, following => following = track
  | .randomBytes, _, following => following = track

def inside (events : List UserRegisteredEvent) : Track where
  pending := some events

def done (events : List UserRegisteredEvent) : Track where
  written := events
  effective := true

end Track

/-- A statement that may be refused comes before the first commit. -/
def progress : Monitor interface Track where
  permits track command := ∀ statement, command = .query statement → statement.refusable = true →
    track.effective = false
  moves := Track.Moves

/-- How a call ends. One that fails is not effective. -/
def Stops {α : Type} (returns : α → Track → Prop) : Except ServiceError α → Track → Prop
  | .ok value, track => returns value track
  | .error _, track => track.effective = false

section Walk

variable {α β : Type} {track : Track} {returns : α → Track → Prop}

theorem Stops.bind {program : Service α} {next : α → Service β} {further : β → Track → Prop}
    (first : progress.Obeys (Stops returns) program track)
    (rest : ∀ value between, returns value between →
      progress.Obeys (Stops further) (next value) between) :
    progress.Obeys (Stops further) (program >>= next) track :=
  Monitor.Obeys.bind first (fun _ _ stopped => stopped) rest

theorem obeys_query (statement : Statement)
    (refusable : statement.refusable = true → track.effective = false) :
    progress.Obeys (Stops fun _ final => final = track.answered statement) (query statement)
      track := by
  refine ⟨?_, fun answer following moves => ?_⟩
  · rintro _ ⟨⟩
    exact refusable
  · cases answer with
    | ok value => exact moves
    | error error => exact moves

theorem obeys_signAsync (sub : Uuid) :
    progress.Obeys (Stops fun _ final => final = track) (signAsync sub) track := by
  refine ⟨(by rintro _ ⟨⟩), fun answer following moves => ?_⟩
  cases answer with
  | ok token => exact moves
  | error message => exact moves

/-- The clock, `bcrypt` and `crypto` do not fail. -/
theorem obeys_request {command : Command} (silent : ∀ statement, command ≠ .query statement)
    (stays : ∀ answer following, track.Moves command answer following → following = track) :
    progress.Obeys (Stops fun _ final => final = track) (request command) track :=
  ⟨fun statement same => absurd same (silent statement), stays⟩

theorem obeys_throw {error : ServiceError} (before : track.effective = false) :
    progress.Obeys (Stops returns) (throw error : Service α) track :=
  Monitor.Obeys.throw before

theorem obeys_transaction {body : Service α} {wrote : α → List UserRegisteredEvent → Prop}
    (inside : progress.Obeys
      (Stops fun value final => ∃ events, wrote value events ∧ final = .inside events) body
      (.inside [])) :
    progress.Obeys (Stops fun value final => ∃ events, wrote value events ∧ final = .done events)
      (transaction body) {} := by
  unfold transaction
  refine Stops.bind (obeys_query .begin (by rintro ⟨⟩)) ?_
  rintro _ _ rfl
  refine Monitor.Obeys.attempt inside fun outcome between stopped => ?_
  cases outcome with
  | ok value =>
      rcases stopped with ⟨events, written, rfl⟩
      refine Stops.bind (obeys_query .commit (by rintro ⟨⟩)) ?_
      rintro _ _ rfl
      exact Monitor.Obeys.pure ⟨events, written, rfl⟩
  | error error =>
      refine Monitor.Obeys.attempt (obeys_query .rollback (by rintro ⟨⟩))
        fun outcome final ended => obeys_throw ?_
      cases outcome with
      | error failed => exact ended
      | ok value =>
          have before : between.effective = false := stopped
          have nothing : Statement.rollback.commits between.pending = false := by
            cases between.pending <;> rfl
          have same : final = between.answered .rollback := ended
          rw [same, Track.answered, before, nothing]
          rfl

/-! ### The operations -/

variable (config : AuthConfig) (context : RequestContext)

theorem obeys_inside {statement : Statement} {events : List UserRegisteredEvent}
    (stays : (Track.inside events).answered statement = .inside events) :
    progress.Obeys (Stops fun _ final => final = .inside events) (query statement)
      (.inside events) := by
  have obeys : progress.Obeys
      (Stops fun _ final => final = (Track.inside events).answered statement) (query statement)
        (.inside events) := obeys_query statement fun _ => rfl
  rwa [stays] at obeys

theorem obeys_date : progress.Obeys (Stops fun _ final => final = track) (request .date) track :=
  obeys_request (by rintro _ ⟨⟩) fun _ _ moves => moves

theorem obeys_bcryptHash (password : String) :
    progress.Obeys (Stops fun _ final => final = track) (request (.bcryptHash password)) track :=
  obeys_request (by rintro _ ⟨⟩) fun _ _ moves => moves

theorem obeys_createCustomer (dto : RegisterRequestDto) (passwordHash : String) :
    progress.Obeys (Stops fun customer final => ∃ events,
        events = [registeredEvent context customer.id] ∧ final = .done events)
      (createCustomer context dto passwordHash) {} := by
  have wrote : progress.Obeys (Stops fun customer final => ∃ events,
      events = [registeredEvent context (Entity.id customer)] ∧ final = .inside events)
      (do
        let customer ← query (.customerCreate
          { email := dto.email, name := dto.name, phone := dto.phone, passwordHash })
        query (.eventCreate (registeredEvent context customer.id))
        pure customer) (.inside []) := by
    refine Stops.bind (obeys_inside rfl) ?_
    rintro customer _ rfl
    refine Stops.bind (obeys_query (.eventCreate _) (by rintro ⟨⟩)) ?_
    rintro _ _ rfl
    exact Monitor.Obeys.pure ⟨_, rfl, rfl⟩
  exact obeys_transaction wrote

theorem obeys_register (dto : RegisterRequestDto) :
    progress.Obeys (Stops fun _ final => ∃ customerId,
      registeredEvent context customerId ∈ final.written) (register context dto) {} := by
  unfold register
  refine Stops.bind (obeys_query _ (by rintro ⟨⟩)) ?_
  rintro customer _ rfl
  cases customer with
  | some customer => exact obeys_throw rfl
  | none =>
      refine Stops.bind (obeys_bcryptHash _) ?_
      rintro passwordHash _ rfl
      refine Stops.bind (Monitor.Obeys.tryCatch (obeys_createCustomer context dto passwordHash)
        (fun _ _ ended => ended) fun error between stopped => ?_) ?_
      · split
        · exact obeys_throw stopped
        · exact obeys_throw stopped
      · rintro customer _ ⟨_, rfl, rfl⟩
        refine Stops.bind (obeys_query (.auditLogCreate _) (by rintro ⟨⟩)) ?_
        rintro _ _ rfl
        exact Monitor.Obeys.pure ⟨customer.id, .head _⟩

theorem obeys_exchangeToken (token : Entity RefreshToken) (data : RefreshTokenData) :
    progress.Obeys (Stops fun _ final => ∃ events, events = [] ∧ final = .done events)
      (exchangeToken token data) {} := by
  refine obeys_transaction ?_
  refine Stops.bind (obeys_inside rfl) ?_
  rintro created _ rfl
  refine Stops.bind obeys_date ?_
  rintro date _ rfl
  refine Stops.bind obeys_date ?_
  rintro revokedAt _ rfl
  refine Stops.bind (obeys_inside rfl) ?_
  rintro count _ rfl
  split
  · exact obeys_throw rfl
  · exact Monitor.Obeys.pure ⟨[], rfl, rfl⟩

theorem obeys_refresh (cookie : Option String) :
    progress.Obeys (Stops fun _ _ => True) (refresh config context cookie) {} := by
  unfold refresh
  split
  · exact obeys_throw rfl
  · refine Stops.bind (obeys_query _ (by rintro ⟨⟩)) ?_
    rintro found _ rfl
    split
    · unfold rotate
      refine Stops.bind (obeys_request (by rintro _ ⟨⟩) fun _ _ moves => moves) ?_
      rintro newRawRefreshToken _ rfl
      refine Stops.bind obeys_date ?_
      rintro now _ rfl
      refine Stops.bind (obeys_exchangeToken _ _) ?_
      rintro _ _ ⟨_, rfl, rfl⟩
      refine Stops.bind (obeys_query (.auditLogCreate _) (by rintro ⟨⟩)) ?_
      rintro _ _ rfl
      refine Stops.bind (obeys_signAsync _) ?_
      rintro accessToken _ rfl
      exact Monitor.Obeys.pure True.intro
    · exact obeys_throw rfl
    · exact obeys_throw rfl

theorem obeys_logout (cookie : Option String) :
    progress.Obeys (Stops fun _ _ => True) (logout config context cookie) {} := by
  unfold logout
  split
  · exact Monitor.Obeys.pure True.intro
  · refine Stops.bind (obeys_query _ (by rintro ⟨⟩)) ?_
    rintro found _ rfl
    split
    · split
      · refine Stops.bind obeys_date ?_
        rintro revokedAt _ rfl
        refine Stops.bind (obeys_query (.refreshTokenRevoke _ _) fun _ => rfl) ?_
        rintro _ _ rfl
        refine Stops.bind (obeys_query (.auditLogCreate _) (by rintro ⟨⟩)) ?_
        rintro _ _ rfl
        exact Monitor.Obeys.pure True.intro
      · exact Monitor.Obeys.pure True.intro
    · exact Monitor.Obeys.pure True.intro

theorem obeys_revokeEach (revokedAt : ℕ) (ids : List Uuid) :
    progress.Obeys (Stops fun _ final => final = .inside []) (revokeEach revokedAt ids)
      (.inside []) := by
  induction ids with
  | nil => exact Monitor.Obeys.pure rfl
  | cons id rest induction =>
      refine Stops.bind (obeys_inside rfl) ?_
      rintro _ _ rfl
      exact induction

theorem obeys_changePassword (userId : Uuid) (passwordHash : String) :
    progress.Obeys (Stops fun _ final => ∃ events, events = [] ∧ final = .done events)
      (changePassword userId passwordHash) {} := by
  refine obeys_transaction ?_
  refine Stops.bind (obeys_inside rfl) ?_
  rintro customer _ rfl
  refine Stops.bind obeys_date ?_
  rintro revokedAt _ rfl
  refine Stops.bind (obeys_inside rfl) ?_
  rintro ids _ rfl
  refine (obeys_revokeEach revokedAt ids).mono fun result final stopped => ?_
  cases result with
  | ok value => exact ⟨[], rfl, stopped⟩
  | error error => exact stopped

theorem obeys_patchPassword (userId : Uuid) (dto : UpdatePasswordRequestDto) :
    progress.Obeys (Stops fun _ _ => True) (patchPassword config context userId dto) {} := by
  unfold patchPassword
  refine Stops.bind (obeys_query _ (by rintro ⟨⟩)) ?_
  rintro found _ rfl
  cases found with
  | none => exact obeys_throw rfl
  | some user =>
      by_cases wrong : config.compare dto.oldPassword user.row.passwordHash = false
      · simp only [if_pos wrong]
        exact obeys_throw rfl
      · simp only [if_neg wrong]
        split
        · exact obeys_throw rfl
        · refine Stops.bind (obeys_bcryptHash _) ?_
          rintro passwordHash _ rfl
          refine Stops.bind (obeys_changePassword userId passwordHash) ?_
          rintro _ _ ⟨_, rfl, rfl⟩
          refine Stops.bind (obeys_query (.auditLogCreate _) (by rintro ⟨⟩)) ?_
          rintro _ _ rfl
          exact Monitor.Obeys.pure True.intro

/-- The operations that set a password, add a customer or end a token, without the login. -/
def Operation.critical : Operation → Bool
  | .register _ | .refresh _ | .logout _ | .patchPassword _ _ => true
  | .login _ | .putMe _ _ => false

def Wrote (request : Request) (track : Track) : Prop :=
  ∀ dto, request.operation = .register dto →
    ∃ customerId, registeredEvent request.context customerId ∈ track.written

theorem obeys_handle (request : Request) (critical : request.operation.critical = true) :
    progress.Obeys (Stops fun _ => Wrote request) (handle config request) {} := by
  rcases request with ⟨context, operation⟩
  cases operation with
  | register dto =>
      refine Monitor.Obeys.map (obeys_register context dto) (fun _ _ stopped => stopped) ?_
      rintro _ final wrote _ ⟨⟩
      exact wrote
  | refresh cookie =>
      exact Monitor.Obeys.map (obeys_refresh config context cookie) (fun _ _ stopped => stopped)
        (by rintro _ _ _ _ ⟨⟩)
  | logout cookie =>
      exact Monitor.Obeys.map (obeys_logout config context cookie) (fun _ _ stopped => stopped)
        (by rintro _ _ _ _ ⟨⟩)
  | patchPassword userId dto =>
      exact Monitor.Obeys.map (obeys_patchPassword config context userId dto)
        (fun _ _ stopped => stopped) (by rintro _ _ _ _ ⟨⟩)
  | login dto => cases critical
  | putMe userId dto => cases critical

end Walk

end BankingBackend.Auth
