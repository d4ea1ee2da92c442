import BankingBackend.Auth.Tracking

/-! # Registration events of the calls

Every event that is committed is that of a registration, and every registration that
succeeds has committed its event.
-/

namespace BankingBackend.Auth

open Foundation Foundation.Program Users
open Postgres (Uuid DatabaseError)
open Transactions (RequestContext)

/-! ## What a call announces -/

def Announces (request : Request) (command : interface.Op) : Prop :=
  ∀ event, command = .query (.eventCreate event) →
    ∃ customerId, event = registeredEvent request.context customerId

section Issues

variable {request : Request} {α : Type} {body : Service α}

theorem issues_request {command : Command} (announces : Announces request command) :
    Issues (Announces request) (Auth.request command) :=
  ⟨announces, fun _ => trivial⟩

theorem issues_query {statement : Statement} (announces : Announces request (.query statement)) :
    Issues (Announces request) (query statement) := by
  refine (issues_request announces).bind fun answer => ?_
  cases answer with
  | ok result => exact issues_pure result
  | error error => exact issues_throw (ServiceError.database error)

theorem issues_signAsync (sub : Uuid) : Issues (Announces request) (signAsync sub) := by
  refine (issues_request (by rintro _ ⟨⟩)).bind fun answer => ?_
  cases answer with
  | ok token => exact issues_pure token
  | error message => exact issues_throw (ServiceError.signing message)

theorem issues_transaction (issues : Issues (Announces request) body) :
    Issues (Announces request) (transaction body) := by
  refine (issues_query (by rintro _ ⟨⟩)).bind fun _ => issues.attempt.bind fun outcome => ?_
  cases outcome with
  | ok value => exact (issues_query (by rintro _ ⟨⟩)).bind fun _ => issues_pure value
  | error error =>
      exact (issues_query (by rintro _ ⟨⟩)).attempt.bind fun _ => issues_throw error

theorem issues_recordAudit (context : RequestContext) (action : AuditAction) (customerId : Uuid)
    (success : Bool) (reasonCode : Option String) :
    Issues (Announces request) (recordAudit context action customerId success reasonCode) :=
  issues_query (by rintro _ ⟨⟩)

theorem issues_revokeAllLive (customerId : Uuid) :
    Issues (Announces request) (revokeAllLive customerId) := by
  refine (issues_request (by rintro _ ⟨⟩)).bind fun revokedAt =>
    (issues_query (by rintro _ ⟨⟩)).bind fun ids => ?_
  induction ids with
  | nil => exact issues_pure ()
  | cons id rest induction => exact (issues_query (by rintro _ ⟨⟩)).bind fun _ => induction

theorem issues_register (dto : RegisterRequestDto) :
    Issues (Announces request) (register request.context dto) := by
  refine (issues_query (by rintro _ ⟨⟩)).bind fun customer => ?_
  cases customer with
  | some customer => exact issues_throw _
  | none =>
      refine (issues_request (by rintro _ ⟨⟩)).bind fun passwordHash => ?_
      refine (Issues.tryCatch (issues_transaction ?_) fun error => ?_).bind fun customer =>
        (issues_recordAudit _ _ _ _ _).bind fun _ => issues_pure _
      · refine (issues_query (by rintro _ ⟨⟩)).bind fun customer => ?_
        refine (issues_query ?_).bind fun _ => issues_pure customer
        rintro _ ⟨⟩
        exact ⟨customer.id, rfl⟩
      · split
        · exact issues_throw _
        · exact issues_throw _

theorem issues_login (config : AuthConfig) (context : RequestContext) (dto : LoginRequestDto) :
    Issues (Announces request) (login config context dto) := by
  refine (issues_query (by rintro _ ⟨⟩)).bind fun found => ?_
  cases found with
  | none => exact issues_throw _
  | some customer =>
      refine (issues_request (by rintro _ ⟨⟩)).bind fun (now : ℕ) => ?_
      split
      · exact issues_throw _
      · split
        · refine (issues_query (by rintro _ ⟨⟩)).bind fun _ => (issues_signAsync _).bind fun _ => ?_
          refine (issues_request (by rintro _ ⟨⟩)).bind fun _ => ?_
          refine (issues_request (by rintro _ ⟨⟩)).bind fun _ => ?_
          refine (issues_transaction ?_).bind fun _ => (issues_recordAudit _ _ _ _ _).bind fun _ =>
            issues_pure _
          exact (issues_revokeAllLive _).bind fun _ =>
            (issues_query (by rintro _ ⟨⟩)).bind fun _ => issues_pure ()
        · refine (issues_query (by rintro _ ⟨⟩)).bind fun counted => ?_
          cases counted with
          | none => exact issues_throw _
          | some counted =>
              exact (issues_recordAudit _ _ _ _ _).bind fun _ => issues_throw _

theorem issues_refresh (config : AuthConfig) (context : RequestContext) (cookie : Option String) :
    Issues (Announces request) (refresh config context cookie) := by
  unfold refresh
  split
  · exact issues_throw _
  · refine (issues_query (by rintro _ ⟨⟩)).bind fun found => ?_
    split
    · refine (issues_request (by rintro _ ⟨⟩)).bind fun _ => ?_
      refine (issues_request (by rintro _ ⟨⟩)).bind fun _ => ?_
      refine (issues_transaction ?_).bind fun _ => (issues_recordAudit _ _ _ _ _).bind fun _ =>
        (issues_signAsync _).bind fun _ => issues_pure _
      refine (issues_query (by rintro _ ⟨⟩)).bind fun created => ?_
      refine (issues_request (by rintro _ ⟨⟩)).bind fun _ => ?_
      refine (issues_request (by rintro _ ⟨⟩)).bind fun _ => ?_
      refine (issues_query (by rintro _ ⟨⟩)).bind fun count => ?_
      split
      · exact issues_throw _
      · exact issues_pure _
    · exact issues_throw _
    · exact issues_throw _

theorem issues_logout (config : AuthConfig) (context : RequestContext) (cookie : Option String) :
    Issues (Announces request) (logout config context cookie) := by
  unfold logout
  split
  · exact issues_pure _
  · refine (issues_query (by rintro _ ⟨⟩)).bind fun found => ?_
    split
    · split
      · exact (issues_request (by rintro _ ⟨⟩)).bind fun _ =>
          (issues_query (by rintro _ ⟨⟩)).bind fun _ =>
            (issues_recordAudit _ _ _ _ _).bind fun _ => issues_pure _
      · exact issues_pure _
    · exact issues_pure _

theorem issues_putMe (userId : Uuid) (dto : UpdateUserMeRequestDto) :
    Issues (Announces request) (putMe userId dto) := by
  refine (issues_query (by rintro _ ⟨⟩)).bind fun found => ?_
  cases found with
  | none => exact issues_throw _
  | some user =>
      refine (Issues.tryCatch (issues_query (by rintro _ ⟨⟩)) fun error => ?_).bind fun _ =>
        issues_pure _
      split
      · exact issues_throw _
      · exact issues_throw _

theorem issues_patchPassword (config : AuthConfig) (context : RequestContext) (userId : Uuid)
    (dto : UpdatePasswordRequestDto) :
    Issues (Announces request) (patchPassword config context userId dto) := by
  refine (issues_query (by rintro _ ⟨⟩)).bind fun found => ?_
  cases found with
  | none => exact issues_throw _
  | some user =>
      dsimp only
      split
      · exact issues_throw _
      · split
        · exact issues_throw _
        · refine (issues_request (by rintro _ ⟨⟩)).bind fun _ => (issues_transaction ?_).bind fun _ =>
            (issues_recordAudit _ _ _ _ _).bind fun _ => issues_pure _
          exact (issues_query (by rintro _ ⟨⟩)).bind fun _ => issues_revokeAllLive userId

theorem issues_map {β : Type} (convert : α → β) (issues : Issues (Announces request) body) :
    Issues (Announces request) (convert <$> body) :=
  issues.bind fun value => issues_pure (convert value)

theorem issues_handle (config : AuthConfig) (request : Request) :
    Issues (Announces request) (handle config request) := by
  rcases request with ⟨context, operation⟩
  cases operation with
  | register dto => exact issues_map _ (issues_register dto)
  | login dto => exact issues_map _ (issues_login config context dto)
  | refresh cookie => exact issues_map _ (issues_refresh config context cookie)
  | logout cookie => exact issues_map _ (issues_logout config context cookie)
  | putMe userId dto => exact issues_map _ (issues_putMe userId dto)
  | patchPassword userId dto => exact issues_map _ (issues_patchPassword config context userId dto)

end Issues

/-! ## The events of a run -/

theorem Statement.mem_pending {statement : Statement} {open_ : Option (List UserRegisteredEvent)}
    {event : UserRegisteredEvent}
    (member : (∃ events ∈ statement.pending open_, event ∈ events) ∨
      event ∈ statement.committed open_) :
    (∃ events ∈ open_, event ∈ events) ∨ statement = .eventCreate event := by
  have earlier {events : List UserRegisteredEvent} (opened : open_ = some events)
      (found : event ∈ events) : (∃ events ∈ open_, event ∈ events) ∨
        statement = .eventCreate event := .inl ⟨events, opened, found⟩
  have kept (same : statement.pending open_ = open_) (nothing : statement.committed open_ = []) :
      (∃ events ∈ open_, event ∈ events) ∨ statement = .eventCreate event := by
    rw [same, nothing] at member
    exact .inl (member.resolve_right (List.not_mem_nil))
  cases statement with
  | begin =>
      rcases member with ⟨_, ⟨⟩, found⟩ | found
      · cases open_ with
        | none => cases found
        | some events => exact earlier rfl found
      · cases found
  | commit =>
      rcases member with ⟨_, ⟨⟩, _⟩ | found
      cases open_ with
      | none => cases found
      | some events => exact earlier rfl found
  | rollback => exact member.elim (by rintro ⟨_, ⟨⟩, _⟩) (by rintro ⟨⟩)
  | eventCreate created =>
      cases open_ with
      | none =>
          rcases member with ⟨_, ⟨⟩, _⟩ | found
          rw [List.mem_singleton.mp found]
          exact .inr rfl
      | some events =>
          rcases member with ⟨_, ⟨⟩, found⟩ | found
          · rcases List.mem_append.mp found with found | found
            · exact earlier rfl found
            · rw [List.mem_singleton.mp found]
              exact .inr rfl
          · cases found
  | _ => exact kept rfl rfl

section Runs

variable {Thread : Type} [DecidableEq Thread] {config : AuthConfig} {requests : Thread → Request}

def Registered (requests : Thread → Request) (event : UserRegisteredEvent) : Prop :=
  ∃ thread customerId, event = registeredEvent (requests thread).context customerId

structure EventsRegistered (requests : Thread → Request) (server : Server Thread) : Prop where
  committed : ∀ event ∈ server.events, Registered requests event
  pending : ∀ thread, ∀ events ∈ server.pending thread, ∀ event ∈ events,
    Registered requests event

variable {before after : Server Thread} {thread : Thread} {now : ℕ} {newId : Uuid}
  {statement : Statement} {answer : Except DatabaseError statement.Result}

theorem EventsRegistered.executes (registered : EventsRegistered requests before)
    (announces : Announces (requests thread) (.query statement))
    (executes : Executes thread now newId before statement answer after) :
    EventsRegistered requests after := by
  have progress := executes.progress
  have known {event : UserRegisteredEvent}
      (member : (∃ events ∈ statement.pending (before.pending thread), event ∈ events) ∨
        event ∈ statement.committed (before.pending thread)) : Registered requests event := by
    rcases Statement.mem_pending member with ⟨events, opened, found⟩ | created
    · exact registered.pending thread events opened event found
    · exact ⟨thread, announces event (congrArg Command.query created)⟩
  refine ⟨fun event member => ?_, fun other events opened event member => ?_⟩
  · rw [progress.2] at member
    rcases List.mem_append.mp member with earlier | new
    · exact registered.committed event earlier
    · exact known (.inr new)
  · by_cases mine : other = thread
    · subst mine
      rw [progress.1] at opened
      exact known (.inl ⟨events, opened, member⟩)
    · refine registered.pending other events ?_ event member
      rwa [Server.pending, executes.apart.open_ other mine] at opened

theorem EventsRegistered.rollback (registered : EventsRegistered requests before)
    (thread : Thread) : EventsRegistered requests (before.rollback thread) := by
  refine ⟨registered.committed, fun other events opened => ?_⟩
  by_cases mine : other = thread
  · subst mine
    simp [Server.pending, Server.rollback] at opened
  · refine registered.pending other events ?_
    simpa [Server.pending, Server.rollback, mine] using opened

theorem EventsRegistered.performs (registered : EventsRegistered requests before)
    (announces : Announces (requests thread) (.query statement))
    (performs : Performs thread now newId before statement answer after) :
    EventsRegistered requests after := by
  cases performs with
  | answered executes => exact registered.executes announces executes
  | failed error thrown fails =>
      cases fails with
      | kept same => exact same ▸ registered
      | ended ends result => exact result ▸ registered.rollback thread
      | executed answer executes => exact registered.executes announces executes

theorem EventsRegistered.perform {world later : World Thread} {command : Command} {choice : Choice}
    {reply : command.Answer} (registered : EventsRegistered requests world.server)
    (announces : Announces (requests thread) command)
    (performed : world.perform config thread command choice = some (reply, later)) :
    EventsRegistered requests later.server := by
  unfold World.perform at performed
  split at performed
  · cases performed
  · cases command with
    | query statement =>
        rcases Option.map_eq_some_iff.mp performed with ⟨⟨result, server⟩, done, equal⟩
        cases equal
        exact registered.performs announces (perform_performs done)
    | date =>
        cases performed
        exact registered
    | bcryptHash password =>
        cases performed
        exact registered
    | randomBytes =>
        cases performed
        exact registered
    | signAsync sub =>
        cases performed
        exact registered

theorem EventsRegistered.environment {world later : World Thread} {event : Occurrence Thread}
    (registered : EventsRegistered requests world.server)
    (happened : World.environment event world = some later) :
    EventsRegistered requests later.server := by
  cases event with
  | tick now =>
      rcases Option.ite_none_right_eq_some.mp happened with ⟨_, same⟩
      cases same
      exact registered
  | crash crashed =>
      cases happened
      exact registered.rollback crashed

variable {allowed : Configuration Thread → Label Thread → Prop} {current : Configuration Thread}

theorem Reachable.eventsRegistered (reachable : Reachable config requests allowed current) :
    EventsRegistered requests current.shared.server := by
  rcases reachable with ⟨now, run⟩
  have both : (∀ thread, (current.program thread).Only (Announces (requests thread))) ∧
      EventsRegistered requests current.shared.server := by
    induction run with
    | start =>
        exact ⟨fun thread => issues_handle config (requests thread),
          ⟨by rintro _ ⟨⟩, by rintro _ _ ⟨⟩⟩⟩
    | next label run allows taken induction =>
        refine ⟨Machine.only_step taken induction.1, ?_⟩
        cases label with
        | environment event =>
            rcases Machine.step_environment taken with ⟨shared, happened, rfl⟩
            exact induction.2.environment happened
        | perform thread choice =>
            rcases Machine.step_perform taken with
              ⟨command, next, answer, shared, program, performed, rfl⟩
            have issues := induction.1 thread
            rw [program] at issues
            exact induction.2.perform issues.1 performed
  exact both.2

/-- A registration that has succeeded has committed its event. -/
theorem Reachable.registered_written {thread : Thread} {dto : RegisterRequestDto}
    {response : Response} (reachable : Reachable config requests allowed current)
    (registers : (requests thread).operation = .register dto)
    (ended : current.program thread = .done (.ok response)) :
    ∃ customerId, registeredEvent (requests thread).context customerId ∈
      current.shared.server.events := by
  have critical : (requests thread).operation.critical = true := by
    rw [registers]
    rfl
  have harmless (between : Configuration Thread) (label : Label Thread) :
      HarmlessFailure config (fun _ => True) thread between label :=
    fun _ _ _ _ _ _ _ _ _ _ _ _ => True.intro
  rcases reachable.stops critical (fun between label _ => harmless between label) ended with
    ⟨track, tells, wrote⟩
  rcases wrote dto registers with ⟨customerId, written⟩
  exact ⟨customerId, tells.written _ written⟩

end Runs

end BankingBackend.Auth
