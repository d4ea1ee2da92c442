import BankingBackend.Calls.Interleaving
import BankingBackend.Transactions.Controller

/-! # Requests over HTTP

Any number of requests: posted transactions, which pass the idempotency guard, and
calls for accounts, which do not. The service calls they make are an interleaving of
the calls of the system.
-/

namespace BankingBackend.Http

open Foundation Foundation.Program Postgres Redis Common Fraud Transactions Transactions.Controller

inductive Incoming
  | posts (submission : Submission)
  | calls (request : Request) (plain : request.params? = none)

namespace Incoming

def request : Incoming → Request
  | .posts submission =>
      ⟨submission.userId, submission.context, (validate submission).getD .getAccounts⟩
  | .calls request _ => request

def program (config : FraudConfig) : Incoming → Handler Response
  | .posts submission => postTransaction config submission
  | .calls request _ => serve (handle config request)

end Incoming

abbrev SiteConfiguration (Thread : Type) :=
  Foundation.Configuration gatewayInterface Thread (Host Thread) CallResult

abbrev SiteLabel (Thread : Type) := Action Thread Choice HostEvent

section Runs

variable {Thread : Type} [DecidableEq Thread] [Fintype Thread]

def siteStep (current : SiteConfiguration Thread) (label : SiteLabel Thread) :
    Option (SiteConfiguration Thread) :=
  (gateway Thread).step current label

def siteInitial (config : FraudConfig) (incoming : Thread → Incoming) (redis : Store) (now : ℕ) :
    SiteConfiguration Thread where
  shared := ⟨{ server := .initial, redis, now }, .empty, fun _ => false⟩
  program thread := ((incoming thread).program config).run
  begun _ := false

def Attained (config : FraudConfig) (incoming : Thread → Incoming)
    (allowed : SiteConfiguration Thread → SiteLabel Thread → Prop)
    (current : SiteConfiguration Thread) : Prop :=
  ∃ redis now, Run siteStep allowed (siteInitial config incoming redis now) current

variable {config : FraudConfig} {incoming : Thread → Incoming}
  {allowed : SiteConfiguration Thread → SiteLabel Thread → Prop}
  {current following : SiteConfiguration Thread} {label : SiteLabel Thread}

theorem Attained.next (attained : Attained config incoming allowed current)
    (allows : allowed current label) (taken : siteStep current label = some following) :
    Attained config incoming allowed following := by
  rcases attained with ⟨redis, now, run⟩
  exact ⟨redis, now, .next label run allows taken⟩

theorem Attained.invariant (attained : Attained config incoming allowed current)
    (holds : SiteConfiguration Thread → Prop)
    (initially : ∀ redis now, holds (siteInitial config incoming redis now))
    (keeps : ∀ between label next, Attained config incoming allowed between → holds between →
      allowed between label → siteStep between label = some next → holds next) :
    holds current := by
  rcases attained with ⟨redis, now, run⟩
  have everywhere : Attained config incoming allowed current ∧ holds current := by
    refine run.invariant (fun between => Attained config incoming allowed between ∧ holds between)
      ⟨⟨redis, now, .start⟩, initially redis now⟩ ?_
    rintro between label next ⟨attained, held⟩ allows taken
    exact ⟨attained.next allows taken, keeps between label next attained held allows taken⟩
  exact everywhere.2

/-- Redis answers, and no key of the controller expires. -/
def RedisAnswers : SiteLabel Thread → Prop
  | .perform _ choice => choice.ready = true ∧ choice.redis = .answered
  | .environment (.expire _) => False
  | .environment (.world _) => True

instance : DecidablePred (@RedisAnswers Thread)
  | .perform _ choice => inferInstanceAs (Decidable (choice.ready = true ∧ _))
  | .environment (.expire _) => inferInstanceAs (Decidable False)
  | .environment (.world _) => inferInstanceAs (Decidable True)

/-- A step in which nothing fails. -/
def actSite (thread : Thread) (newId : BitVec 128 := 0) : SiteLabel Thread :=
  .perform thread { newId := ⟨newId⟩ }

def siteLeadsTo (config : FraudConfig) (incoming : Thread → Incoming)
    (check : SiteConfiguration Thread → SiteLabel Thread → Bool)
    (labels : List (SiteLabel Thread)) (test : SiteConfiguration Thread → Bool) : Bool :=
  (execute siteStep check (siteInitial config incoming .empty 0) labels).any test

theorem exists_attained {check : SiteConfiguration Thread → SiteLabel Thread → Bool}
    {labels : List (SiteLabel Thread)} {test : SiteConfiguration Thread → Bool}
    (sound : ∀ between label, check between label = true → allowed between label)
    (leads : siteLeadsTo config incoming check labels test = true) :
    ∃ current, Attained config incoming allowed current ∧ test current = true := by
  rcases exists_run_of_execute siteStep check allowed sound leads with ⟨current, run, passed⟩
  exact ⟨current, ⟨.empty, 0, run⟩, passed⟩

def answering (_ : SiteConfiguration Thread) (label : SiteLabel Thread) : Bool :=
  decide (RedisAnswers label)

end Runs

/-! ## The service calls of the requests -/

structure Keyed (submission : Submission) (key : IdempotencyKey) : Prop where
  userId : key.userId = submission.userId
  referenceId : extractReferenceId submission = .ok key.referenceId
  operation : extractOperation submission = .ok key.operation

/-- The key of the request is marked done, and only after its call has returned. -/
def Marks (incoming : Incoming) (part : Program Common.interface CallResult) : KeyCommand → Prop
  | .setDone key => ∃ submission operation, incoming = .posts submission ∧
      validate submission = some operation ∧ Keyed submission key ∧
      ∃ response, part = .done (.ok response)
  | _ => True

/-- The handler makes the part of the service call that is left. -/
def Makes {α : Type} (incoming : Incoming) (part : Program Common.interface CallResult)
    (handler : Handler α)
    (post : Except ServiceError α → Program Common.interface CallResult → Prop) : Prop :=
  handler.run.Embeds (Marks incoming) post part

section Handlers

variable {config : FraudConfig} {incoming : Incoming} {submission : Submission}
  {part : Program Common.interface CallResult} {α β : Type} {handler : Handler α}
  {post : Except ServiceError α → Program Common.interface CallResult → Prop}

theorem Makes.bind {next : α → Handler β}
    {further : Except ServiceError β → Program Common.interface CallResult → Prop}
    (first : Makes incoming part handler post)
    (fails : ∀ error rest, post (.error error) rest → further (.error error) rest)
    (continues : ∀ value rest, post (.ok value) rest → Makes incoming rest (next value) further) :
    Makes incoming part (handler >>= next) further := by
  unfold Makes
  rw [ExceptT.run_bind]
  refine Embeds.bind first fun result rest holds => ?_
  cases result with
  | ok value => exact continues value rest holds
  | error error => exact fails error rest holds

theorem makes_issue {command : KeyCommand} {next : command.Answer → Handler β}
    {further : Except ServiceError β → Program Common.interface CallResult → Prop}
    (marks : Marks incoming part command)
    (continues : ∀ answer, Makes incoming part (next answer) further) :
    Makes incoming part (issue command >>= next) further :=
  ⟨marks, continues⟩

theorem makes_pure {value : α} (holds : post (.ok value) part) :
    Makes incoming part (pure value : Handler α) post := holds

theorem makes_throw {error : ServiceError} (holds : post (.error error) part) :
    Makes incoming part (throw error : Handler α) post := holds

def Leaves (submission : Submission) (part : Program Common.interface CallResult)
    (result : Except ServiceError IdempotencyRequest)
    (rest : Program Common.interface CallResult) : Prop :=
  rest = part ∧ ∀ req, result = .ok req → ∀ key, req.idempotencyKey = some key →
    Keyed submission key

theorem leaves_error (error : ServiceError) : Leaves submission part (.error error) part :=
  ⟨rfl, by rintro _ ⟨⟩⟩

theorem leaves_nothing : Leaves submission part (.ok {}) part :=
  ⟨rfl, by rintro _ ⟨⟩ key ⟨⟩⟩

theorem makes_acquireTransferUserLock {key : IdempotencyKey} (keyed : Keyed submission key) :
    Makes incoming part (acquireTransferUserLock key) (Leaves submission part) := by
  refine makes_issue trivial fun (token : Uuid) => ?_
  refine makes_issue trivial fun (acquired : Option Bool) => ?_
  rcases acquired with _ | _ | _
  · exact leaves_nothing
  · refine makes_issue trivial fun (deleted : Option Unit) => ?_
    cases deleted with
    | none => exact leaves_nothing
    | some _ => exact leaves_error _
  · refine ⟨rfl, ?_⟩
    rintro _ ⟨⟩ _ ⟨⟩
    exact keyed

theorem makes_resolveKeyState {key : IdempotencyKey} (keyed : Keyed submission key) :
    Makes incoming part (resolveKeyState key) (Leaves submission part) := by
  refine makes_issue trivial fun (state : Option (Option KeyState)) => ?_
  rcases state with _ | _ | _ | _
  · exact leaves_nothing
  · exact leaves_error _
  · exact leaves_error _
  · refine ⟨rfl, ?_⟩
    rintro _ ⟨⟩ _ ⟨⟩
    exact keyed

theorem makes_canActivate :
    Makes incoming part (canActivate submission) (Leaves submission part) := by
  rw [canActivate_eq]
  refine makes_issue trivial fun (ready : Bool) => ?_
  cases ready with
  | false => exact leaves_nothing
  | true =>
      simp only [Bool.not_true, Bool.false_eq_true, if_false]
      cases made : guardKey submission with
      | error exception => exact leaves_error _
      | ok key =>
          rcases extracts_of_guardKey made with ⟨own, reference, inferred⟩
          have keyed : Keyed submission key := ⟨own, reference, inferred⟩
          refine makes_issue trivial fun (acquired : Option Bool) => ?_
          rcases acquired with _ | _ | _
          · exact leaves_nothing
          · exact makes_resolveKeyState keyed
          · change Makes _ _ (if key.operation = .transfer then acquireTransferUserLock _
              else pure { idempotencyKey := some _ }) _
            split
            · exact makes_acquireTransferUserLock keyed
            · refine ⟨rfl, ?_⟩
              rintro _ ⟨⟩ _ ⟨⟩
              exact keyed

theorem makes_markIdempotencyKeyDone {key : Option IdempotencyKey}
    (marks : ∀ named, key = some named → Marks incoming part (.setDone named)) :
    Makes incoming part (markIdempotencyKeyDone key) (fun result rest => result = .ok () ∧
      rest = part) := by
  cases key with
  | none => exact ⟨rfl, rfl⟩
  | some key =>
      refine makes_issue (marks key rfl) fun (marked : Option Unit) => ?_
      cases marked with
      | some _ => exact ⟨rfl, rfl⟩
      | none => exact makes_issue trivial fun _ => ⟨rfl, rfl⟩

theorem makes_tryDeleteIdempotencyKey (key : Option IdempotencyKey) (err : ServiceError) :
    Makes incoming part (tryDeleteIdempotencyKey key err) (fun result rest => result = .ok () ∧
      rest = part) := by
  cases key with
  | none => exact ⟨rfl, rfl⟩
  | some key =>
      unfold tryDeleteIdempotencyKey
      simp only
      split
      · exact ⟨rfl, rfl⟩
      · exact makes_issue trivial fun _ => ⟨rfl, rfl⟩

theorem makes_releaseTransferUserLock (lock : Option TransferUserLock) :
    Makes incoming part (releaseTransferUserLock lock) (fun result rest => result = .ok () ∧
      rest = part) := by
  cases lock with
  | none => exact ⟨rfl, rfl⟩
  | some lock => exact makes_issue trivial fun _ => ⟨rfl, rfl⟩

/-! ### The whole request -/

/-- The call has run to its end with the result of the request, or the request has failed before
it. -/
def Concludes (part : Program Common.interface CallResult) (result : CallResult)
    (rest : Program Common.interface CallResult) : Prop :=
  rest = .done result ∨ rest = part ∧ ∃ error, result = .error error

theorem makes_settle {key : Option IdempotencyKey} {service : Service Response}
    (marks : ∀ named response, key = some named →
      Marks incoming (.done (.ok response)) (.setDone named)) :
    Makes incoming service.run (settle key service) fun result rest => rest = .done result := by
  have serves : Makes incoming service.run (Program.attempt (serve service))
      fun result rest => ∃ outcome, result = .ok outcome ∧ rest = .done outcome :=
    Embeds.bind (embeds_lift service.run) fun outcome rest ended => ⟨outcome, rfl, ended⟩
  refine serves.bind (by rintro error rest ⟨_, ⟨⟩, _⟩) ?_
  rintro outcome rest ⟨_, ⟨⟩, rfl⟩
  cases outcome with
  | ok response =>
      refine (makes_markIdempotencyKeyDone fun named same => marks named response same).bind
        (by rintro error rest ⟨⟨⟩, _⟩) ?_
      rintro _ rest ⟨_, rfl⟩
      exact makes_pure rfl
  | error err =>
      refine (makes_tryDeleteIdempotencyKey key err).bind (by rintro error rest ⟨⟨⟩, _⟩) ?_
      rintro _ rest ⟨_, rfl⟩
      exact makes_throw rfl

theorem makes_createTransfer {request : Submission} {req : IdempotencyRequest}
    {dto : CreateTransferRequestDto}
    (marks : ∀ named response, req.idempotencyKey = some named →
      Marks incoming (.done (.ok response)) (.setDone named)) :
    Makes incoming (handle config ⟨request.userId, request.context, .createTransfer dto⟩).run
      (Controller.createTransfer config request req dto) fun result rest => rest = .done result := by
  have settles : Makes incoming
      (handle config ⟨request.userId, request.context, .createTransfer dto⟩).run
      (settle req.idempotencyKey
        (handle config ⟨request.userId, request.context, .createTransfer dto⟩))
      fun result rest => rest = .done result := makes_settle marks
  have attempts : Makes incoming
      (handle config ⟨request.userId, request.context, .createTransfer dto⟩).run
      (Program.attempt (settle req.idempotencyKey
        (handle config ⟨request.userId, request.context, .createTransfer dto⟩)))
      fun result rest => ∃ outcome, result = .ok outcome ∧ rest = .done outcome :=
    Embeds.bind settles fun outcome rest ended => ⟨outcome, rfl, ended⟩
  refine attempts.bind (by rintro error rest ⟨_, ⟨⟩, _⟩) ?_
  rintro outcome rest ⟨_, ⟨⟩, rfl⟩
  refine (makes_releaseTransferUserLock _).bind (by rintro error rest ⟨⟨⟩, _⟩) ?_
  rintro _ rest ⟨_, rfl⟩
  cases outcome with
  | ok response => exact makes_pure rfl
  | error err => exact makes_throw rfl

theorem request_of_validate {operation : Operation}
    (passes : validate submission = some operation) :
    (Incoming.posts submission).request = ⟨submission.userId, submission.context, operation⟩ := by
  simp [Incoming.request, passes]

theorem makes_program (config : FraudConfig) (incoming : Incoming) :
    Makes incoming (handle config incoming.request).run (incoming.program config)
      (Concludes (handle config incoming.request).run) := by
  cases incoming with
  | calls request plain =>
      exact Embeds.mono (embeds_lift (handle config request).run) fun _ _ ended => .inl ended
  | posts submission =>
      refine makes_canActivate.bind ?_ ?_
      · rintro error rest ⟨rfl, _⟩
        exact .inr ⟨rfl, error, rfl⟩
      · rintro req rest ⟨rfl, keyed⟩
        have marks {operation : Operation} (valid : validate submission = some operation)
            (named : IdempotencyKey) (response : Response)
            (same : req.idempotencyKey = some named) :
            Marks (.posts submission) (.done (.ok response)) (.setDone named) :=
          ⟨submission, operation, rfl, valid, keyed req rfl named same, response, rfl⟩
        have refuses : Makes (.posts submission)
            (handle config (Incoming.posts submission).request).run
            (throw validationError : Handler Response)
            (Concludes (handle config (Incoming.posts submission).request).run) :=
          makes_throw (.inr ⟨rfl, _, rfl⟩)
        cases route : submission.route with
        | deposit =>
            cases valid : validateDeposit submission with
            | none => exact refuses
            | some dto =>
                have passes : validate submission = some (.createDeposit dto) := by
                  simp [validate, route, valid]
                rw [request_of_validate passes]
                exact Embeds.mono (makes_settle (marks passes)) fun _ _ ended => .inl ended
        | withdraw =>
            cases valid : validateWithdraw submission with
            | none => exact refuses
            | some dto =>
                have passes : validate submission = some (.createWithdraw dto) := by
                  simp [validate, route, valid]
                rw [request_of_validate passes]
                exact Embeds.mono (makes_settle (marks passes)) fun _ _ ended => .inl ended
        | transfer =>
            cases valid : validateTransfer submission with
            | none => exact refuses
            | some dto =>
                have passes : validate submission = some (.createTransfer dto) := by
                  simp [validate, route, valid]
                rw [request_of_validate passes]
                exact Embeds.mono (makes_createTransfer (marks passes)) fun _ _ ended => .inl ended

end Handlers

section Runs

variable {Thread : Type} [DecidableEq Thread] [Fintype Thread] {config : FraudConfig}
  {incoming : Thread → Incoming} {current : SiteConfiguration Thread}
  {allowed : SiteConfiguration Thread → SiteLabel Thread → Prop}

/-- Whatever requests attain, their service calls reach. -/
theorem Attained.simulates (attained : Attained config incoming allowed current) :
    ∃ parts, Reachable config (fun thread => (incoming thread).request) parts ∧
      Simulates (fun thread => Marks (incoming thread))
        (fun thread => Concludes (handle config (incoming thread).request).run) Host.world
        current parts := by
  rcases attained with ⟨redis, now, run⟩
  have initially : Simulates (fun thread => Marks (incoming thread))
      (fun thread => Concludes (handle config (incoming thread).request).run) Host.world
      (siteInitial config incoming redis now)
      (initial config (fun thread => (incoming thread).request) redis now) :=
    ⟨rfl, fun thread => makes_program config (incoming thread)⟩
  rcases initially.run gateway_projects run with ⟨parts, simulates, run⟩
  exact ⟨parts, ⟨redis, now, run⟩, simulates⟩

theorem Attained.decided (attained : Attained config incoming allowed current) {row : Transaction}
    (member : row ∈ current.shared.world.server.database.transactions) : Decided row := by
  rcases attained.simulates with ⟨parts, reachable, simulates⟩
  refine reachable.decided ?_
  rwa [simulates.shared]

end Runs

end BankingBackend.Http
