import BankingBackend.Http.Site
import BankingBackend.Properties.Replays

/-! # The turn of a transfer

The lock that a request holds while it evaluates a transfer. A request that its guard
lets through on a key that is done has no lock, and its look-up answers it.
-/

namespace BankingBackend.Http

open Foundation Postgres Redis Common Fraud Transactions Transactions.Controller

/-- The tokens under which a request holds its lock and that it has drawn. `settled` says that its
transaction is committed and `evaluating` that its call has gone on without it. -/
structure Turn where
  lock : Option Uuid := none
  token : Option Uuid := none
  settled : Bool := false
  evaluating : Bool := false

def Incoming.Transfers : Incoming → Prop
  | .posts submission => submission.route = .transfer
  | .calls _ _ => False

namespace Turn

def after (turn : Turn) : (op : gatewayInterface.Op) → gatewayInterface.Answer op → Turn
  | .inl command, answer =>
      { turn with evaluating := turn.evaluating || startsEvaluation command answer }
  | .inr .randomUUID, token => { turn with token := some token }
  | .inr (.lockNX _ token), some true => { turn with lock := some token }
  | .inr (.unlock _ _), _ => { turn with lock := none }
  | .inr (.get _), some (some .done) => { turn with settled := true }
  | _, _ => turn

/-- Whoever evaluates a transfer has the lock. -/
def Covered (turn : Turn) (incoming : Incoming) : Prop :=
  incoming.Transfers → turn.evaluating = true → turn.lock ≠ none

def Uses (turn : Turn) (incoming : Incoming) : KeyCommand → Prop
  | .lockNX userId token =>
      userId = incoming.request.userId ∧ turn.token = some token ∧ turn.lock = none
  | .unlock userId token => userId = incoming.request.userId ∧ turn.lock = some token
  | _ => True

def Permits (turn : Turn) (incoming : Incoming) (op : gatewayInterface.Op) : Prop :=
  turn.Covered incoming ∧ ∀ command, op = .inr command → turn.Uses incoming command

end Turn

/-- Redis has answered, and the look-up of a committed transaction has found it. -/
def Replies (incoming : Incoming) (turn : Turn) :
    (op : gatewayInterface.Op) → gatewayInterface.Answer op → Prop
  | .inl (.query (.transactionFindFirst key)), answer => turn.settled = true →
      incoming.Transfers → ∀ params, incoming.request.params? = some params → key = params.key →
        (∃ error, answer = .error error) ∨
          ∃ row, Decided row ∧ row.key = params.key ∧ answer = .ok (some row)
  | .inr .isReady, ready => ready = true
  | .inr (.setNX _), answer | .inr (.lockNX _ _), answer => answer ≠ none
  | .inr (.get _), answer => answer ≠ none
  | .inr (.del _), answer | .inr (.setDone _), answer | .inr (.unlock _ _), answer => answer ≠ none
  | _, _ => True

def turnMonitor (incoming : Incoming) : Monitor gatewayInterface Turn where
  permits turn op := turn.Permits incoming op
  moves turn op answer following := following = turn.after op answer ∧ Replies incoming turn op answer

/-! ## The guard -/

structure Admitted (submission : Submission) (req : IdempotencyRequest) (turn : Turn) : Prop where
  resting : turn.evaluating = false
  lock : turn.lock = req.transferUserLock.map TransferUserLock.token
  userId : ∀ lock, req.transferUserLock = some lock → lock.userId = submission.userId
  entitled : extractOperation submission = .ok .transfer → turn.lock ≠ none ∨ turn.settled = true

section Handlers

variable {incoming : Incoming} {submission : Submission} {turn : Turn} {α β : Type}
  {post : Except ServiceError β → Turn → Prop}

theorem turn_issue {command : KeyCommand} {next : command.Answer → Handler β}
    (covered : turn.Covered incoming) (uses : turn.Uses incoming command)
    (continues : ∀ answer, Replies incoming turn (.inr command) answer →
      (turnMonitor incoming).Obeys post (next answer) (turn.after (.inr command) answer)) :
    (turnMonitor incoming).Obeys post (issue command >>= next) turn := by
  refine ⟨⟨covered, ?_⟩, ?_⟩
  · rintro _ ⟨⟩
    exact uses
  · rintro answer _ ⟨rfl, replies⟩
    exact continues answer replies

theorem covered_of_resting (resting : turn.evaluating = false) : turn.Covered incoming := by
  intro _ evaluating
  rw [resting] at evaluating
  cases evaluating

theorem covered_of_lock (lock : turn.lock ≠ none) : turn.Covered incoming := fun _ _ => lock

theorem turn_acquireTransferUserLock {key : IdempotencyKey}
    (own : key.userId = submission.userId) (resting : turn.evaluating = false)
    (free : turn.lock = none) :
    (turnMonitor (.posts submission)).Obeys
      (fun result final => ∀ req, result = .ok req → Admitted submission req final)
      (acquireTransferUserLock key) turn := by
  refine turn_issue (covered_of_resting resting) trivial fun (token : Uuid) _ => ?_
  refine turn_issue (covered_of_resting resting) ⟨own, rfl, free⟩
    fun (acquired : Option Bool) replies => ?_
  rcases acquired with _ | _ | _
  · exact absurd rfl replies
  · refine turn_issue (covered_of_resting resting) trivial fun (deleted : Option Unit) replies => ?_
    cases deleted with
    | none => exact absurd rfl replies
    | some _ => rintro req ⟨⟩
  · rintro _ ⟨⟩
    refine ⟨resting, rfl, ?_, fun _ => .inl (Option.some_ne_none _)⟩
    rintro _ ⟨⟩
    exact own

theorem turn_resolveKeyState {key : IdempotencyKey} (resting : turn.evaluating = false)
    (free : turn.lock = none) :
    (turnMonitor (.posts submission)).Obeys
      (fun result final => ∀ req, result = .ok req → Admitted submission req final)
      (resolveKeyState key) turn := by
  refine turn_issue (covered_of_resting resting) trivial
    fun (state : Option (Option KeyState)) replies => ?_
  rcases state with _ | _ | _ | _
  · exact absurd rfl replies
  · rintro req ⟨⟩
  · rintro req ⟨⟩
  · rintro _ ⟨⟩
    exact ⟨resting, free, by rintro lock ⟨⟩, fun _ => .inr rfl⟩

theorem turn_canActivate :
    (turnMonitor (.posts submission)).Obeys
      (fun result final => ∀ req, result = .ok req → Admitted submission req final)
      (canActivate submission) {} := by
  rw [canActivate_eq]
  refine turn_issue (covered_of_resting rfl) trivial fun (ready : Bool) replies => ?_
  rw [show ready = true from replies]
  simp only [Bool.not_true, Bool.false_eq_true, if_false]
  cases made : guardKey submission with
  | error exception => rintro req ⟨⟩
  | ok key =>
      rcases extracts_of_guardKey made with ⟨own, _, inferred⟩
      refine turn_issue (covered_of_resting rfl) trivial
        fun (acquired : Option Bool) replies => ?_
      rcases acquired with _ | _ | _
      · exact absurd rfl replies
      · exact turn_resolveKeyState rfl rfl
      · change (turnMonitor (.posts submission)).Obeys _ (if key.operation = .transfer then
          acquireTransferUserLock _ else pure { idempotencyKey := some _ }) _
        split
        · exact turn_acquireTransferUserLock own rfl rfl
        · rename_i other
          rintro _ ⟨⟩
          refine ⟨rfl, rfl, by rintro lock ⟨⟩, fun transfer => ?_⟩
          exact absurd (Except.ok.inj (inferred.symm.trans transfer)) other

/-! ## The service call -/

/-- With the lock, or for another operation, a call may do what it likes. -/
theorem turn_serve (service : Service α) (held : incoming.Transfers → turn.lock ≠ none) :
    (turnMonitor incoming).Obeys (fun _ final => final.lock = turn.lock) (serve service) turn := by
  have follows : ∀ (program : Program Common.interface (Except ServiceError α)) (between : Turn),
      between.lock = turn.lock →
      (turnMonitor incoming).Follows (fun _ final => final.lock = turn.lock) program.lift
        between := by
    intro program
    induction program with
    | done value => exact fun between same => same
    | call op next induction =>
        intro between same
        refine ⟨⟨fun transfers _ => same ▸ held transfers, by rintro command ⟨⟩⟩, ?_⟩
        rintro answer _ ⟨rfl, _⟩
        exact induction answer _ same
  exact follows service.run turn rfl

/-- The look-up answers a call whose transaction is committed. -/
theorem turn_serveSettled {config : FraudConfig} {params : TransactionParams}
    (transfers : incoming.Transfers) (asks : incoming.request.params? = some params)
    (settled : turn.settled = true) (resting : turn.evaluating = false) :
    (turnMonitor incoming).Obeys
      (fun _ final => final.lock = turn.lock ∧ final.evaluating = false)
      (serve (handle config incoming.request)) turn := by
  rcases handle_lookup config asks with ⟨next, lookup, answers, fails⟩
  unfold serve Monitor.Obeys
  rw [lookup]
  refine ⟨⟨covered_of_resting resting, by rintro command ⟨⟩⟩, ?_⟩
  rintro answer _ ⟨rfl, replies⟩
  rcases replies settled transfers params asks rfl with ⟨error, rfl⟩ | ⟨row, decided, same, rfl⟩
  · change (turnMonitor incoming).Follows _ (next (.error error)).lift _
    rw [fails]
    refine ⟨rfl, ?_⟩
    simp [Turn.after, startsEvaluation, resting]
  · change (turnMonitor incoming).Follows _ (next (.ok (some row))).lift _
    rw [answers row decided same]
    refine ⟨rfl, ?_⟩
    rcases decided with completed | ⟨rejected, reject⟩
    · simp [Turn.after, startsEvaluation, resting, completed]
    · simp [Turn.after, startsEvaluation, resting, isFraudRejection, rejected, reject]

/-! ## The controller -/

theorem turn_markIdempotencyKeyDone (key : Option IdempotencyKey)
    (covered : turn.Covered incoming) :
    (turnMonitor incoming).Obeys (fun result final => result = .ok () ∧ final = turn)
      (markIdempotencyKeyDone key) turn := by
  cases key with
  | none => exact ⟨rfl, rfl⟩
  | some key =>
      refine turn_issue covered trivial fun (marked : Option Unit) replies => ?_
      cases marked with
      | none => exact absurd rfl replies
      | some _ => exact ⟨rfl, rfl⟩

theorem turn_tryDeleteIdempotencyKey (key : Option IdempotencyKey) (err : ServiceError)
    (covered : turn.Covered incoming) :
    (turnMonitor incoming).Obeys (fun result final => result = .ok () ∧ final = turn)
      (tryDeleteIdempotencyKey key err) turn := by
  cases key with
  | none => exact ⟨rfl, rfl⟩
  | some key =>
      unfold tryDeleteIdempotencyKey
      simp only
      split
      · exact ⟨rfl, rfl⟩
      · exact turn_issue covered trivial fun _ _ => ⟨rfl, rfl⟩

/-- What the call leaves is kept while the key is settled. -/
theorem turn_settle {service : Service Response} {holds : Turn → Prop} (key : Option IdempotencyKey)
    (serves : (turnMonitor incoming).Obeys (fun _ final => holds final) (serve service) turn)
    (covered : ∀ final, holds final → final.Covered incoming) :
    (turnMonitor incoming).Obeys (fun _ final => holds final) (settle key service) turn := by
  refine Monitor.Obeys.attempt serves fun outcome between held => ?_
  cases outcome with
  | ok response =>
      refine (turn_markIdempotencyKeyDone key (covered between held)).bind
        (by rintro error final ⟨⟨⟩, _⟩) ?_
      rintro _ final ⟨_, rfl⟩
      exact held
  | error err =>
      refine (turn_tryDeleteIdempotencyKey key err (covered between held)).bind
        (by rintro error final ⟨⟨⟩, _⟩) ?_
      rintro _ final ⟨_, rfl⟩
      exact held

theorem turn_createTransfer {config : FraudConfig} {req : IdempotencyRequest}
    {dto : CreateTransferRequestDto} (admitted : Admitted submission req turn)
    (route : submission.route = .transfer)
    (valid : validate submission = some (.createTransfer dto)) :
    (turnMonitor (.posts submission)).Obeys (fun _ _ => True)
      (Controller.createTransfer config submission req dto) turn := by
  have call : (Incoming.posts submission).request =
      ⟨submission.userId, submission.context, .createTransfer dto⟩ := request_of_validate valid
  have settles : (turnMonitor (.posts submission)).Obeys
      (fun _ final => final.lock = turn.lock ∧ final.Covered (.posts submission))
      (settle req.idempotencyKey
        (handle config ⟨submission.userId, submission.context, .createTransfer dto⟩)) turn := by
    refine turn_settle _ ?_ fun final holds => holds.2
    have entitled := admitted.entitled (by rw [extractOperation_of_validate valid, route])
    rcases entitled with locked | settled
    · refine (turn_serve _ fun _ => locked).mono fun _ final same => ⟨same, ?_⟩
      exact covered_of_lock (same ▸ locked)
    · have transfers : (Incoming.posts submission).Transfers := route
      rw [← call]
      refine (turn_serveSettled transfers (by rw [call]; rfl) settled admitted.resting).mono ?_
      rintro _ final ⟨same, resting⟩
      exact ⟨same, covered_of_resting resting⟩
  refine Monitor.Obeys.attempt settles ?_
  rintro outcome between ⟨same, covered⟩
  have releases : (turnMonitor (.posts submission)).Obeys (fun result _ => result = .ok ())
      (releaseTransferUserLock req.transferUserLock) between := by
    cases held : req.transferUserLock with
    | none => rfl
    | some lock =>
        refine turn_issue covered ⟨admitted.userId lock held, ?_⟩ fun _ _ => rfl
        rw [same, admitted.lock, held]
        rfl
  refine releases.bind (by rintro error final ⟨⟩) fun _ final _ => ?_
  cases outcome with
  | ok response => exact trivial
  | error err => exact trivial

theorem turn_program (config : FraudConfig) (incoming : Incoming) :
    (turnMonitor incoming).Obeys (fun _ _ => True) (incoming.program config) {} := by
  cases incoming with
  | calls request plain =>
      exact (turn_serve _ (by rintro ⟨⟩)).mono fun _ _ _ => trivial
  | posts submission =>
      refine turn_canActivate.bind (fun _ _ _ => trivial) fun req turn admits => ?_
      have admitted := admits req rfl
      have settles {service : Service Response} (other : ¬(Incoming.posts submission).Transfers) :
          (turnMonitor (.posts submission)).Obeys (fun _ _ => True)
            (settle req.idempotencyKey service) turn := by
        refine (turn_settle _ (turn_serve _ fun transfers => absurd transfers other) ?_).mono
          fun _ _ _ => trivial
        exact fun final _ transfers => absurd transfers other
      cases route : submission.route with
      | deposit =>
          cases validateDeposit submission with
          | none => exact trivial
          | some dto => exact settles fun transfers => by cases route.symm.trans transfers
      | withdraw =>
          cases validateWithdraw submission with
          | none => exact trivial
          | some dto => exact settles fun transfers => by cases route.symm.trans transfers
      | transfer =>
          cases body : validateTransfer submission with
          | none => exact trivial
          | some dto =>
              exact turn_createTransfer admitted route (by simp [validate, route, body])

end Handlers

end BankingBackend.Http
