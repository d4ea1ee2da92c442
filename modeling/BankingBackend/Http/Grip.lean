import BankingBackend.Calls.Conflicts
import BankingBackend.Http.Site

/-! # What a request holds

The key it has set in flight, the lock it has taken and the token it has drawn, as its
commands are answered. A request that has ended holds nothing.
-/

namespace BankingBackend.Http

open Foundation Postgres Redis Common Fraud Transactions Transactions.Controller

/-- `carried` is the key it will mark done or delete, which it has set or has found done. -/
structure Grip where
  key : Option IdempotencyKey
  carried : Option IdempotencyKey
  lock : Option TransferUserLock
  token : Option Uuid

namespace Grip

def empty : Grip := ⟨none, none, none, none⟩

def after (grip : Grip) : (op : gatewayInterface.Op) → gatewayInterface.Answer op → Grip
  | .inr (.setNX key), some true => { grip with key := some key, carried := some key }
  | .inr (.get key), some (some .done) => { grip with carried := some key }
  | .inr (.del _), _ | .inr (.setDone _), some () => { grip with key := none, carried := none }
  | .inr .randomUUID, token => { grip with token := some token }
  | .inr (.lockNX userId token), some true => { grip with lock := some ⟨userId, token⟩ }
  | .inr (.unlock _ _), _ => { grip with lock := none }
  | _, _ => grip

/-- A request gives back only what it holds. -/
def Permits (grip : Grip) : gatewayInterface.Op → Prop
  | .inr (.setNX _) => grip.key = none
  | .inr (.del key) | .inr (.setDone key) =>
      grip.carried = some key ∧ (grip.key = none ∨ grip.key = some key)
  | .inr (.lockNX _ token) => grip.token = some token ∧ grip.lock = none
  | .inr (.unlock userId token) => grip.token = some token ∧ grip.lock = some ⟨userId, token⟩
  | _ => True

end Grip

def Incoming.Rejected : Incoming → Prop
  | .posts submission => validate submission = none
  | .calls _ _ => False

/-- The guard loses nothing it takes with the command, and takes nothing for a body that will be
rejected. Redis executes what gives back. -/
def Retains (incoming : Incoming) {Thread : Type} (store : KeyStore Thread) (choice : Choice) :
    KeyCommand → Prop
  | .setNX key => store.idempotency key = none →
      choice.redis ≠ .lost ∧
        (choice.redis = .answered → incoming.Rejected → key.operation = .transfer)
  | .lockNX userId _ => choice.redis = .answered ∧
      (incoming.Rejected → (store.userLock userId).isSome)
  | .del _ | .unlock _ _ => choice.redis ≠ .refused
  | _ => True

/-- The answers there are to a request that is `focused`, whose commands retain what it takes. -/
def Answerable (incoming : Incoming) (focused : Prop) :
    (op : gatewayInterface.Op) → gatewayInterface.Answer op → Prop
  | .inl command, answer => focused → Command.FindsDecided command answer
  | .inr (.setNX key), some true => focused → incoming.Rejected → key.operation = .transfer
  | .inr (.lockNX _ _), none => ¬focused
  | .inr (.lockNX _ _), some true => focused → ¬incoming.Rejected
  | .inr _, _ => True

def gripMonitor (incoming : Incoming) (focused : Prop) : Monitor gatewayInterface Grip where
  permits := Grip.Permits
  moves grip op answer following :=
    following = grip.after op answer ∧ Answerable incoming focused op answer

/-! ## What a request does with it -/

def Grip.Released (grip : Grip) : Prop := grip.key = none ∧ grip.lock = none

/-- What the guard leaves on the request is what it holds. -/
structure Passes (incoming : Incoming) (focused : Prop) (submission : Submission)
    (req : IdempotencyRequest) (grip : Grip) : Prop where
  key : ∀ key, req.idempotencyKey = some key →
    grip.carried = some key ∧ (grip.key = none ∨ grip.key = some key)
  lock : grip.lock = req.transferUserLock
  token : ∀ lock, req.transferUserLock = some lock → grip.token = some lock.token
  transfer : ∀ lock, req.transferUserLock = some lock → extractOperation submission = .ok .transfer
  kept : focused → grip.key = none ∨ grip.key = req.idempotencyKey
  rejected : focused → incoming.Rejected → grip.Released

def Guarded (incoming : Incoming) (focused : Prop) (submission : Submission)
    (result : Except ServiceError IdempotencyRequest) (grip : Grip) : Prop :=
  (∀ req, result = .ok req → Passes incoming focused submission req grip) ∧
    ∀ error, result = .error error → focused → grip.Released

section Handlers

variable {incoming : Incoming} {focused : Prop} {submission : Submission} {grip : Grip}
  {α β : Type} {post : Except ServiceError β → Grip → Prop}

theorem grip_issue {command : KeyCommand} {next : command.Answer → Handler β}
    (permits : grip.Permits (.inr command))
    (continues : ∀ answer, Answerable incoming focused (.inr command) answer →
      (gripMonitor incoming focused).Obeys post (next answer) (grip.after (.inr command) answer)) :
    (gripMonitor incoming focused).Obeys post (issue command >>= next) grip := by
  refine ⟨permits, ?_⟩
  rintro answer _ ⟨rfl, answerable⟩
  exact continues answer answerable

theorem guarded_error {error : ServiceError} (released : focused → grip.Released) :
    Guarded incoming focused submission (.error error) grip :=
  ⟨by rintro _ ⟨⟩, fun _ _ => released⟩

theorem guarded_nothing (unlocked : grip.lock = none) (released : focused → grip.Released) :
    Guarded incoming focused submission (.ok {}) grip := by
  refine ⟨?_, by rintro _ ⟨⟩⟩
  rintro _ ⟨⟩
  exact ⟨by rintro key ⟨⟩, unlocked, by rintro lock ⟨⟩, by rintro lock ⟨⟩,
    fun known => .inl (released known).1, fun known _ => released known⟩

theorem grip_acquireTransferUserLock {key : IdempotencyKey}
    (inferred : extractOperation submission = .ok .transfer) (held : grip.key = some key)
    (carried : grip.carried = some key) (unlocked : grip.lock = none) :
    (gripMonitor incoming focused).Obeys (Guarded incoming focused submission)
      (acquireTransferUserLock key) grip := by
  refine grip_issue trivial fun (token : Uuid) _ => ?_
  refine grip_issue ⟨rfl, unlocked⟩ fun (acquired : Option Bool) answerable => ?_
  rcases acquired with _ | _ | _
  · exact guarded_nothing unlocked fun known => absurd known answerable
  · refine grip_issue ⟨carried, .inr held⟩ fun (deleted : Option Unit) _ => ?_
    cases deleted with
    | none => exact guarded_nothing unlocked fun _ => ⟨rfl, unlocked⟩
    | some _ => exact guarded_error fun _ => ⟨rfl, unlocked⟩
  · refine ⟨?_, by rintro _ ⟨⟩⟩
    rintro _ ⟨⟩
    refine ⟨?_, rfl, ?_, fun _ _ => inferred, fun _ => .inr held,
      fun known rejected => absurd rejected (answerable known)⟩
    · rintro _ ⟨⟩
      exact ⟨carried, .inr held⟩
    · rintro _ ⟨⟩
      rfl

theorem grip_resolveKeyState {key : IdempotencyKey} (released : grip.Released) :
    (gripMonitor incoming focused).Obeys (Guarded incoming focused submission)
      (resolveKeyState key) grip := by
  refine grip_issue trivial fun (state : Option (Option KeyState)) _ => ?_
  rcases state with _ | _ | _ | _
  · exact guarded_nothing released.2 fun _ => released
  · exact guarded_error fun _ => released
  · exact guarded_error fun _ => released
  · refine ⟨?_, by rintro _ ⟨⟩⟩
    rintro _ ⟨⟩
    refine ⟨?_, released.2, by rintro lock ⟨⟩, by rintro lock ⟨⟩, fun _ => .inl released.1,
      fun _ _ => released⟩
    rintro _ ⟨⟩
    exact ⟨rfl, .inl released.1⟩

theorem grip_canActivate :
    (gripMonitor incoming focused).Obeys (Guarded incoming focused submission)
      (canActivate submission) .empty := by
  have released : Grip.empty.Released := ⟨rfl, rfl⟩
  rw [canActivate_eq]
  refine grip_issue trivial fun (ready : Bool) _ => ?_
  cases ready with
  | false => exact guarded_nothing rfl fun _ => released
  | true =>
      simp only [Bool.not_true, Bool.false_eq_true, if_false]
      cases made : guardKey submission with
      | error exception => exact guarded_error fun _ => released
      | ok key =>
          rcases extracts_of_guardKey made with ⟨_, _, inferred⟩
          refine grip_issue rfl fun (acquired : Option Bool) answerable => ?_
          rcases acquired with _ | _ | _
          · exact guarded_nothing rfl fun _ => released
          · exact grip_resolveKeyState released
          · change (gripMonitor incoming focused).Obeys _ (if key.operation = .transfer then
              acquireTransferUserLock _ else pure { idempotencyKey := some _ }) _
            split
            · rename_i transfer
              exact grip_acquireTransferUserLock (transfer ▸ inferred) rfl rfl rfl
            · rename_i other
              refine ⟨?_, by rintro _ ⟨⟩⟩
              rintro _ ⟨⟩
              refine ⟨?_, rfl, by rintro lock ⟨⟩, by rintro lock ⟨⟩, fun _ => .inr rfl,
                fun known rejected => absurd (answerable known rejected) other⟩
              rintro _ ⟨⟩
              exact ⟨rfl, .inr rfl⟩

/-! ### After the guard -/

theorem grip_anyService (service : Service α) :
    (gripMonitor incoming focused).Obeys (fun _ final => final = grip) (serve service) grip := by
  have follows : ∀ program : Program Common.interface (Except ServiceError α),
      (gripMonitor incoming focused).Follows (fun _ final => final = grip) program.lift grip := by
    intro program
    induction program with
    | done value => rfl
    | call op next induction =>
        refine ⟨trivial, ?_⟩
        rintro answer _ ⟨rfl, _⟩
        exact induction answer
  exact follows service.run

theorem grip_serve {service : Service α} (clears : Clears service) :
    (gripMonitor incoming focused).Obeys
      (fun result final => (focused → Unconflicted result) ∧ final = grip) (serve service) grip := by
  by_cases known : focused
  · have lifted : (gripMonitor incoming focused).Follows
        (fun result final => ∃ _ : Unit, final = grip ∧ Unconflicted result) service.run.lift
          grip := by
      refine Monitor.Follows.lift clears rfl (fun _ _ => trivial) ?_
      rintro state track op answer following rfl ⟨rfl, finds⟩
      exact ⟨(), finds known, rfl⟩
    refine Monitor.Follows.mono lifted ?_
    rintro result final ⟨_, same, unconflicted⟩
    exact ⟨fun _ => unconflicted, same⟩
  · exact (grip_anyService service).mono fun _ _ same => ⟨fun focuses => absurd focuses known, same⟩

structure Settled (focused : Prop) (before after : Grip) : Prop where
  lock : after.lock = before.lock
  token : after.token = before.token
  key : focused → after.key = none

theorem grip_markIdempotencyKeyDone {key : Option IdempotencyKey}
    (own : ∀ named, key = some named →
      grip.carried = some named ∧ (grip.key = none ∨ grip.key = some named))
    (kept : focused → grip.key = none ∨ grip.key = key) :
    (gripMonitor incoming focused).Obeys (fun result final => result = .ok () ∧
      Settled focused grip final) (markIdempotencyKeyDone key) grip := by
  cases key with
  | none => exact ⟨rfl, rfl, rfl, fun known => (kept known).elim id id⟩
  | some key =>
      refine grip_issue (own key rfl) fun (marked : Option Unit) _ => ?_
      cases marked with
      | some _ => exact ⟨rfl, rfl, rfl, fun _ => rfl⟩
      | none => exact grip_issue (own key rfl) fun _ _ => ⟨rfl, rfl, rfl, fun _ => rfl⟩

theorem grip_tryDeleteIdempotencyKey {key : Option IdempotencyKey} {err : ServiceError}
    (unconflicted : focused → isConflictException err = false)
    (own : ∀ named, key = some named →
      grip.carried = some named ∧ (grip.key = none ∨ grip.key = some named))
    (kept : focused → grip.key = none ∨ grip.key = key) :
    (gripMonitor incoming focused).Obeys (fun result final => result = .ok () ∧
      Settled focused grip final) (tryDeleteIdempotencyKey key err) grip := by
  cases key with
  | none => exact ⟨rfl, rfl, rfl, fun known => (kept known).elim id id⟩
  | some key =>
      unfold tryDeleteIdempotencyKey
      simp only
      split
      · rename_i conflict
        refine ⟨rfl, rfl, rfl, fun known => ?_⟩
        rw [unconflicted known] at conflict
        cases conflict
      · exact grip_issue (own key rfl) fun _ _ => ⟨rfl, rfl, rfl, fun _ => rfl⟩

theorem isConflictException_of_unconflicted {err : ServiceError}
    (unconflicted : Unconflicted (.error err : Except ServiceError α)) :
    isConflictException err = false := by
  unfold Controller.isConflictException
  split
  · rename_i message
    exact absurd rfl (unconflicted message)
  · rfl

theorem grip_settle {key : Option IdempotencyKey} {service : Service Response}
    (clears : Clears service)
    (own : ∀ named, key = some named →
      grip.carried = some named ∧ (grip.key = none ∨ grip.key = some named))
    (kept : focused → grip.key = none ∨ grip.key = key) :
    (gripMonitor incoming focused).Obeys (fun _ final => Settled focused grip final)
      (settle key service) grip := by
  refine Monitor.Obeys.attempt (grip_serve clears) ?_
  rintro outcome _ ⟨unconflicted, rfl⟩
  cases outcome with
  | ok response =>
      refine (grip_markIdempotencyKeyDone own kept).bind (by rintro error final ⟨⟨⟩, _⟩) ?_
      rintro _ final ⟨_, settled⟩
      exact settled
  | error err =>
      have clear (known : focused) : isConflictException err = false :=
        isConflictException_of_unconflicted (unconflicted known)
      refine (grip_tryDeleteIdempotencyKey clear own kept).bind (by rintro error final ⟨⟨⟩, _⟩) ?_
      rintro _ final ⟨_, settled⟩
      exact settled

theorem grip_createTransfer {config : FraudConfig} {req : IdempotencyRequest}
    {dto : CreateTransferRequestDto} (passes : Passes incoming focused submission req grip) :
    (gripMonitor incoming focused).Obeys (fun _ final => focused → final.Released)
      (Controller.createTransfer config submission req dto) grip := by
  have clears : Clears (handle config ⟨submission.userId, submission.context, .createTransfer dto⟩) :=
    clears_handle config rfl
  refine Monitor.Obeys.attempt (grip_settle clears passes.key passes.kept)
    fun outcome between settled => ?_
  have releases : (gripMonitor incoming focused).Obeys (fun result final => result = .ok () ∧
      (focused → final.Released)) (releaseTransferUserLock req.transferUserLock) between := by
    cases held : req.transferUserLock with
    | none =>
        refine ⟨rfl, fun known => ⟨settled.key known, ?_⟩⟩
        rw [settled.lock, passes.lock, held]
    | some lock =>
        have own : between.token = some lock.token := settled.token.trans (passes.token lock held)
        have locked : between.lock = some lock := by rw [settled.lock, passes.lock, held]
        exact grip_issue ⟨own, locked⟩ fun _ _ => ⟨rfl, fun known => ⟨settled.key known, rfl⟩⟩
  refine releases.bind (by rintro error final ⟨⟨⟩, _⟩) ?_
  rintro _ final ⟨_, released⟩
  cases outcome with
  | ok response => exact released
  | error err => exact released

/-- A request that has ended holds nothing. -/
theorem grip_postTransaction (config : FraudConfig) :
    (gripMonitor (.posts submission) focused).Obeys (fun _ final => focused → final.Released)
      (postTransaction config submission) .empty := by
  refine grip_canActivate.bind (fun error final guarded => guarded.2 error rfl) ?_
  intro req grip guarded
  have passes := guarded.1 req rfl
  have rejects (invalid : validate submission = none) :
      (gripMonitor (.posts submission) focused).Obeys (fun _ final => focused → final.Released)
        (throw validationError : Handler Response) grip :=
    fun known => passes.rejected known invalid
  have unlocked {operation : Operation} (valid : validate submission = some operation)
      (other : submission.route ≠ .transfer) : grip.lock = none := by
    rw [passes.lock]
    cases held : req.transferUserLock with
    | none => rfl
    | some lock =>
        have inferred := (extractOperation_of_validate valid).symm.trans (passes.transfer lock held)
        exact absurd (Except.ok.inj inferred) other
  cases route : submission.route with
  | deposit =>
      cases body : validateDeposit submission with
      | none => exact rejects (by simp [validate, route, body])
      | some dto =>
          have valid : validate submission = some (.createDeposit dto) := by
            simp [validate, route, body]
          have clears : Clears
              (handle config ⟨submission.userId, submission.context, .createDeposit dto⟩) :=
            clears_handle config rfl
          refine (grip_settle clears passes.key passes.kept).mono
            fun _ final settled known => ⟨settled.key known, ?_⟩
          rw [settled.lock]
          exact unlocked valid (by rw [route]; decide)
  | withdraw =>
      cases body : validateWithdraw submission with
      | none => exact rejects (by simp [validate, route, body])
      | some dto =>
          have valid : validate submission = some (.createWithdraw dto) := by
            simp [validate, route, body]
          have clears : Clears
              (handle config ⟨submission.userId, submission.context, .createWithdraw dto⟩) :=
            clears_handle config rfl
          refine (grip_settle clears passes.key passes.kept).mono
            fun _ final settled known => ⟨settled.key known, ?_⟩
          rw [settled.lock]
          exact unlocked valid (by rw [route]; decide)
  | transfer =>
      cases body : validateTransfer submission with
      | none => exact rejects (by simp [validate, route, body])
      | some dto => exact grip_createTransfer passes

theorem grip_program (config : FraudConfig) (incoming : Incoming) (focused : Prop) :
    (gripMonitor incoming focused).Obeys (fun _ final => focused → final.Released)
      (incoming.program config) .empty := by
  cases incoming with
  | posts submission => exact grip_postTransaction config
  | calls request plain =>
      refine (grip_anyService _).mono ?_
      rintro result _ rfl _
      exact ⟨rfl, rfl⟩

end Handlers

end BankingBackend.Http
