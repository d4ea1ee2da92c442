import BankingBackend.Http.Grips
import BankingBackend.Properties.Balances

/-! # Keys that are given back

A request that has ended has neither its idempotency key in flight nor its transfer
lock, unless the guard lost what it took to a failing command or the body was rejected
after the guard.
-/

namespace BankingBackend.Http

open Foundation Postgres Redis Common Fraud Transactions Transactions.Controller

section Runs

variable {Thread : Type} [DecidableEq Thread] [Fintype Thread] {config : FraudConfig}
  {incoming : Thread → Incoming} {focused : Thread → Prop} {thread : Thread}
  {current : SiteConfiguration Thread}

/-- Neither a key in flight nor a lock is left of the request. -/
structure Returned (store : KeyStore Thread) (thread : Thread) : Prop where
  key : ∀ key stored, store.idempotency key = some stored → stored.author = thread →
    stored.state ≠ .inFlight
  lock : ∀ userId token, store.userLock userId = some token → store.drawn token ≠ some thread

def Retaining (incoming : Thread → Incoming) (focus : Thread)
    (current : SiteConfiguration Thread) (label : SiteLabel Thread) : Prop :=
  ∀ choice op next, label = .perform focus choice → current.program focus = .call op next →
    ∀ command, op = .inr command → Retains (incoming focus) current.shared.keys choice command

omit [DecidableEq Thread] [Fintype Thread] in
theorem Grips.returned {grip : Grip} {store : KeyStore Thread}
    (grips : Grips focused thread grip store) (known : focused thread) (released : grip.Released) :
    Returned store thread where
  key key stored present author state := by
    have held := grips.key known key stored present state author
    rw [released.1] at held
    cases held
  lock userId token present drawn := by
    have held := grips.lock known userId token present drawn
    rw [released.2] at held
    cases held

/-- A request that retains what it takes has given it back when it has ended. -/
theorem keys_returned (attained : Attained config incoming (Retaining incoming thread) current)
    (ended : (current.program thread).finished = true) :
    Returned current.shared.keys thread := by
  have retains : ∀ between other choice op next,
      Retaining incoming thread between (.perform other choice) →
      between.program other = .call op next →
      Retained incoming (· = thread) other op choice between.shared := by
    rintro between other choice op next allows program command equal rfl
    exact allows choice op next rfl program command equal
  rcases attained.grips retains thread with ⟨grip, grips, follows⟩
  cases program : current.program thread with
  | done result =>
      rw [program] at follows
      exact grips.returned rfl (follows rfl)
  | call op next =>
      rw [program] at ended
      cases ended

omit [DecidableEq Thread] [Fintype Thread] in
/-- With a valid body it is enough that Redis answers. -/
theorem retaining_of_answers {label : SiteLabel Thread} (valid : ¬(incoming thread).Rejected)
    (answers : RedisAnswers label) : Retaining incoming thread current label := by
  rintro choice op next rfl _ command rfl
  have answered : choice.redis = .answered := answers.2
  cases command with
  | setNX key =>
      exact fun _ => ⟨by rw [answered]; decide, fun _ rejected => absurd rejected valid⟩
  | lockNX userId token => exact ⟨answered, fun rejected => absurd rejected valid⟩
  | del key => simp [Retains, answered]
  | unlock userId token => simp [Retains, answered]
  | _ => trivial

end Runs

/-! ## A deposit into an account that does not exist -/

def depositSubmission (amount : ℚ) : Submission where
  route := .deposit
  userId := ⟨1⟩
  body := some (.object [("amount", .number (.finite amount)),
    ("referenceId", .string "deposit"), ("toAccountId", .string sampleText)])

def depositIncoming (amount : ℚ) (_ : Fin 3) : Incoming := .posts (depositSubmission amount)

def depositKey : IdempotencyKey := ⟨⟨1⟩, .deposit, "deposit"⟩

private theorem missing_leads : siteLeadsTo {} (depositIncoming 5) answering
    (List.replicate 7 (actSite 0))
    (fun current => (current.program 0).finished) = true := by
  decide +kernel

theorem keys_returned_missing : ∃ current,
    Attained {} (depositIncoming 5) (Retaining (depositIncoming 5) 0) current ∧
      (current.program 0).finished = true ∧ Returned current.shared.keys 0 := by
  have valid : ¬(depositIncoming 5 0).Rejected := by
    change validate (depositSubmission 5) ≠ none
    exact Option.isSome_iff_ne_none.mp (by decide +kernel)
  rcases exists_attained (fun _ _ passed => retaining_of_answers valid (of_decide_eq_true passed))
    missing_leads with ⟨current, attained, ended⟩
  exact ⟨current, attained, ended, keys_returned attained ended⟩

private theorem unpaid_leads : siteLeadsTo {} (depositIncoming 0) answering
    (List.replicate 2 (actSite 0))
    (fun current => (current.program 0).finished &&
      (current.shared.keys.idempotency depositKey).any fun stored =>
        stored.state == .inFlight && stored.author == 0) = true := by
  decide +kernel

/-- The amount is refused after the guard has set the key. -/
theorem unpaid_kept : ∃ current,
    Attained {} (depositIncoming 0) (fun _ => RedisAnswers) current ∧
      (current.program 0).finished = true ∧ ¬Returned current.shared.keys 0 := by
  rcases exists_attained (fun _ _ passed => of_decide_eq_true passed) unpaid_leads with
    ⟨current, attained, passed⟩
  simp only [Bool.and_eq_true, Option.any_eq_true, beq_iff_eq] at passed
  rcases passed with ⟨ended, stored, present, inFlight, author⟩
  exact ⟨current, attained, ended, fun returned =>
    returned.key depositKey stored present author inFlight⟩

end BankingBackend.Http
