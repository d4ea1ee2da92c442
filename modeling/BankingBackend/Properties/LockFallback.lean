import BankingBackend.Auth.LoginRateLimit
import BankingBackend.Auth.System
import BankingBackend.Foundation.Monitor

/-! # Locks without Redis

Without Redis the guard looks for a lock under the email in lower case. The login looks
for it under the email as it is.
-/

namespace BankingBackend.Auth

open Foundation LoginRateLimit
open Http (HttpRequest)
open Postgres (Uuid DatabaseError)
open Transactions (RequestContext)

/-! ## One email at one time -/

section Server

variable {Thread : Type} [DecidableEq Thread] (server : Server Thread) (thread : Thread) (now : ℕ)

def Server.locks (email : String) : Bool :=
  (server.findCustomer thread (.email email)).any fun customer => isLocked customer (toDate now)

/-- Redis is unavailable: every operation fails, whether or not the client is ready. -/
structure Outage where
  ready : Bool
  message : String → String

/-- What the guard is answered when the database works. -/
def Outage.answers (outage : Outage) :
    (op : LoginRateLimit.interface.Op) → LoginRateLimit.interface.Answer op
  | .date => toDate now
  | .isReady => outage.ready
  | .eval key => .error (outage.message key)
  | .lockUntil email =>
      .ok ((server.findCustomer thread (.email email)).map fun customer => customer.row.lockUntil)

/-- What a login is answered when the database works. -/
structure Sees (answers : (op : Auth.interface.Op) → Auth.interface.Answer op) : Prop where
  date : answers .date = toDate now
  customerFindUnique : ∀ key,
    answers (.query (.customerFindUnique key)) = .ok (server.findCustomer thread key)

/-- The guard refuses a login for a lock exactly when the login itself would. -/
def LockEnforced (toLowerCase : String → String) (email : String) : Prop :=
  ∀ (outage : Outage) settings req config context password answers,
    Sees server thread now answers →
      (Monitor.outcome (outage.answers server thread now)
          (canActivate settings toLowerCase req (some email)) =
        .error (.accountLocked lockedMessage) ↔
      Monitor.outcome answers (login config context { email, password }) =
        .error (.http (.locked lockedMessage)))

/-- Both emails are the same, or both or neither are those of locked customers. No customer is
looked up under a blank email. -/
inductive SpellingsAgree (normalized email : String) : Prop
  | same (equal : normalized = email) (filled : normalized ≠ "")
  | locked (filled : normalized ≠ "") (one : server.locks thread now normalized = true)
      (other : server.locks thread now email = true)
  | unlocked (one : normalized = "" ∨ server.locks thread now normalized = false)
      (other : server.locks thread now email = false)

end Server

/-! ## What the guard and the login find -/

section Outcomes

variable {Thread : Type} [DecidableEq Thread] {server : Server Thread} {thread : Thread} {now : ℕ}

theorem outcome_checkDbAccountLock (outage : Outage) (email : String) :
    Monitor.outcome (outage.answers server thread now) (checkDbAccountLock email) =
      if email ≠ "" ∧ server.locks thread now email = true then
        .error (.accountLocked lockedMessage)
      else .ok true := by
  by_cases blank : email = ""
  · rw [if_neg fun refused => refused.1 blank, checkDbAccountLock, if_pos blank]
    rfl
  · rw [checkDbAccountLock, if_neg blank]
    refine (Monitor.outcome_lift _ _ _).trans ?_
    have answer : outage.answers server thread now (.lockUntil email) = .ok
      ((server.findCustomer thread (.email email)).map fun customer => customer.row.lockUntil) := rfl
    rw [answer, Server.locks]
    cases server.findCustomer thread (.email email) with
    | none => exact (if_neg fun refused => Bool.noConfusion refused.2).symm
    | some customer =>
        rw [Option.map_some, Option.any_some, isLocked]
        cases customer.row.lockUntil with
        | none => exact (if_neg fun refused => Bool.noConfusion refused.2).symm
        | some lockUntil =>
            refine (Monitor.outcome_lift _ _ _).trans ?_
            have date : outage.answers server thread now .date = toDate now := rfl
            rw [date, Option.any_some]
            by_cases locked : (toDate now : ℤ) < lockUntil
            · rw [if_pos locked, if_pos ⟨blank, decide_eq_true locked⟩]
              rfl
            · rw [if_neg locked, if_neg fun refused => locked (of_decide_eq_true refused.2)]
              rfl

theorem outcome_canActivate (outage : Outage) (settings : Settings)
    (toLowerCase : String → String) (req : HttpRequest) (bodyEmail : Option String) :
    Monitor.outcome (outage.answers server thread now)
        (canActivate settings toLowerCase req bodyEmail) =
      Monitor.outcome (outage.answers server thread now)
        (checkDbAccountLock (normalizeEmail toLowerCase bodyEmail)) := by
  rcases outage with ⟨ready, message⟩
  cases ready with
  | false => rfl
  | true =>
      unfold canActivate
      refine (Monitor.outcome_lift _ _ _).trans ?_
      refine (Monitor.outcome_lift _ _ _).trans ?_
      refine (Monitor.outcome_tryCatch _ _ _).trans ?_
      rfl

theorem guard_locked_iff (outage : Outage) (settings : Settings) (toLowerCase : String → String)
    (req : HttpRequest) (bodyEmail : Option String) :
    Monitor.outcome (outage.answers server thread now)
        (canActivate settings toLowerCase req bodyEmail) =
      .error (.accountLocked lockedMessage) ↔
    normalizeEmail toLowerCase bodyEmail ≠ "" ∧
      server.locks thread now (normalizeEmail toLowerCase bodyEmail) = true := by
  rw [outcome_canActivate, outcome_checkDbAccountLock]
  split
  · rename_i refused
    exact iff_of_true rfl refused
  · rename_i free
    exact iff_of_false (by rintro ⟨⟩) free

/-! ### The login past the lock -/

section Login

variable {answers : (op : Auth.interface.Op) → Auth.interface.Answer op} {α β : Type}
  {program : Service α}

/-- It does not end in the refusal of a locked account. -/
def Passes (answers : (op : Auth.interface.Op) → Auth.interface.Answer op) (program : Service α) :
    Prop :=
  Monitor.outcome answers program ≠ .error (.http (.locked lockedMessage))

theorem Passes.bind {next : α → Service β} (first : Passes answers program)
    (rest : ∀ value, Passes answers (next value)) : Passes answers (program >>= next) := by
  unfold Passes at first ⊢
  rw [Monitor.outcome_bind]
  cases ended : Monitor.outcome answers program with
  | ok value => exact rest value
  | error error =>
      rw [ended] at first
      intro same
      cases same
      exact first rfl

theorem passes_pure (value : α) : Passes answers (pure value) := by
  rintro ⟨⟩

theorem outcome_query (statement : Statement) :
    Monitor.outcome answers (query statement) =
      (answers (.query statement)).mapError .database := by
  refine (Monitor.outcome_lift answers _ _).trans ?_
  cases answers (.query statement) with
  | ok result => rfl
  | error error => rfl

theorem passes_query (statement : Statement) : Passes answers (query statement) := by
  rw [Passes, outcome_query]
  cases answers (.query statement) with
  | ok result => rintro ⟨⟩
  | error error => rintro ⟨⟩

theorem passes_request (command : Auth.Command) : Passes answers (Auth.request command) := by
  rintro ⟨⟩

theorem passes_signAsync (sub : Uuid) : Passes answers (signAsync sub) := by
  refine (passes_request (.signAsync sub)).bind fun answer => ?_
  cases answer with
  | ok token => exact passes_pure token
  | error message => rintro ⟨⟩

theorem Passes.transaction (body : Passes answers program) :
    Passes answers (transaction program) := by
  refine (passes_query .begin).bind fun _ => ?_
  rw [Passes, Monitor.outcome_bind, Monitor.outcome_attempt]
  unfold Passes at body
  cases ended : Monitor.outcome answers program with
  | ok value => exact (passes_query .commit).bind fun _ => passes_pure value
  | error error =>
      rw [ended] at body
      show Passes answers (Program.attempt (query .rollback) >>= fun _ => throw error)
      rw [Passes, Monitor.outcome_bind, Monitor.outcome_attempt]
      exact body

theorem passes_revokeEach (revokedAt : ℕ) (ids : List Uuid) :
    Passes answers (revokeEach revokedAt ids) := by
  induction ids with
  | nil => exact passes_pure ()
  | cons id rest induction => exact (passes_query _).bind fun _ => induction

theorem passes_issueToken (customer : Entity Customer) (data : RefreshTokenData) :
    Passes answers (issueToken customer data) := by
  refine Passes.transaction (Passes.bind ?_ fun _ => ?_)
  · exact (passes_request .date).bind fun revokedAt =>
      (passes_query _).bind fun ids => passes_revokeEach revokedAt ids
  · exact (passes_query _).bind fun _ => passes_pure ()

theorem passes_succeedLogin (config : AuthConfig) (context : RequestContext)
    (customer : Entity Customer) (email : String) :
    Passes answers (succeedLogin config context customer email) :=
  (passes_query _).bind fun _ => (passes_signAsync _).bind fun _ =>
    (passes_request _).bind fun _ => (passes_request _).bind fun _ =>
      (passes_issueToken _ _).bind fun _ => (passes_query _).bind fun _ => passes_pure _

theorem passes_failLogin (config : AuthConfig) (context : RequestContext)
    (customer : Entity Customer) : Passes answers (failLogin config context customer) := by
  refine (passes_query _).bind fun failed => ?_
  cases failed with
  | none => rintro ⟨⟩
  | some attempts =>
      refine (passes_query _).bind fun _ => ?_
      rintro ⟨⟩

end Login

theorem login_locked_iff {answers : (op : Auth.interface.Op) → Auth.interface.Answer op}
    (sees : Sees server thread now answers) (config : AuthConfig) (context : RequestContext)
    (dto : LoginRequestDto) :
    Monitor.outcome answers (login config context dto) = .error (.http (.locked lockedMessage)) ↔
      server.locks thread now dto.email = true := by
  unfold login
  rw [Monitor.outcome_bind, outcome_query, sees.customerFindUnique, Server.locks]
  cases server.findCustomer thread (.email dto.email) with
  | none => exact iff_of_false (by rintro ⟨⟩) (by rintro ⟨⟩)
  | some customer =>
      refine (iff_of_eq (congrArg (· = _) (Monitor.outcome_lift _ _ _))).trans ?_
      rw [sees.date, Option.any_some]
      by_cases locked : isLocked customer (toDate now) = true
      · rw [if_pos locked]
        exact iff_of_true rfl locked
      · rw [if_neg locked]
        refine iff_of_false ?_ locked
        split
        · exact passes_succeedLogin config context customer dto.email
        · exact passes_failLogin config context customer

end Outcomes

/-! ## When the guard and the login agree -/

section Agreement

variable {Thread : Type} [DecidableEq Thread] {server : Server Thread} {thread : Thread} {now : ℕ}
  {normalized email : String}

theorem spellingsAgree_iff : SpellingsAgree server thread now normalized email ↔
    (normalized ≠ "" ∧ server.locks thread now normalized = true ↔
      server.locks thread now email = true) := by
  constructor
  · rintro (⟨rfl, filled⟩ | ⟨filled, one, other⟩ | ⟨one, other⟩)
    · exact and_iff_right filled
    · exact iff_of_true ⟨filled, one⟩ other
    · refine iff_of_false (fun refused => ?_) (by rw [other]; exact Bool.false_ne_true)
      rcases one with blank | free
      · exact refused.1 blank
      · exact Bool.false_ne_true (free.symm.trans refused.2)
  · intro agree
    cases other : server.locks thread now email with
    | true =>
        have one := agree.mpr other
        exact .locked one.1 one.2 other
    | false =>
        refine .unlocked (or_iff_not_imp_left.mpr fun filled => ?_) other
        rw [← Bool.not_eq_true]
        intro one
        exact Bool.false_ne_true (other.symm.trans (agree.mp ⟨filled, one⟩))

end Agreement

def Server.alone {Thread : Type} [DecidableEq Thread] (server : Server Thread) (thread : Thread)
    (now : ℕ) : (op : Auth.interface.Op) → Auth.interface.Answer op
  | .query statement =>
      ((server.perform thread now ⟨0⟩ none statement).map Prod.fst).getD (.error .uniqueViolation)
  | .date => toDate now
  | .bcryptHash _ => ""
  | .randomBytes => ""
  | .signAsync _ => .ok ""

theorem lockEnforced_iff_locks {Thread : Type} [DecidableEq Thread] {server : Server Thread}
    {thread : Thread} {now : ℕ} {toLowerCase : String → String} {email : String} :
    LockEnforced server thread now toLowerCase email ↔
      (toLowerCase (trim email) ≠ "" ∧
        server.locks thread now (toLowerCase (trim email)) = true ↔
      server.locks thread now email = true) := by
  constructor
  · intro enforced
    have sees : Sees server thread now (server.alone thread now) := ⟨rfl, fun _ => rfl⟩
    have agree := enforced ⟨false, fun _ => ""⟩ {} {} sampleConfig {} "" _ sees
    rw [login_locked_iff sees, guard_locked_iff] at agree
    exact agree
  · intro agree outage settings req config context password answers sees
    rw [login_locked_iff sees, guard_locked_iff]
    exact agree

theorem lock_enforced_iff {Thread : Type} [DecidableEq Thread] (server : Server Thread)
    (thread : Thread) (now : ℕ) (toLowerCase : String → String) (email : String) :
    LockEnforced server thread now toLowerCase email ↔
      SpellingsAgree server thread now (toLowerCase (trim email)) email :=
  lockEnforced_iff_locks.trans spellingsAgree_iff.symm

/-! ## Two customers whose emails differ in one letter -/

def registeringOther : Request where
  operation := .register { email := "A@b.co", password := "second", name := "B", phone := "2" }

/-- The password of the first of two customers is guessed wrong. -/
def spelling : ℕ → Request
  | 0 => registering
  | 1 => registeringOther
  | _ => loggingIn "guess"

def spellingSteps : List (Label ℕ) :=
  List.replicate 7 (act 0 7) ++ List.replicate 7 (act 1 8) ++
    [2, 3, 4, 5, 6].flatMap fun thread => List.replicate 4 (act thread)

private theorem spelling_leads : leadsTo sampleConfig spelling spellingSteps
    (fun current => current.shared.server.locks 7 current.shared.now "a@b.co" &&
      !current.shared.server.locks 7 current.shared.now "A@b.co") = true := by
  decide +kernel

theorem other_spelling : ∃ current, Reachable sampleConfig spelling (fun _ _ => True) current ∧
    ¬LockEnforced current.shared.server 7 current.shared.now String.toLower "A@b.co" := by
  rcases exists_reachable sampleConfig spelling (fun _ _ => True.intro) spelling_leads with
    ⟨current, reachable, passed⟩
  refine ⟨current, reachable, fun enforced => ?_⟩
  have agree := lockEnforced_iff_locks.mp enforced
  have lower : String.toLower (trim "A@b.co") = "a@b.co" := by decide +kernel
  rw [lower] at agree
  rw [Bool.and_eq_true, Bool.not_eq_true'] at passed
  exact Bool.false_ne_true (passed.2.symm.trans (agree.mp ⟨by decide, passed.1⟩))

end BankingBackend.Auth
