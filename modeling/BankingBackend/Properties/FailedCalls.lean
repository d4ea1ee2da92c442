import BankingBackend.Auth.Tracking

/-! # Calls that fail

A call that ends with an error should have changed nothing that counts. Audit logs and
tokens are only written and signed after the commit.
-/

namespace BankingBackend.Auth

open Foundation
open Postgres (Uuid DatabaseError)

def Rows.valid (rows : Rows) (id : Uuid) (date : ℕ) : Bool :=
  (rows.tokens id).any fun token => token.exchangeable date

/-- The same customers with the same passwords, and the same tokens valid at any time. -/
structure SameCredentials (before after : Rows) : Prop where
  passwordHash : ∀ id, (after.customers id).map Customer.passwordHash =
    (before.customers id).map Customer.passwordHash
  valid : ∀ id date, after.valid id date = before.valid id date

section Runs

variable {Thread : Type} [DecidableEq Thread]

def Commit.keepsCredentials (commit : Commit Thread) : Prop :=
  SameCredentials commit.before commit.after

/-- Whatever a failed call has committed has left the credentials as they were. -/
def FailuresUndone (config : AuthConfig) (requests : Thread → Request)
    (allowed : Configuration Thread → Label Thread → Prop) : Prop :=
  ∀ current, Reachable config requests allowed current → ∀ thread error,
    (requests thread).operation.critical = true → current.program thread = .done (.error error) →
      Effectless Commit.keepsCredentials thread current.shared.server.log

/-- No request of the calls fails once they have changed credentials. -/
def FailsBefore (config : AuthConfig) (requests : Thread → Request)
    (current : Configuration Thread) (label : Label Thread) : Prop :=
  ∀ thread, (requests thread).operation.critical = true →
    HarmlessFailure config Commit.keepsCredentials thread current label

theorem failures_undone (config : AuthConfig) (requests : Thread → Request) :
    FailuresUndone config requests (FailsBefore config requests) := by
  intro current reachable thread error critical ended
  have stopped := reachable.stops critical (fun _ _ allows => allows thread critical) ended
  rcases stopped with ⟨track, tells, quiet⟩
  exact tells.effectless quiet

end Runs

/-! ## A token that cannot be signed -/

def refreshing : Request where
  operation := .refresh (some "one")

def failedRefresh : Fin 3 → Request
  | 0 => registering
  | 1 => loggingIn "first"
  | 2 => refreshing

/-- The refresh exchanges the token of the login, and then no access token can be signed. -/
def failedRefreshSteps : List (Label (Fin 3)) :=
  List.replicate 7 (act 0 7) ++ List.replicate 12 (act 1 1 "one") ++
    List.replicate 10 (act 2 2 "two") ++
      [.perform 2 { failure := some { error := { code := none, message := "no key" } } }]

/-- The call has failed, and the log has a commit of it that has ended the token. -/
def endedByFailure (current : Configuration (Fin 3)) : Bool :=
  (match current.program 2 with
    | .done (.error _) => true
    | _ => false) &&
  current.shared.server.log.any fun commit => commit.thread == 2 &&
    commit.before.valid ⟨1⟩ 0 && !commit.after.valid ⟨1⟩ 0

private theorem failedRefresh_leads :
    leadsTo sampleConfig failedRefresh failedRefreshSteps endedByFailure = true := by
  decide +kernel

theorem failed_refresh : ¬FailuresUndone sampleConfig failedRefresh Unrestricted := by
  intro undone
  rcases exists_reachable sampleConfig failedRefresh (fun _ _ => True.intro)
      failedRefresh_leads with ⟨current, reachable, passed⟩
  rw [endedByFailure, Bool.and_eq_true] at passed
  rcases passed with ⟨failed, effective⟩
  split at failed
  · rename_i error ended
    rcases List.any_eq_true.mp effective with ⟨commit, member, changed⟩
    rw [Bool.and_eq_true, Bool.and_eq_true, beq_iff_eq, Bool.not_eq_true'] at changed
    rcases changed with ⟨⟨mine, usable⟩, unusable⟩
    have same := (undone current reachable 2 error rfl ended commit member mine).valid ⟨1⟩ 0
    rw [usable, unusable] at same
    cases same
  · cases failed

end BankingBackend.Auth
