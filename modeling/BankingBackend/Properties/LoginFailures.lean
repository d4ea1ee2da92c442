import BankingBackend.Auth.Effects

/-! # Failed logins are counted

However the calls interleave, `failedLoginAttempts` is the number of failed logins
since the last reset, and only a customer with enough of them is locked.
-/

namespace BankingBackend.Auth

open Foundation Users
open Postgres (Uuid DatabaseError)

section Changes

variable (id : Uuid)

def Change.failsLogin : Change → Bool
  | .loginFailed other _ _ _ => other == id
  | _ => false

/-- A registration counts from nothing, as a reset does. -/
def Change.resetsLogin : Change → Bool
  | .customerCreated other _ => other == id
  | .customerUpdated other .resetLogin => other == id
  | _ => false

/-- The failed logins since the last reset, where the newest change is first. -/
def failuresSince (changes : List Change) : ℕ :=
  (changes.takeWhile fun change => !change.resetsLogin id).countP fun change =>
    change.failsLogin id

variable {id} {change : Change} {older : List Change}

theorem failuresSince_reset (resets : change.resetsLogin id = true) :
    failuresSince id (change :: older) = 0 := by
  simp [failuresSince, resets]

theorem failuresSince_cons (keeps : change.resetsLogin id = false) :
    failuresSince id (change :: older) =
      failuresSince id older + if change.failsLogin id then 1 else 0 := by
  simp [failuresSince, keeps, List.countP_cons]

theorem Change.resetsLogin_of_elsewhere (elsewhere : change.customer? ≠ some id) :
    change.resetsLogin id = false := by
  cases change with
  | customerCreated other data => simpa [resetsLogin, customer?] using elsewhere
  | customerUpdated other data =>
      cases data with
      | resetLogin => simpa [resetsLogin, customer?] using elsewhere
      | _ => rfl
  | _ => rfl

theorem Change.failsLogin_of_elsewhere (elsewhere : change.customer? ≠ some id) :
    change.failsLogin id = false := by
  cases change with
  | loginFailed other threshold durationMinutes now =>
      simpa [failsLogin, customer?] using elsewhere
  | _ => rfl

end Changes

/-! ## Counting -/

structure Counted (config : AuthConfig) (changes : List Change) (id : Uuid) (customer : Customer) :
    Prop where
  attempts : customer.failedLoginAttempts = failuresSince id changes
  locked : customer.lockUntil.isSome = true →
    config.loginLockThreshold ≤ customer.failedLoginAttempts

/-- A failed login is recorded under the threshold of the settings. -/
def Change.Configured (config : AuthConfig) (change : Change) : Prop :=
  ∀ id threshold durationMinutes now, change = .loginFailed id threshold durationMinutes now →
    threshold = config.loginLockThreshold

section Counts

variable {Thread : Type} {config : AuthConfig} {requests : Thread → Request} {id : Uuid}
  {change : Change} {older changes : List Change} {row : Option Customer} {later : Customer}
  {rows : Rows} {log : List (Commit Thread)}

theorem Counted.step (counted : ∀ customer, row = some customer → Counted config older id customer)
    (configured : change.Configured config) (leaves : Change.Leaves id row later change) :
    Counted config (change :: older) id later := by
  cases leaves with
  | untouched elsewhere same =>
      have before := counted later same
      refine ⟨?_, before.locked⟩
      rw [failuresSince_cons (Change.resetsLogin_of_elsewhere elsewhere),
        Change.failsLogin_of_elsewhere elsewhere]
      exact before.attempts
  | created data absent result =>
      subst result
      refine ⟨?_, by simp [Customer.new]⟩
      rw [failuresSince_reset (by simp [Change.resetsLogin])]
      rfl
  | updated data customer found result =>
      subst result
      have before := counted customer found
      cases data with
      | resetLogin =>
          refine ⟨?_, by simp [Customer.update]⟩
          rw [failuresSince_reset (by simp [Change.resetsLogin])]
          rfl
      | profile email name phone requested =>
          refine ⟨?_, before.locked⟩
          rw [failuresSince_cons rfl]
          exact before.attempts
      | password passwordHash =>
          refine ⟨?_, before.locked⟩
          rw [failuresSince_cons rfl]
          exact before.attempts
  | failed threshold durationMinutes now customer found result =>
      subst result
      have before := counted customer found
      constructor
      · rw [failuresSince_cons rfl, ← before.attempts]
        simp [Change.failsLogin, Customer.failLogin]
      · rw [← configured _ _ _ _ rfl]
        exact Customer.failLogin_locked

theorem counted_of_replays (replays : Rows.Replays changes.reverse .empty rows)
    (configured : ∀ change ∈ changes, change.Configured config) (customer : Customer)
    (found : rows.customers id = some customer) : Counted config changes id customer := by
  induction changes generalizing rows customer with
  | nil =>
      rw [List.reverse_nil, Rows.replays_nil] at replays
      rw [← replays] at found
      cases found
  | cons change older induction =>
      rw [List.reverse_cons] at replays
      rcases Rows.replays_append.mp replays with ⟨before, earlier, applies⟩
      rw [Rows.replays_singleton] at applies
      refine Counted.step (fun version present => ?_) (configured change (.head _))
        (Change.leaves applies found)
      exact induction earlier (fun other member => configured other (.tail _ member)) version present

theorem Shape.loginFailed_eq {commit : Commit Thread} {older : List (Commit Thread)}
    {operation : Operation} (shape : Shape older commit config operation) {threshold : ℚ}
    {durationMinutes : ℤ} {now : ℕ}
    (member : .loginFailed id threshold durationMinutes now ∈ commit.changes) :
    threshold = config.loginLockThreshold ∧ durationMinutes = config.loginLockDurationMinutes ∧
      now = commit.now := by
  have absent {revokes : List Change} (revoking : Revokes revokes) :
      .loginFailed id threshold durationMinutes now ∉ revokes := by
    intro member
    cases revoking.customer? member
  cases shape with
  | loginFailed customerId changes =>
      rw [changes, List.mem_singleton, Change.loginFailed.injEq] at member
      exact member.2
  | loginIssued customer revokes newId data changes revoking =>
      rw [changes, List.mem_append, List.mem_singleton] at member
      exact absurd (member.resolve_right (by rintro ⟨⟩)) (absent revoking)
  | passwordChanged passwordHash revokes changes revoking =>
      rw [changes, List.mem_cons] at member
      exact absurd (member.resolve_left (by rintro ⟨⟩)) (absent revoking)
  | registered _ _ changes => simp [changes] at member
  | loginReset _ changes => simp [changes] at member
  | refreshed _ _ _ _ _ _ changes => simp [changes] at member
  | loggedOut _ _ changes => simp [changes] at member
  | profileUpdated _ changes => simp [changes, profileUpdate] at member

theorem History.configured (history : History config requests log) (change : Change)
    (member : change ∈ changesOf log) : change.Configured config := by
  rcases List.mem_flatMap.mp member with ⟨commit, committed, changes⟩
  rcases List.append_of_mem committed with ⟨newer, older, rfl⟩
  rw [List.mem_reverse] at changes
  rintro id threshold durationMinutes now rfl
  exact ((history commit older (List.suffix_append _ _)).shape.loginFailed_eq changes).1

theorem counted_of_logged (logged : Logged log rows) (history : History config requests log)
    (customer : Customer) (found : rows.customers id = some customer) :
    Counted config (changesOf log) id customer := by
  rw [← List.append_nil log] at logged
  exact counted_of_replays logged.replays history.configured customer found

def FailuresCounted [DecidableEq Thread] (config : AuthConfig) (requests : Thread → Request) :
    Prop :=
  ∀ current, Reachable config requests Unrestricted current → ∀ id customer,
    current.shared.server.rows.customers id = some customer →
      Counted config (changesOf current.shared.server.log) id customer

theorem failures_counted [DecidableEq Thread] (config : AuthConfig)
    (requests : Thread → Request) : FailuresCounted config requests := by
  intro current reachable id customer found
  have chronicle := reachable.chronicle
  exact counted_of_logged chronicle.coherent.logged chronicle.history customer found

end Counts

end BankingBackend.Auth
