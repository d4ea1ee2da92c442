import BankingBackend.Properties.LoginFailures

/-! # Locked accounts

A login checks the lock when it reads the customer. A lock that is committed
later does not stop it.
-/

namespace BankingBackend.Auth

open Foundation Users
open Outbox (toTimestamp)
open Postgres (Uuid DatabaseError)

section Locks

variable {Thread : Type}

/-- The commit leaves the customer locked until then. -/
def Commit.Locks (commit : Commit Thread) (id : Uuid) (expiry : ℤ) : Prop :=
  ∃ customer, commit.after.customers id = some customer ∧ customer.lockUntil = some expiry

/-- The commit clears the failed logins of the customer or issues a token. -/
def Commit.Succeeds (commit : Commit Thread) (id : Uuid) : Prop :=
  .customerUpdated id .resetLogin ∈ commit.changes ∨
    ∃ newId data, .tokenCreated newId data ∈ commit.changes ∧ data.customerId = id

structure Customer.LockedFor (config : AuthConfig) (expiry : ℤ) (attempts : ℕ)
    (customer : Customer) : Prop where
  lockUntil : ∃ later, customer.lockUntil = some later ∧ expiry ≤ later
  threshold : config.loginLockThreshold ≤ customer.failedLoginAttempts
  attempts : attempts ≤ customer.failedLoginAttempts

/-- When a login succeeds, no lock that was committed since it read the customer still lasts. -/
def NoNewerLock (requests : Thread → Request) (older : List (Commit Thread))
    (commit : Commit Thread) : Prop :=
  ∀ dto, (requests commit.thread).operation = .login dto → ∀ id, commit.Succeeds id →
    ∀ lock ∈ since commit.seen older, ∀ expiry, lock.Locks id expiry → expiry ≤ toDate commit.now

variable {config : AuthConfig} {requests : Thread → Request} {log older : List (Commit Thread)}
  {commit lock : Commit Thread} {rows before after : Rows} {change : Change}
  {changes : List Change} {id : Uuid} {customer later : Customer} {expiry : ℤ} {attempts : ℕ}

theorem Customer.LockedFor.apply (locked : customer.LockedFor config expiry attempts)
    (applies : change.apply before = some after) (found : before.customers id = some customer)
    (keeps : change ≠ .customerUpdated id .resetLogin)
    (fails : ∀ threshold durationMinutes now,
      change = .loginFailed id threshold durationMinutes now →
        threshold = config.loginLockThreshold ∧
          expiry ≤ toTimestamp now + durationMinutes * 60000) :
    ∃ later, after.customers id = some later ∧ later.LockedFor config expiry attempts := by
  rcases Change.customer_kept applies found with ⟨later, present, _⟩
  refine ⟨later, present, ?_⟩
  cases Change.leaves applies present with
  | untouched elsewhere same =>
      rw [found] at same
      cases same
      exact locked
  | created data absent result =>
      rw [found] at absent
      cases absent
  | updated data version same result =>
      rw [found] at same
      cases same
      subst result
      cases data with
      | resetLogin => exact absurd rfl keeps
      | profile email name phone requested =>
          exact ⟨locked.lockUntil, locked.threshold, locked.attempts⟩
      | password passwordHash => exact ⟨locked.lockUntil, locked.threshold, locked.attempts⟩
  | failed threshold durationMinutes now version same result =>
      rw [found] at same
      cases same
      subst result
      rcases fails _ _ _ rfl with ⟨rfl, last⟩
      have more : config.loginLockThreshold ≤ ((customer.failedLoginAttempts + 1 : ℕ) : ℚ) := by
        have threshold := locked.threshold
        push_cast
        linarith
      exact ⟨⟨_, if_pos more, last⟩, more, Nat.le_succ_of_le locked.attempts⟩

theorem Customer.LockedFor.replays (locked : customer.LockedFor config expiry attempts)
    (replays : Rows.Replays changes before after) (found : before.customers id = some customer)
    (keeps : .customerUpdated id .resetLogin ∉ changes)
    (fails : ∀ threshold durationMinutes now,
      .loginFailed id threshold durationMinutes now ∈ changes →
        threshold = config.loginLockThreshold ∧
          expiry ≤ toTimestamp now + durationMinutes * 60000) :
    ∃ later, after.customers id = some later ∧ later.LockedFor config expiry attempts := by
  induction changes generalizing before customer with
  | nil =>
      rw [Rows.replays_nil] at replays
      exact ⟨customer, replays ▸ found, locked⟩
  | cons change rest induction =>
      rcases Rows.replays_cons.mp replays with ⟨between, applies, ends⟩
      rcases locked.apply applies found (fun same => keeps (same ▸ .head _))
          (fun threshold durationMinutes now same => fails _ _ _ (same ▸ .head _)) with
        ⟨version, present, lockedStill⟩
      exact induction lockedStill ends present (fun member => keeps (.tail _ member))
        fun threshold durationMinutes now member => fails _ _ _ (.tail _ member)

/-- A lock comes from a failed login. -/
theorem Change.lock_origin (applies : change.apply before = some after)
    (found : after.customers id = some later) (locked : later.lockUntil = some expiry) :
    (∃ customer, before.customers id = some customer ∧ customer.lockUntil = some expiry) ∨
      ∃ threshold durationMinutes now, change = .loginFailed id threshold durationMinutes now ∧
        expiry = toTimestamp now + durationMinutes * 60000 := by
  cases Change.leaves applies found with
  | untouched elsewhere same => exact .inl ⟨later, same, locked⟩
  | created data absent result =>
      subst result
      cases locked
  | updated data customer present result =>
      subst result
      cases data with
      | resetLogin => cases locked
      | profile email name phone requested => exact .inl ⟨customer, present, locked⟩
      | password passwordHash => exact .inl ⟨customer, present, locked⟩
  | failed threshold durationMinutes now customer present result =>
      subst result
      simp only [Customer.failLogin, Option.ite_none_right_eq_some, Option.some.injEq] at locked
      exact .inr ⟨threshold, durationMinutes, now, rfl, locked.2.symm⟩

theorem Rows.Replays.lock_origin (replays : Rows.Replays changes before after)
    (found : after.customers id = some later) (locked : later.lockUntil = some expiry) :
    (∃ customer, before.customers id = some customer ∧ customer.lockUntil = some expiry) ∨
      ∃ threshold durationMinutes now,
        .loginFailed id threshold durationMinutes now ∈ changes ∧
          expiry = toTimestamp now + durationMinutes * 60000 := by
  induction changes generalizing before with
  | nil =>
      rw [Rows.replays_nil] at replays
      exact .inl ⟨later, replays ▸ found, locked⟩
  | cons change rest induction =>
      rcases Rows.replays_cons.mp replays with ⟨between, applies, ends⟩
      rcases induction ends with
        ⟨version, present, same⟩ | ⟨threshold, durationMinutes, now, member, equal⟩
      · rcases Change.lock_origin applies present same with
          before | ⟨threshold, durationMinutes, now, rfl, equal⟩
        · exact .inl before
        · exact .inr ⟨threshold, durationMinutes, now, .head _, equal⟩
      · exact .inr ⟨threshold, durationMinutes, now, .tail _ member, equal⟩

/-! ## Locks in the log -/

/-- Every lock ends a fixed time after the failed login that set it. -/
theorem lock_of_logged (logged : Logged log rows) (history : History config requests log)
    (found : rows.customers id = some customer) (locked : customer.lockUntil = some expiry) :
    ∃ failure ∈ log,
      expiry = toTimestamp failure.now + config.loginLockDurationMinutes * 60000 := by
  induction log generalizing rows customer with
  | nil =>
      cases logged
      cases found
  | cons commit older induction =>
      rw [← logged.1] at found
      rcases logged.2.1.lock_origin found locked with
        ⟨before, present, same⟩ | ⟨threshold, durationMinutes, now, member, equal⟩
      · rcases induction logged.2.2 history.tail present same with ⟨failure, member, equal⟩
        exact ⟨failure, .tail _ member, equal⟩
      · rcases history.head.shape.loginFailed_eq member with ⟨_, rfl, rfl⟩
        exact ⟨commit, .head _, equal⟩

/-- The customer is locked as long as the newest of the commits came before the lock ends. -/
def LocksLast (log : List (Commit Thread)) : Prop :=
  ∀ lock ∈ log, ∀ id expiry, lock.Locks id expiry →
    (∀ commit ∈ log, (toDate commit.now : ℤ) < expiry) →
      ∃ customer later, (rowsOf log).customers id = some customer ∧
        customer.lockUntil = some later ∧ expiry ≤ later

theorem Shape.admitted {dto : LoginRequestDto} (shape : Shape older commit config (.login dto))
    (succeeds : commit.Succeeds id) :
    ∃ customer : Entity Customer, customer.id = id ∧ Admitted older commit customer := by
  cases shape with
  | loginFailed customerId changes => simp [Commit.Succeeds, changes] at succeeds
  | loginReset customer changes admitted =>
      rcases succeeds with reset | ⟨newId, data, created, _⟩
      · rw [changes, List.mem_singleton, Change.customerUpdated.injEq] at reset
        exact ⟨customer, reset.1.symm, admitted⟩
      · simp [changes] at created
  | loginIssued customer revokes newId data changes revoking admitted customerId =>
      rcases succeeds with reset | ⟨otherId, other, created, owner⟩
      · rw [changes, List.mem_append, List.mem_singleton] at reset
        rcases reset with member | equal
        · cases revoking.customer? member
        · cases equal
      · rw [changes, List.mem_append, List.mem_singleton, Change.tokenCreated.injEq] at created
        rcases created.resolve_left revoking.created with ⟨_, rfl⟩
        exact ⟨customer, customerId.symm.trans owner, admitted⟩

theorem NoNewerLock.reached (condition : NoNewerLock requests older commit)
    {dto : LoginRequestDto} (operation : (requests commit.thread).operation = .login dto)
    (shape : Shape older commit config (.login dto)) (succeeds : commit.Succeeds id)
    (last : LocksLast (asOf commit.seen older)) (member : lock ∈ older)
    (locks : lock.Locks id expiry)
    (before : ∀ earlier ∈ older, (toDate earlier.now : ℤ) < expiry) :
    expiry ≤ toDate commit.now := by
  rw [← since_append_asOf commit.seen older, List.mem_append] at member
  rcases member with newer | read
  · exact condition dto operation id succeeds lock newer expiry locks
  · rcases shape.admitted succeeds with ⟨customer, rfl, admitted⟩
    rcases last lock read customer.id expiry locks fun earlier part =>
        before earlier ((asOf_suffix _ _).subset part) with ⟨row, later, found, lockUntil, le⟩
    rcases admitted.unlocked with ⟨date, past, unlocked⟩
    rw [admitted.read] at found
    cases found
    rw [isLocked, lockUntil, Option.any_some, decide_eq_false_iff_not] at unlocked
    omega

theorem Written.locked (written : Written config requests older commit)
    (logged : Logged (commit :: older) rows) (history : History config requests older)
    (keeps : .customerUpdated id .resetLogin ∉ commit.changes)
    (found : commit.before.customers id = some customer)
    (locked : ∃ later, customer.lockUntil = some later ∧ expiry ≤ later) :
    ∃ later, commit.after.customers id = some later ∧
      later.LockedFor config expiry customer.failedLoginAttempts := by
  rcases locked with ⟨current, lockUntil, le⟩
  have counted := counted_of_logged logged.2.2 history customer found
  have lockedNow : customer.LockedFor config expiry customer.failedLoginAttempts :=
    ⟨⟨current, lockUntil, le⟩, counted.locked (by rw [lockUntil]; rfl), le_rfl⟩
  refine lockedNow.replays logged.2.1 found keeps fun threshold durationMinutes now member => ?_
  rcases written.shape.loginFailed_eq member with ⟨rfl, rfl, rfl⟩
  rcases lock_of_logged logged.2.2 history found lockUntil with ⟨failure, earlier, rfl⟩
  have mono := Outbox.toTimestamp_mono (written.later failure earlier)
  exact ⟨rfl, by omega⟩

end Locks

/-! ## A login during guesses of the password -/

end BankingBackend.Auth
