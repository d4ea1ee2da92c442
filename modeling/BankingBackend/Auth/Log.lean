import BankingBackend.Auth.Replay

/-! # The log of commits

The rows that each part of the log leaves, and what later commits keep of a token
or a customer.
-/

namespace BankingBackend.Auth

open Foundation
open Postgres (Uuid DatabaseError)

/-! ## Parts of the log -/

section Parts

variable {Thread : Type}

def rowsOf : List (Commit Thread) → Rows
  | [] => .empty
  | commit :: _ => commit.after

/-- The log when it had so many commits. -/
def asOf (count : ℕ) (log : List (Commit Thread)) : List (Commit Thread) :=
  log.drop (log.length - count)

def since (count : ℕ) (log : List (Commit Thread)) : List (Commit Thread) :=
  log.take (log.length - count)

def changesOf (log : List (Commit Thread)) : List Change :=
  log.flatMap fun commit => commit.changes.reverse

variable {commit : Commit Thread} {newer older log : List (Commit Thread)} {rows : Rows}
  {count : ℕ}

theorem since_append_asOf (count : ℕ) (log : List (Commit Thread)) :
    since count log ++ asOf count log = log := List.take_append_drop _ _

theorem asOf_suffix (count : ℕ) (log : List (Commit Thread)) : asOf count log <:+ log :=
  List.drop_suffix _ _

theorem asOf_append (had : count ≤ log.length) : asOf count (newer ++ log) = asOf count log := by
  have more : (newer ++ log).length - count = newer.length + (log.length - count) := by
    rw [List.length_append]
    omega
  rw [asOf, more, ← List.drop_drop, List.drop_left, asOf]

theorem asOf_length : asOf log.length log = log := by simp [asOf]

theorem Logged.rows_eq (logged : Logged log rows) : rows = rowsOf log := by
  cases log with
  | nil => exact logged
  | cons commit older => exact logged.1.symm

theorem Logged.before_eq (logged : Logged (commit :: older) rows) :
    commit.before = rowsOf older := logged.2.2.rows_eq

theorem Logged.append (logged : Logged (newer ++ older) rows) : Logged older (rowsOf older) := by
  induction newer generalizing rows with
  | nil => exact logged.rows_eq ▸ logged
  | cons commit rest induction => exact induction logged.2.2

theorem Logged.suffix (logged : Logged log rows) (part : older <:+ log) :
    Logged older (rowsOf older) := by
  rcases part with ⟨newer, rfl⟩
  exact logged.append

theorem Logged.replays (logged : Logged (newer ++ older) rows) :
    Rows.Replays (changesOf newer).reverse (rowsOf older) rows := by
  induction newer generalizing rows with
  | nil => exact Rows.replays_nil.mpr logged.rows_eq.symm
  | cons commit rest induction =>
      rcases logged with ⟨rfl, replays, logged⟩
      have all : (changesOf (commit :: rest)).reverse =
          (changesOf rest).reverse ++ commit.changes := by simp [changesOf]
      rw [all]
      exact Rows.replays_append.mpr ⟨commit.before, induction logged, replays⟩

end Parts

/-! ## Replaying changes -/

namespace Rows

variable {change : Change} {changes rest : List Change} {before after : Rows}

theorem replays_cons : Replays (change :: rest) before after ↔
    ∃ between, change.apply before = some between ∧ Replays rest between after := by
  simp [Replays, Option.bind_eq_some_iff]

theorem Replays.at (replays : Replays changes before after) (member : change ∈ changes) :
    ∃ earlier later first second, changes = earlier ++ change :: later ∧
      Replays earlier before first ∧ change.apply first = some second ∧
      Replays later second after := by
  rcases List.append_of_mem member with ⟨earlier, later, rfl⟩
  rcases replays_append.mp replays with ⟨first, begins, continues⟩
  rcases replays_cons.mp continues with ⟨second, applies, ends⟩
  exact ⟨earlier, later, first, second, rfl, begins, applies, ends⟩

end Rows

/-! ## Later versions of a token -/

/-- Only the revocation of a token changes, and it stays revoked and replaced. -/
structure RefreshToken.Continues (before after : RefreshToken) : Prop where
  customerId : after.customerId = before.customerId
  passwordChanges : after.passwordChanges = before.passwordChanges
  live : after.live = true → before.live = true
  replacedById : ∀ id, before.replacedById = some id → after.replacedById = some id

namespace RefreshToken.Continues

variable {first second third : RefreshToken}

theorem refl (token : RefreshToken) : token.Continues token :=
  ⟨rfl, rfl, id, fun _ => id⟩

theorem trans (left : first.Continues second) (right : second.Continues third) :
    first.Continues third where
  customerId := right.customerId.trans left.customerId
  passwordChanges := right.passwordChanges.trans left.passwordChanges
  live alive := left.live (right.live alive)
  replacedById id replaced := right.replacedById id (left.replacedById id replaced)

theorem dead (continues : first.Continues second) (dead : first.live = false) :
    second.live = false := by
  cases alive : second.live with
  | false => rfl
  | true => exact absurd (continues.live alive) (by simp [dead])

end RefreshToken.Continues

section Tokens

variable {change : Change} {changes : List Change} {before after : Rows} {id : Uuid}
  {token later : RefreshToken}

theorem Change.continues (applies : change.onToken (some token) = some later) :
    token.Continues later := by
  cases change with
  | tokenRevokedLive other revokedAt =>
      simp only [onToken, Option.ite_none_right_eq_some, Option.some.injEq] at applies
      rcases applies with ⟨_, rfl⟩
      exact ⟨rfl, rfl, by simp [RefreshToken.live, RefreshToken.revoke], fun _ => id⟩
  | tokenRevoked other revokedAt =>
      cases applies
      exact ⟨rfl, rfl, by simp [RefreshToken.live, RefreshToken.revoke], fun _ => id⟩
  | tokenExchanged other date revokedAt replacedById =>
      simp only [onToken, Option.ite_none_right_eq_some, Option.some.injEq] at applies
      rcases applies with ⟨exchangeable, rfl⟩
      refine ⟨rfl, rfl, by simp [RefreshToken.live, RefreshToken.replace], fun id replaced => ?_⟩
      simp [RefreshToken.exchangeable, replaced] at exchangeable
  | _ => cases applies

theorem Change.kept (applies : change.apply before = some after)
    (found : before.tokens id = some token) :
    ∃ later, after.tokens id = some later ∧ token.Continues later := by
  have row := (Change.apply_eq_some.mp applies).2 id
  rw [tokenAt, found] at row
  split at row
  · rw [Option.map_eq_some_iff] at row
    rcases row with ⟨version, written, same⟩
    exact ⟨version, same.symm, Change.continues written⟩
  · rw [Option.some.injEq] at row
    exact ⟨token, row.symm, .refl token⟩

theorem Change.origin (applies : change.apply before = some after)
    (found : after.tokens id = some later) :
    (∃ token, before.tokens id = some token ∧ token.Continues later) ∨
      before.tokens id = none ∧ ∃ data, change = .tokenCreated id data ∧ later = .new data := by
  have row := (Change.apply_eq_some.mp applies).2 id
  rw [tokenAt, found] at row
  split at row
  · rename_i about
    rw [Option.map_eq_some_iff] at row
    rcases row with ⟨version, written, same⟩
    cases same
    cases old : before.tokens id with
    | some token =>
        rw [old] at written
        exact .inl ⟨token, rfl, Change.continues written⟩
    | none =>
        rw [old] at written
        cases change with
        | tokenCreated other data =>
            cases about
            cases written
            exact .inr ⟨rfl, data, rfl, rfl⟩
        | _ => cases written
  · rw [Option.some.injEq] at row
    exact .inl ⟨later, row, .refl later⟩

theorem Rows.Replays.origin (replays : Rows.Replays changes before after)
    (found : after.tokens id = some later) :
    (∃ token, before.tokens id = some token ∧ token.Continues later) ∨
      before.tokens id = none ∧ ∃ data, .tokenCreated id data ∈ changes ∧
        (RefreshToken.new data).Continues later := by
  induction changes generalizing before with
  | nil =>
      rw [Rows.replays_nil] at replays
      exact .inl ⟨later, replays ▸ found, .refl later⟩
  | cons change rest induction =>
      rcases Rows.replays_cons.mp replays with ⟨between, applies, ends⟩
      rcases induction ends with ⟨token, between, continues⟩ | ⟨absent, data, member, continues⟩
      · rcases Change.origin applies between with
          ⟨first, old, kept⟩ | ⟨absent, data, rfl, rfl⟩
        · exact .inl ⟨first, old, kept.trans continues⟩
        · exact .inr ⟨absent, data, .head _, continues⟩
      · refine .inr ⟨?_, data, .tail _ member, continues⟩
        cases old : before.tokens id with
        | none => rfl
        | some token =>
            rcases Change.kept applies old with ⟨later, present, _⟩
            rw [absent] at present
            cases present

theorem Rows.Replays.kept (replays : Rows.Replays changes before after)
    (found : before.tokens id = some token) :
    ∃ later, after.tokens id = some later ∧ token.Continues later := by
  induction changes generalizing before token with
  | nil =>
      rw [Rows.replays_nil] at replays
      exact ⟨token, replays ▸ found, .refl token⟩
  | cons change rest induction =>
      rcases Rows.replays_cons.mp replays with ⟨between, applies, ends⟩
      rcases Change.kept applies found with ⟨version, present, continues⟩
      rcases induction ends present with ⟨later, last, continuesOn⟩
      exact ⟨later, last, continues.trans continuesOn⟩

def Rows.Dead (rows : Rows) (id : Uuid) : Prop :=
  ∃ token, rows.tokens id = some token ∧ token.live = false

theorem Rows.Replays.dead (replays : Rows.Replays changes before after) (dead : before.Dead id) :
    after.Dead id := by
  rcases dead with ⟨token, found, dead⟩
  rcases replays.kept found with ⟨later, present, continues⟩
  exact ⟨later, present, continues.dead dead⟩

theorem Change.tokens_of_token (about : change.token? = some id)
    (applies : change.apply before = some after) :
    (change.onToken (before.tokens id)).map some = some (after.tokens id) := by
  have row := (Change.apply_eq_some.mp applies).2 id
  rwa [tokenAt, if_pos about] at row

theorem Rows.Replays.revoked {revokedAt : ℕ} (replays : Rows.Replays changes before after)
    (member : .tokenRevokedLive id revokedAt ∈ changes) : after.Dead id := by
  rcases replays.at member with ⟨_, _, first, second, _, _, applies, ends⟩
  refine ends.dead ?_
  have row := Change.tokens_of_token rfl applies
  rw [Option.map_eq_some_iff] at row
  rcases row with ⟨later, written, same⟩
  cases old : first.tokens id with
  | none =>
      rw [old] at written
      cases written
  | some token =>
      rw [old, Change.onToken, Option.ite_none_right_eq_some, Option.some.injEq] at written
      rcases written with ⟨_, rfl⟩
      exact ⟨_, same.symm, rfl⟩

theorem Rows.Replays.tokens_same (replays : Rows.Replays changes before after)
    (others : ∀ change ∈ changes, change.token? = none) : after.tokens = before.tokens := by
  funext id
  have row := (Rows.replays_iff.mp replays).2 id
  rw [foldlM_tokenAt_of_none _ fun change member => by simp [others change member]] at row
  exact (Option.some.inj row).symm

end Tokens

/-! ## Later versions of a customer -/

section Customers

variable {change : Change} {changes : List Change} {before after : Rows} {id : Uuid}
  {customer later : Customer}

theorem Rows.Replays.customers_same (replays : Rows.Replays changes before after)
    (others : ∀ change ∈ changes, change.customer? = none) :
    after.customers = before.customers := by
  funext id
  have row := (Rows.replays_iff.mp replays).1 id
  rw [foldlM_customerAt_of_none _ fun change member => by simp [others change member]] at row
  exact (Option.some.inj row).symm

inductive Change.Leaves (id : Uuid) (row : Option Customer) (later : Customer) : Change → Prop
  | untouched {change : Change} (elsewhere : change.customer? ≠ some id) (same : row = some later) :
      Leaves id row later change
  | created (data : CustomerData) (absent : row = none) (result : later = .new data) :
      Leaves id row later (.customerCreated id data)
  | updated (data : CustomerUpdate) (customer : Customer) (found : row = some customer)
      (result : later = customer.update data) : Leaves id row later (.customerUpdated id data)
  | failed (threshold : ℚ) (durationMinutes : ℤ) (now : ℕ) (customer : Customer)
      (found : row = some customer)
      (result : later = customer.failLogin threshold durationMinutes now) :
      Leaves id row later (.loginFailed id threshold durationMinutes now)

theorem Change.leaves (applies : change.apply before = some after)
    (found : after.customers id = some later) : Leaves id (before.customers id) later change := by
  have row := (Change.apply_eq_some.mp applies).1 id
  rw [customerAt, found] at row
  split at row
  · rename_i about
    rw [Option.map_eq_some_iff] at row
    rcases row with ⟨version, written, same⟩
    cases same
    cases old : before.customers id with
    | none =>
        rw [old] at written
        cases change with
        | customerCreated other data =>
            cases about
            cases written
            exact .created data rfl rfl
        | _ => cases written
    | some customer =>
        rw [old] at written
        cases change with
        | customerUpdated other data =>
            cases about
            cases written
            exact .updated data customer rfl rfl
        | loginFailed other threshold durationMinutes now =>
            cases about
            cases written
            exact .failed threshold durationMinutes now customer rfl rfl
        | _ => cases written
  · rename_i elsewhere
    exact .untouched elsewhere (Option.some.inj row)

theorem Change.customer_kept (applies : change.apply before = some after)
    (found : before.customers id = some customer) :
    ∃ later, after.customers id = some later ∧
      customer.passwordChanges ≤ later.passwordChanges := by
  have row := (Change.apply_eq_some.mp applies).1 id
  rw [customerAt, found] at row
  split at row
  · rw [Option.map_eq_some_iff] at row
    rcases row with ⟨version, written, same⟩
    refine ⟨version, same.symm, ?_⟩
    cases change with
    | customerUpdated other data =>
        cases written
        cases data <;> simp [Customer.update]
    | loginFailed other threshold durationMinutes now =>
        cases written
        exact le_rfl
    | _ => cases written
  · rw [Option.some.injEq] at row
    exact ⟨customer, row.symm, le_rfl⟩

end Customers

end BankingBackend.Auth
