import BankingBackend.Auth.Interleaving

/-! # What the commits do to the rows -/

namespace BankingBackend.Auth

open Foundation Users
open Postgres (Uuid DatabaseError)

/-! ## Exchanges -/

def Change.exchanged? : Change → Option Uuid
  | .tokenExchanged id _ _ _ => some id
  | _ => none

section Exchanges

variable {Thread : Type}

/-- A commit that exchanges a token for a new one. -/
structure Exchange (commit : Commit Thread) (id : Uuid) (token : RefreshToken) (newId : Uuid)
    (data : RefreshTokenData) (date revokedAt : ℕ) : Prop where
  changes : commit.changes = [.tokenCreated newId data, .tokenExchanged id date revokedAt newId]
  found : commit.before.tokens id = some token
  exchangeable : token.exchangeable date = true
  absent : commit.before.tokens newId = none
  customers : commit.after.customers = commit.before.customers
  tokens : commit.after.tokens =
    Function.update (Function.update commit.before.tokens newId (some (.new data))) id
      (some (token.replace revokedAt newId))
  customerId : data.customerId = token.customerId
  passwordChanges : data.passwordChanges = token.passwordChanges
  began : toDate commit.since ≤ date
  ended : date ≤ toDate commit.now

variable {commit : Commit Thread} {older : List (Commit Thread)} {config : AuthConfig}
  {operation : Operation} {id newId : Uuid} {token : RefreshToken} {data : RefreshTokenData}
  {date revokedAt : ℕ} {rows : Rows}

theorem Exchange.different
    (exchange : Exchange commit id token newId data date revokedAt) : id ≠ newId := by
  rintro rfl
  have absent := exchange.absent
  rw [exchange.found] at absent
  cases absent

theorem Exchange.replaced (exchange : Exchange commit id token newId data date revokedAt) :
    commit.after.tokens id = some (token.replace revokedAt newId) := by
  rw [exchange.tokens, Function.update_self]

theorem Exchange.created (exchange : Exchange commit id token newId data date revokedAt) :
    commit.after.tokens newId = some (.new data) := by
  rw [exchange.tokens, Function.update_of_ne exchange.different.symm, Function.update_self]

theorem Exchange.others (exchange : Exchange commit id token newId data date revokedAt)
    {other : Uuid} (exchanged : other ≠ id) (created : other ≠ newId) :
    commit.after.tokens other = commit.before.tokens other := by
  rw [exchange.tokens, Function.update_of_ne exchanged, Function.update_of_ne created]

theorem Exchange.live (exchange : Exchange commit id token newId data date revokedAt) :
    token.live = true := by
  have exchangeable := exchange.exchangeable
  rw [RefreshToken.exchangeable, Bool.and_eq_true, Bool.and_eq_true] at exchangeable
  exact exchangeable.1.1

theorem exchange_rows {before after : Rows}
    (replays : Rows.Replays
      [.tokenCreated newId data, .tokenExchanged id date revokedAt newId] before after)
    (found : before.tokens id = some token) :
    before.tokens newId = none ∧ token.exchangeable date = true ∧
      after.customers = before.customers ∧
      after.tokens = Function.update (Function.update before.tokens newId (some (.new data))) id
        (some (token.replace revokedAt newId)) := by
  rcases Rows.replays_cons.mp replays with ⟨between, creates, rest⟩
  rw [Rows.replays_singleton] at rest
  have absent : before.tokens newId = none := by
    cases present : before.tokens newId with
    | none => rfl
    | some row =>
        simp [Change.apply, Change.customer?, Change.token?, Change.onToken, present] at creates
  have different : id ≠ newId := by
    rintro rfl
    rw [found] at absent
    cases absent
  simp only [Change.apply, Change.customer?, Change.token?, Change.onToken, absent, Option.map_some,
    Option.some.injEq] at creates
  subst creates
  simp only [Change.apply, Change.customer?, Change.token?, Change.onToken,
    Function.update_of_ne different, found, Option.map_eq_some_iff, Option.ite_none_right_eq_some,
    Option.some.injEq] at rest
  rcases rest with ⟨_, ⟨exchangeable, rfl⟩, rfl⟩
  exact ⟨absent, exchangeable, rfl, rfl⟩

theorem Shape.exchange_or (shape : Shape older commit config operation)
    (logged : Logged (commit :: older) rows) :
    (∃ cookie id token newId data date revokedAt, operation = .refresh cookie ∧
      Exchange commit id token newId data date revokedAt) ∨
    (∀ cookie, operation ≠ .refresh cookie) ∧
      ∀ change ∈ commit.changes, change.exchanged? = none := by
  have revoking {revokes : List Change} (revoking : Revokes revokes) {change : Change}
      (member : change ∈ revokes) : change.exchanged? = none := by
    rcases revoking change member with ⟨id, revokedAt, rfl⟩
    rfl
  cases shape with
  | refreshed id token newId data date revokedAt changes found customerId passwordChanges began
      ended =>
      have replays := logged.2.1
      rw [changes] at replays
      rw [← logged.before_eq] at found
      rcases exchange_rows replays found with ⟨absent, exchangeable, customers, tokens⟩
      exact .inl ⟨_, id, token, newId, data, date, revokedAt, rfl, changes, found, exchangeable,
        absent, customers, tokens, customerId, passwordChanges, began, ended⟩
  | loginIssued customer revokes newId data changes revokesTokens =>
      refine .inr ⟨by rintro _ ⟨⟩, fun change member => ?_⟩
      rw [changes, List.mem_append, List.mem_singleton] at member
      rcases member with member | rfl
      · exact revoking revokesTokens member
      · rfl
  | passwordChanged passwordHash revokes changes revokesTokens =>
      refine .inr ⟨by rintro _ ⟨⟩, fun change member => ?_⟩
      rw [changes, List.mem_cons] at member
      rcases member with rfl | member
      · rfl
      · exact revoking revokesTokens member
  | registered _ _ changes => exact .inr ⟨by rintro _ ⟨⟩, by simp [changes, Change.exchanged?]⟩
  | loginFailed _ changes => exact .inr ⟨by rintro _ ⟨⟩, by simp [changes, Change.exchanged?]⟩
  | loginReset _ changes => exact .inr ⟨by rintro _ ⟨⟩, by simp [changes, Change.exchanged?]⟩
  | loggedOut _ _ changes => exact .inr ⟨by rintro _ ⟨⟩, by simp [changes, Change.exchanged?]⟩
  | profileUpdated _ changes => exact .inr ⟨by rintro _ ⟨⟩, by simp [changes, Change.exchanged?]⟩

end Exchanges

/-! ## Replaced tokens -/

/-- The first token was exchanged for the second. -/
def Rows.Replaced (rows : Rows) (id replacedById : Uuid) : Prop :=
  ∃ token, rows.tokens id = some token ∧ token.replacedById = some replacedById

section Replaced

variable {change : Change} {changes : List Change} {before after : Rows}
  {id replacedById : Uuid}

theorem Change.unexchanged (applies : change.apply before = some after)
    (keeps : change.exchanged? = none) (replaced : after.Replaced id replacedById) :
    before.Replaced id replacedById := by
  rcases replaced with ⟨later, found, replaced⟩
  have row := (Change.apply_eq_some.mp applies).2 id
  rw [tokenAt, found] at row
  split at row
  · rw [Option.map_eq_some_iff] at row
    rcases row with ⟨version, written, same⟩
    cases same
    cases old : before.tokens id with
    | none =>
        rw [old] at written
        cases change with
        | tokenCreated other data =>
            cases written
            cases replaced
        | _ => cases written
    | some token =>
        refine ⟨token, old, ?_⟩
        rw [old] at written
        cases change with
        | tokenRevokedLive other revokedAt =>
            simp only [onToken, Option.ite_none_right_eq_some, Option.some.injEq] at written
            rcases written with ⟨_, rfl⟩
            exact replaced
        | tokenRevoked other revokedAt =>
            cases written
            exact replaced
        | tokenExchanged other date revokedAt newId => cases keeps
        | _ => cases written
  · rw [Option.some.injEq] at row
    exact ⟨later, row, replaced⟩

theorem Rows.Replays.unexchanged (replays : Rows.Replays changes before after)
    (keeps : ∀ change ∈ changes, change.exchanged? = none)
    (replaced : after.Replaced id replacedById) : before.Replaced id replacedById := by
  induction changes generalizing before with
  | nil =>
      rw [Rows.replays_nil] at replays
      exact replays ▸ replaced
  | cons change rest induction =>
      rcases Rows.replays_cons.mp replays with ⟨between, applies, ends⟩
      exact Change.unexchanged applies (keeps change (.head _))
        (induction ends fun other member => keeps other (.tail _ member))

end Replaced

/-! ## Revoking all live tokens -/

section Cleared

variable {Thread : Type}

/-- No token of the customer that is still live was committed after the live ones had been
selected. -/
def NoneSince (older : List (Commit Thread)) (commit : Commit Thread) (customerId : Uuid) : Prop :=
  ∀ id token, (rowsOf older).tokens id = some token → token.customerId = customerId →
    token.live = true → ((rowsOf (asOf commit.selected older)).tokens id).isSome = true

variable {older : List (Commit Thread)} {commit : Commit Thread} {rows : Rows}
  {id customerId : Uuid} {token : RefreshToken} {revokes : List Change}

theorem Cleared.created (cleared : Cleared older commit customerId)
    (none : NoneSince older commit customerId) (logged : Logged (commit :: older) rows)
    (found : commit.after.tokens id = some token) (owner : token.customerId = customerId)
    (live : token.live = true) : ∃ data, .tokenCreated id data ∈ commit.changes := by
  rcases logged.2.1.origin found with ⟨earlier, before, continues⟩ | ⟨_, data, member, _⟩
  · exfalso
    rw [logged.before_eq] at before
    have ownerBefore := continues.customerId.symm.trans owner
    have liveBefore := continues.live live
    rcases Option.isSome_iff_exists.mp (none id earlier before ownerBefore liveBefore) with
      ⟨first, selected⟩
    have replays := logged.2.2
    rw [logged.before_eq, ← since_append_asOf commit.selected older] at replays
    rcases replays.replays.kept selected with ⟨later, found', continuesFirst⟩
    rw [since_append_asOf, before] at found'
    cases found'
    rcases cleared id first selected (continuesFirst.customerId.symm.trans ownerBefore)
        (continuesFirst.live liveBefore) with ⟨revokedAt, member⟩ | ⟨dead, present, settled⟩
    · rcases logged.2.1.revoked member with ⟨last, present, settled⟩
      rw [found] at present
      cases present
      simp [settled] at live
    · rw [before] at present
      cases present
      simp [settled] at liveBefore
  · exact ⟨data, member⟩

theorem Revokes.customer? {change : Change} (revoking : Revokes revokes)
    (member : change ∈ revokes) : change.customer? = none := by
  rcases revoking change member with ⟨_, _, rfl⟩
  rfl

theorem Revokes.created {data : RefreshTokenData} (revoking : Revokes revokes) :
    .tokenCreated id data ∉ revokes := by
  intro member
  rcases revoking _ member with ⟨_, _, absurd⟩
  cases absurd

end Cleared

/-! ## Passwords -/

section Passwords

variable {change : Change} {changes : List Change} {before after : Rows} {id : Uuid}
  {later : Customer}

/-- The customer has the password it had, or has just registered. -/
theorem Change.password_kept (applies : change.apply before = some after)
    (keeps : ∀ passwordHash, change ≠ .customerUpdated id (.password passwordHash))
    (found : after.customers id = some later) : later.passwordChanges = 0 ∨
      ∃ customer, before.customers id = some customer ∧
        later.passwordChanges = customer.passwordChanges := by
  cases Change.leaves applies found with
  | untouched elsewhere same => exact .inr ⟨later, same, rfl⟩
  | created data absent result => exact .inl (result ▸ rfl)
  | updated data customer present result =>
      refine .inr ⟨customer, present, ?_⟩
      cases data with
      | password passwordHash => exact absurd rfl (keeps passwordHash)
      | profile email name phone requested => exact result ▸ rfl
      | resetLogin => exact result ▸ rfl
  | failed threshold durationMinutes now customer present result =>
      exact .inr ⟨customer, present, result ▸ rfl⟩

theorem Rows.Replays.password_kept (replays : Rows.Replays changes before after)
    (keeps : ∀ passwordHash, .customerUpdated id (.password passwordHash) ∉ changes)
    (found : after.customers id = some later) : later.passwordChanges = 0 ∨
      ∃ customer, before.customers id = some customer ∧
        later.passwordChanges = customer.passwordChanges := by
  induction changes generalizing before with
  | nil =>
      rw [Rows.replays_nil] at replays
      exact .inr ⟨later, replays ▸ found, rfl⟩
  | cons change rest induction =>
      rcases Rows.replays_cons.mp replays with ⟨between, applies, ends⟩
      rcases induction ends (fun hash member => keeps hash (.tail _ member)) with
        new | ⟨version, present, same⟩
      · exact .inl new
      · rw [same]
        refine Change.password_kept applies (fun hash equal => keeps hash ?_) present
        rw [equal]
        exact .head _

end Passwords

end BankingBackend.Auth
