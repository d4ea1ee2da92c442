import BankingBackend.Properties.TokenChains

/-! # A password change ends every session

A password change revokes the live tokens that it selects. A token that is
committed after that stays, and so does one of a login that has checked the old
password.
-/

namespace BankingBackend.Auth

open Foundation Users
open Postgres (Uuid DatabaseError)

section Sessions

variable {Thread : Type}

/-- Tokens that come from a password the customer no longer has are revoked. -/
def Rows.Ended (rows : Rows) : Prop :=
  ∀ id token customer, rows.tokens id = some token →
    rows.customers token.customerId = some customer →
      token.passwordChanges < customer.passwordChanges → token.live = false

structure SessionsEnded (world : World Thread) : Prop where
  revoked : world.server.rows.Ended
  refused : ∀ commit ∈ world.server.log, ∀ id, commit.Exchanges id → ∀ token customer,
    commit.before.tokens id = some token →
      commit.before.customers token.customerId = some customer →
        ¬token.passwordChanges < customer.passwordChanges

/-- No live token is committed between the selection of a password change and its commit, and
no password change between the read of a login and the commit of its token. -/
structure Sequential (requests : Thread → Request) (older : List (Commit Thread))
    (commit : Commit Thread) : Prop where
  selected : ∀ userId dto, (requests commit.thread).operation = .patchPassword userId dto →
    NoneSince older commit userId
  read : ∀ dto, (requests commit.thread).operation = .login dto →
    ∀ id data, .tokenCreated id data ∈ commit.changes → ∀ before customer,
      (rowsOf (asOf commit.seen older)).customers data.customerId = some before →
        (rowsOf older).customers data.customerId = some customer →
          customer.passwordChanges = before.passwordChanges

def PasswordChangesEndSessions [DecidableEq Thread] (config : AuthConfig)
    (requests : Thread → Request) (condition : List (Commit Thread) → Commit Thread → Prop) :
    Prop :=
  ∀ current, Reachable config requests (Committing config condition) current →
    SessionsEnded current.shared

variable {config : AuthConfig} {requests : Thread → Request} {log older : List (Commit Thread)}
  {commit : Commit Thread} {rows before after : Rows} {changes : List Change}

/-- New tokens are of the password that the customer has, and a customer whose password changes
has no live token left. -/
theorem Rows.Ended.replays (ended : before.Ended) (replays : Rows.Replays changes before after)
    (creates : ∀ id data, .tokenCreated id data ∈ changes → ∀ customer,
      after.customers data.customerId = some customer →
        customer.passwordChanges ≤ data.passwordChanges)
    (clears : ∀ customerId passwordHash,
      .customerUpdated customerId (.password passwordHash) ∈ changes → ∀ id token,
        after.tokens id = some token → token.customerId = customerId → token.live = false) :
    after.Ended := by
  intro id token customer found owner earlier
  by_contra alive
  rw [Bool.not_eq_false] at alive
  rcases replays.origin found with ⟨first, present, continues⟩ | ⟨_, data, member, continues⟩
  · rw [continues.customerId] at owner
    have keeps (passwordHash : String) :
        .customerUpdated first.customerId (.password passwordHash) ∉ changes := by
      intro member
      rw [clears _ passwordHash member id token found continues.customerId] at alive
      cases alive
    rcases replays.password_kept keeps owner with new | ⟨version, had, same⟩
    · omega
    · rw [same, continues.passwordChanges] at earlier
      have dead := ended id first version present had earlier
      rw [continues.live alive] at dead
      cases dead
  · rw [continues.customerId] at owner
    rw [continues.passwordChanges] at earlier
    have current := creates id data member customer owner
    exact absurd earlier (by simpa [RefreshToken.new] using current)

theorem Exchange.keeps_ended {id newId : Uuid} {token : RefreshToken} {data : RefreshTokenData}
    {date revokedAt : ℕ} (exchange : Exchange commit id token newId data date revokedAt)
    (ended : commit.before.Ended)
    (replays : Rows.Replays commit.changes commit.before commit.after) : commit.after.Ended := by
  refine ended.replays replays (fun other row member customer owner => ?_) ?_
  · have created : row = data := by
      rw [exchange.changes] at member
      simp only [List.mem_cons, Change.tokenCreated.injEq, reduceCtorEq, List.not_mem_nil,
        or_false] at member
      exact member.2
    subst row
    rw [exchange.customers, exchange.customerId] at owner
    by_contra stale
    rw [exchange.passwordChanges] at stale
    have dead := ended id token customer exchange.found owner (Nat.lt_of_not_le stale)
    rw [exchange.live] at dead
    cases dead
  · intro customerId passwordHash member
    simp [exchange.changes] at member

theorem ended_of_logged (logged : Logged log rows) (history : History config requests log)
    (sequential : ∀ commit older, commit :: older <:+ log → Sequential requests older commit) :
    rows.Ended := by
  induction log generalizing rows with
  | nil =>
      cases logged
      rintro id token customer ⟨⟩
  | cons commit older induction =>
      have ended := induction logged.2.2 history.tail fun other rest part =>
        sequential other rest (part.trans (List.suffix_cons _ _))
      have condition := sequential commit older (List.suffix_refl _)
      have replays := logged.2.1
      rw [← logged.1]
      have shape := history.head.shape
      have selected := condition.selected
      have read := condition.read
      generalize (requests commit.thread).operation = operation at shape selected read
      rcases shape.exchange_or logged with
        ⟨_, id, token, newId, data, date, revokedAt, _, exchange⟩ | ⟨others, _⟩
      · exact exchange.keeps_ended ended replays
      · cases shape with
        | refreshed => exact absurd rfl (others _)
        | loginIssued customer revokes newId data changes revoking admitted customerId
            passwordChanges _ =>
            have same : commit.after.customers = commit.before.customers := by
              refine replays.customers_same fun change member => ?_
              rw [changes, List.mem_append, List.mem_singleton] at member
              exact member.elim revoking.customer? fun equal => equal ▸ rfl
            refine ended.replays replays (fun id row member version found => ?_)
              fun userId passwordHash member => ?_
            · have created : row = data := by
                rw [changes, List.mem_append, List.mem_singleton, Change.tokenCreated.injEq] at member
                exact (member.resolve_left revoking.created).2
              subst row
              rw [same, logged.before_eq] at found
              have unchanged := read _ rfl id data member customer.row version
                (customerId ▸ admitted.read) found
              rw [unchanged, passwordChanges]
            · rw [changes, List.mem_append, List.mem_singleton] at member
              rcases member with member | equal
              · cases revoking.customer? member
              · cases equal
        | passwordChanged passwordHash revokes changes revoking cleared =>
            have creates {id : Uuid} {data : RefreshTokenData} :
                .tokenCreated id data ∉ commit.changes := by
              rw [changes, List.mem_cons]
              exact fun member => member.elim (by rintro ⟨⟩) revoking.created
            refine ended.replays replays (fun id data member => absurd member creates)
              fun userId hash member id token found owner => ?_
            rw [changes, List.mem_cons, Change.customerUpdated.injEq] at member
            rcases member with ⟨rfl, _⟩ | member
            · by_contra alive
              rw [Bool.not_eq_false] at alive
              rcases cleared.created (selected _ _ rfl) logged found owner alive with ⟨data, member⟩
              exact creates member
            · cases revoking.customer? member
        | registered _ _ changes => exact ended.replays replays (by simp [changes]) (by simp [changes])
        | loginFailed _ changes => exact ended.replays replays (by simp [changes]) (by simp [changes])
        | loginReset _ changes => exact ended.replays replays (by simp [changes]) (by simp [changes])
        | loggedOut _ _ changes => exact ended.replays replays (by simp [changes]) (by simp [changes])
        | profileUpdated _ changes =>
            exact ended.replays replays (by simp [changes]) (by simp [changes, profileUpdate])

theorem password_changes_end_sessions [DecidableEq Thread] (config : AuthConfig)
    (requests : Thread → Request) :
    PasswordChangesEndSessions config requests (Sequential requests) := by
  intro current reachable
  have chronicle := reachable.chronicle
  have logged := chronicle.coherent.logged
  refine ⟨ended_of_logged logged chronicle.history reachable.conditions, ?_⟩
  intro commit member id exchanges token customer found owner earlier
  rcases List.append_of_mem member with ⟨newer, older, log⟩
  have part : commit :: older <:+ current.shared.server.log := ⟨newer, log.symm⟩
  have logged := logged.suffix part
  have ended := ended_of_logged logged.2.2
    (fun other rest suffix => chronicle.history other rest
      ((suffix.trans (List.suffix_cons _ _)).trans part))
    fun other rest suffix => reachable.conditions other rest
      ((suffix.trans (List.suffix_cons _ _)).trans part)
  have dead := ended id token customer found owner earlier
  rcases chronicle.singleUse.exchanges commit member id exchanges with
    ⟨_, _, _, _, _, exchange⟩
  have same := exchange.found
  rw [found] at same
  cases same
  rw [exchange.live] at dead
  cases dead

end Sessions

/-! ## A login during a password change -/

def changingPassword : Request where
  operation := .patchPassword ⟨7⟩ { oldPassword := "first", newPassword := "second" }

def loginAcrossChange : Fin 3 → Request
  | 0 => registering
  | 1 => loggingIn "first"
  | 2 => changingPassword

/-- The password changes after the login has checked it. -/
def acrossSteps : List (Label (Fin 3)) :=
  List.replicate 7 (act 0 7) ++ List.replicate 6 (act 1 1 "one") ++ List.replicate 8 (act 2) ++
    List.replicate 5 (act 1 1 "one")

/-- The live token of the customer and the passwords both have had. -/
def passwordsOf (id : Uuid) (current : Configuration (Fin 3)) : Option (ℕ × ℕ) := do
  let token ← (current.shared.server.rows.tokens id).filter RefreshToken.live
  let customer ← current.shared.server.rows.customers token.customerId
  pure (token.passwordChanges, customer.passwordChanges)

private theorem across_leads : leadsTo sampleConfig loginAcrossChange acrossSteps
    (fun current => passwordsOf ⟨1⟩ current == some (0, 1)) = true := by
  decide +kernel

theorem login_across_change :
    ¬PasswordChangesEndSessions sampleConfig loginAcrossChange fun _ _ => True := by
  intro ends
  rcases exists_reachable sampleConfig loginAcrossChange (fun _ _ _ _ _ _ => True.intro)
      across_leads with ⟨current, reachable, passed⟩
  rw [beq_iff_eq, passwordsOf, Option.bind_eq_bind, Option.bind_eq_some_iff] at passed
  rcases passed with ⟨token, kept, rest⟩
  rcases Option.filter_eq_some_iff.mp kept with ⟨found, live⟩
  rw [Option.bind_eq_bind, Option.bind_eq_some_iff] at rest
  rcases rest with ⟨customer, owner, passwords⟩
  rw [Option.pure_def, Option.some.injEq, Prod.mk.injEq] at passwords
  have dead := (ends current reachable).revoked ⟨1⟩ token customer found owner (by omega)
  rw [live] at dead
  cases dead

end BankingBackend.Auth
