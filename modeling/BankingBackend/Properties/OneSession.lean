import BankingBackend.Auth.Effects

/-! # One session per customer

A login revokes all live tokens that it selects, and a refresh the one that it
exchanges. Tokens that are committed between a login's selection and its commit
stay live.
-/

namespace BankingBackend.Auth

open Foundation Users
open Postgres (Uuid DatabaseError)

section Sessions

variable {Thread : Type}

def Rows.OneLive (rows : Rows) : Prop :=
  ∀ first second token other, rows.tokens first = some token → rows.tokens second = some other →
    token.live = true → other.live = true → token.customerId = other.customerId → first = second

/-- A login commits its token when no live token of the customer has been committed since it
selected those to revoke. -/
def Undisturbed (requests : Thread → Request) (older : List (Commit Thread))
    (commit : Commit Thread) : Prop :=
  ∀ dto, (requests commit.thread).operation = .login dto →
    ∀ id data, .tokenCreated id data ∈ commit.changes → NoneSince older commit data.customerId

def OneSession [DecidableEq Thread] (config : AuthConfig) (requests : Thread → Request)
    (condition : List (Commit Thread) → Commit Thread → Prop) : Prop :=
  ∀ current, Reachable config requests (Committing config condition) current →
    current.shared.server.rows.OneLive

variable {config : AuthConfig} {requests : Thread → Request} {log older : List (Commit Thread)}
  {commit : Commit Thread} {rows before after : Rows} {changes : List Change}

theorem Rows.OneLive.fewer (one : before.OneLive) (replays : Rows.Replays changes before after)
    (creates : ∀ id data, .tokenCreated id data ∉ changes) : after.OneLive := by
  intro first second token other found found' live live' same
  rcases replays.origin found with ⟨earlier, present, continues⟩ | ⟨_, data, member, _⟩
  · rcases replays.origin found' with ⟨earlier', present', continues'⟩ | ⟨_, data, member, _⟩
    · exact one first second earlier earlier' present present' (continues.live live)
        (continues'.live live') (continues.customerId.symm.trans (same.trans continues'.customerId))
    · exact absurd member (creates second data)
  · exact absurd member (creates first data)

theorem Rows.OneLive.creates (one : before.OneLive) (replays : Rows.Replays changes before after)
    {newId : Uuid} {data : RefreshTokenData}
    (creates : ∀ id other, .tokenCreated id other ∈ changes → id = newId ∧ other = data)
    (alone : ∀ id token, after.tokens id = some token → token.customerId = data.customerId →
      token.live = true → id = newId) : after.OneLive := by
  intro first second token other found found' live live' same
  rcases replays.origin found with ⟨earlier, present, continues⟩ | ⟨_, data', member, continues⟩
  · rcases replays.origin found' with ⟨earlier', present', continues'⟩ | ⟨_, data', member, continues'⟩
    · exact one first second earlier earlier' present present' (continues.live live)
        (continues'.live live') (continues.customerId.symm.trans (same.trans continues'.customerId))
    · rcases creates second data' member with ⟨rfl, rfl⟩
      exact alone first token found (same.trans continues'.customerId) live
  · rcases creates first data' member with ⟨rfl, rfl⟩
    exact (alone second other found' (same.symm.trans continues.customerId) live').symm

theorem Exchange.oneLive {id newId : Uuid} {token : RefreshToken} {data : RefreshTokenData}
    {date revokedAt : ℕ} (exchange : Exchange commit id token newId data date revokedAt)
    (one : commit.before.OneLive)
    (replays : Rows.Replays commit.changes commit.before commit.after) : commit.after.OneLive := by
  have creates (other : Uuid) (row : RefreshTokenData)
      (member : .tokenCreated other row ∈ commit.changes) : other = newId ∧ row = data := by
    simpa [exchange.changes] using member
  refine one.creates replays creates fun other row found owner alive => ?_
  by_contra different
  by_cases exchanged : other = id
  · subst other
    rw [exchange.replaced] at found
    cases found
    cases alive
  · rw [exchange.others exchanged different] at found
    exact exchanged (one other id row token found exchange.found alive exchange.live
      (owner.trans exchange.customerId))

theorem oneLive_of_logged (logged : Logged log rows) (history : History config requests log)
    (undisturbed : ∀ commit older, commit :: older <:+ log → Undisturbed requests older commit) :
    rows.OneLive := by
  induction log generalizing rows with
  | nil =>
      cases logged
      rintro first second token other ⟨⟩
  | cons commit older induction =>
      have one := induction logged.2.2 history.tail fun other rest part =>
        undisturbed other rest (part.trans (List.suffix_cons _ _))
      have condition := undisturbed commit older (List.suffix_refl _)
      have replays := logged.2.1
      rw [← logged.1]
      have shape := history.head.shape
      unfold Undisturbed at condition
      generalize (requests commit.thread).operation = operation at shape condition
      rcases shape.exchange_or logged with
        ⟨_, id, token, newId, data, date, revokedAt, _, exchange⟩ | ⟨others, _⟩
      · exact exchange.oneLive one replays
      · cases shape with
        | refreshed => exact absurd rfl (others _)
        | loginIssued customer revokes newId data changes revoking _ customerId _ cleared =>
            have creates (id : Uuid) (other : RefreshTokenData)
                (member : .tokenCreated id other ∈ commit.changes) : id = newId ∧ other = data := by
              rw [changes, List.mem_append, List.mem_singleton, Change.tokenCreated.injEq] at member
              exact member.resolve_left revoking.created
            refine one.creates replays creates fun id token found owner live => ?_
            have none := condition _ rfl newId data (by simp [changes])
            rcases cleared.created (customerId ▸ none) logged found (owner.trans customerId) live with
              ⟨other, member⟩
            exact (creates id other member).1
        | passwordChanged passwordHash revokes changes revoking =>
            refine one.fewer replays fun id data member => ?_
            rw [changes, List.mem_cons] at member
            exact member.elim (by rintro ⟨⟩) revoking.created
        | registered _ _ changes => exact one.fewer replays (by simp [changes])
        | loginFailed _ changes => exact one.fewer replays (by simp [changes])
        | loginReset _ changes => exact one.fewer replays (by simp [changes])
        | loggedOut _ _ changes => exact one.fewer replays (by simp [changes])
        | profileUpdated _ changes => exact one.fewer replays (by simp [changes])

theorem one_session [DecidableEq Thread] (config : AuthConfig) (requests : Thread → Request) :
    OneSession config requests (Undisturbed requests) := by
  intro current reachable
  have chronicle := reachable.chronicle
  exact oneLive_of_logged chronicle.coherent.logged chronicle.history reachable.conditions

end Sessions

/-! ## Two logins at the same time -/

def concurrentLogins : Fin 3 → Request
  | 0 => registering
  | 1 => loggingIn "first"
  | 2 => loggingIn "first"

/-- Both logins select the live tokens before one of them creates its own. -/
def concurrentSteps : List (Label (Fin 3)) :=
  List.replicate 7 (act 0 7) ++ List.replicate 9 (act 1 1 "one") ++
    List.replicate 9 (act 2 2 "two") ++ List.replicate 2 (act 1 1 "one") ++
    List.replicate 2 (act 2 2 "two")

def liveOf (id : Uuid) (current : Configuration (Fin 3)) : Option Uuid :=
  ((current.shared.server.rows.tokens id).filter RefreshToken.live).map RefreshToken.customerId

private theorem concurrent_leads : leadsTo sampleConfig concurrentLogins concurrentSteps
    (fun current => liveOf ⟨1⟩ current == some ⟨7⟩ && liveOf ⟨2⟩ current == some ⟨7⟩) = true := by
  decide +kernel

theorem concurrent_sessions : ¬OneSession sampleConfig concurrentLogins fun _ _ => True := by
  intro one
  rcases exists_reachable sampleConfig concurrentLogins (fun _ _ _ _ _ _ => True.intro)
      concurrent_leads with ⟨current, reachable, passed⟩
  have found {id : Uuid} (live : liveOf id current = some ⟨7⟩) : ∃ token,
      current.shared.server.rows.tokens id = some token ∧ token.live = true ∧
        token.customerId = ⟨7⟩ := by
    rcases Option.map_eq_some_iff.mp live with ⟨token, kept, owner⟩
    rcases Option.filter_eq_some_iff.mp kept with ⟨present, live⟩
    exact ⟨token, present, live, owner⟩
  rw [Bool.and_eq_true, beq_iff_eq, beq_iff_eq] at passed
  rcases found passed.1 with ⟨first, present, live, owner⟩
  rcases found passed.2 with ⟨second, present', live', owner'⟩
  have same := one current reachable ⟨1⟩ ⟨2⟩ first second present present' live live'
    (owner.trans owner'.symm)
  cases same

end BankingBackend.Auth
