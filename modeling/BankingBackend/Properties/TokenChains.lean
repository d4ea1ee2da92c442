import BankingBackend.Auth.Effects
import BankingBackend.Foundation.WaitFor

/-! # Refresh tokens are single-use

Each token is exchanged at most once, for a token of the same customer, and the
exchanged tokens form chains.
-/

namespace BankingBackend.Auth

open Foundation Users
open Postgres (Uuid DatabaseError)

section Chains

variable {Thread : Type}

/-! ## Chains -/

/-- A token replaces one other at most, no token comes before itself, and what is replaced is
revoked. -/
structure Rows.Chained (rows : Rows) : Prop where
  injective : ∀ first second id, rows.Replaced first id → rows.Replaced second id → first = second
  acyclic : Acyclic rows.Replaced
  revoked : ∀ id token, rows.tokens id = some token → token.replacedById.isSome = true →
    token.revokedAt.isSome = true

/-- Tokens are ranked by how many came before them. -/
structure Rows.Ranked (rows : Rows) (rank : Uuid → ℕ) : Prop where
  increases : ∀ id replacedById, rows.Replaced id replacedById → rank id < rank replacedById
  present : ∀ id replacedById, rows.Replaced id replacedById →
    (rows.tokens replacedById).isSome = true
  injective : ∀ first second id, rows.Replaced first id → rows.Replaced second id → first = second
  revoked : ∀ id token, rows.tokens id = some token → token.replacedById.isSome = true →
    token.live = false

theorem Rows.Ranked.chained {rows : Rows} {rank : Uuid → ℕ} (ranked : rows.Ranked rank) :
    rows.Chained where
  injective := ranked.injective
  acyclic := acyclic_of_measure rank ranked.increases
  revoked id token found replaced := by
    have dead := ranked.revoked id token found replaced
    simpa [RefreshToken.live, Option.isNone_eq_false_iff] using dead

theorem ranked_empty : Rows.empty.Ranked fun _ => 0 := by
  constructor
  · rintro id other ⟨token, ⟨⟩, _⟩
  · rintro id other ⟨token, ⟨⟩, _⟩
  · rintro first second id ⟨token, ⟨⟩, _⟩
  · rintro id token ⟨⟩

section Steps

variable {changes : List Change} {before after : Rows} {rank : Uuid → ℕ}
  {commit : Commit Thread} {id newId : Uuid} {token : RefreshToken} {data : RefreshTokenData}
  {date revokedAt : ℕ}

theorem Rows.Ranked.unexchanged (ranked : before.Ranked rank)
    (replays : Rows.Replays changes before after)
    (keeps : ∀ change ∈ changes, change.exchanged? = none) : after.Ranked rank where
  increases id other replaced := ranked.increases id other (replays.unexchanged keeps replaced)
  present id other replaced := by
    have present := ranked.present id other (replays.unexchanged keeps replaced)
    rcases Option.isSome_iff_exists.mp present with ⟨token, found⟩
    rcases replays.kept found with ⟨later, present, _⟩
    rw [present]
    rfl
  injective first second id left right :=
    ranked.injective first second id (replays.unexchanged keeps left)
      (replays.unexchanged keeps right)
  revoked id token found replaced := by
    rcases Option.isSome_iff_exists.mp replaced with ⟨other, replaced⟩
    rcases replays.unexchanged keeps ⟨token, found, replaced⟩ with ⟨earlier, present, same⟩
    have dead := ranked.revoked id earlier present (by rw [same]; rfl)
    rcases replays.kept present with ⟨later, last, continues⟩
    rw [found] at last
    cases last
    exact continues.dead dead

/-- After an exchange a token replaces what it replaced, or is the new one. -/
theorem Exchange.cases (exchange : Exchange commit id token newId data date revokedAt)
    {first second : Uuid} (replaced : commit.after.Replaced first second) :
    first = id ∧ second = newId ∨
      first ≠ id ∧ first ≠ newId ∧ commit.before.Replaced first second := by
  rcases replaced with ⟨row, found, replaced⟩
  by_cases exchanged : first = id
  · subst first
    rw [exchange.replaced] at found
    cases found
    cases replaced
    exact .inl ⟨rfl, rfl⟩
  · by_cases created : first = newId
    · subst first
      rw [exchange.created] at found
      cases found
      cases replaced
    · rw [exchange.others exchanged created] at found
      exact .inr ⟨exchanged, created, row, found, replaced⟩

theorem Exchange.ranked (exchange : Exchange commit id token newId data date revokedAt)
    (ranked : commit.before.Ranked rank) :
    commit.after.Ranked (Function.update rank newId (rank id + 1)) := by
  have older {first second : Uuid} (replaced : commit.before.Replaced first second) :
      second ≠ newId := by
    rintro rfl
    have present := ranked.present first second replaced
    rw [exchange.absent] at present
    cases present
  refine ⟨fun first second replaced => ?_, fun first second replaced => ?_, ?_, ?_⟩
  · rcases exchange.cases replaced with ⟨rfl, rfl⟩ | ⟨_, created, before⟩
    · rw [Function.update_self, Function.update_of_ne exchange.different]
      exact Nat.lt_succ_self _
    · rw [Function.update_of_ne created, Function.update_of_ne (older before)]
      exact ranked.increases first second before
  · rcases exchange.cases replaced with ⟨rfl, rfl⟩ | ⟨_, _, before⟩
    · rw [exchange.created]
      rfl
    · have present := ranked.present first second before
      by_cases exchanged : second = id
      · rw [exchanged, exchange.replaced]
        rfl
      · rwa [exchange.others exchanged (older before)]
  · intro first second last left right
    rcases exchange.cases left with ⟨rfl, rfl⟩ | ⟨_, _, left⟩
    · rcases exchange.cases right with ⟨rfl, _⟩ | ⟨_, _, right⟩
      · rfl
      · exact absurd rfl (older right)
    · rcases exchange.cases right with ⟨rfl, rfl⟩ | ⟨_, _, right⟩
      · exact absurd rfl (older left)
      · exact ranked.injective first second last left right
  · intro first row found replaced
    rcases Option.isSome_iff_exists.mp replaced with ⟨second, replaced⟩
    rcases exchange.cases ⟨row, found, replaced⟩ with ⟨rfl, rfl⟩ | ⟨exchanged, created, before⟩
    · rw [exchange.replaced] at found
      cases found
      rfl
    · rw [exchange.others exchanged created] at found
      exact ranked.revoked first row found (by rw [replaced]; rfl)

end Steps

/-! ## Every reachable state -/

def Commit.Exchanges (commit : Commit Thread) (id : Uuid) : Prop :=
  ∃ date revokedAt newId, .tokenExchanged id date revokedAt newId ∈ commit.changes

/-- What the log says of exchanges, in any order of the calls. -/
structure SingleUse (requests : Thread → Request) (world : World Thread) : Prop where
  once : ∀ id, world.server.log.Pairwise fun newer older =>
    ¬(newer.Exchanges id ∧ older.Exchanges id)
  exchanges : ∀ commit ∈ world.server.log, ∀ id, commit.Exchanges id →
    ∃ token newId data date revokedAt, Exchange commit id token newId data date revokedAt
  refreshes : ∀ commit ∈ world.server.log, (∃ id, commit.Exchanges id) ↔
    ∃ cookie, (requests commit.thread).operation = .refresh cookie
  chained : world.server.rows.Chained

/-- An exchange that fails leaves nothing, and one that succeeds has committed the token that it
returns. -/
structure Answered (config : AuthConfig) (requests : Thread → Request)
    (current : Configuration Thread) : Prop where
  failed : ∀ thread, current.program thread = .done (.error invalidRefreshToken) →
    Uncommitted thread current.shared
  succeeded : ∀ thread cookie dto, (requests thread).operation = .refresh cookie →
    current.program thread = .done (.ok (.tokens dto)) →
    Exchanged thread (config.sha256 dto.refreshToken) current.shared

variable {config : AuthConfig} {requests : Thread → Request} {log : List (Commit Thread)}
  {rows : Rows} {commit : Commit Thread} {older : List (Commit Thread)}

theorem Exchange.exchanges {id newId : Uuid} {token : RefreshToken} {data : RefreshTokenData}
    {date revokedAt : ℕ} (exchange : Exchange commit id token newId data date revokedAt)
    {other : Uuid} : commit.Exchanges other ↔ other = id := by
  constructor
  · rintro ⟨otherDate, otherRevokedAt, otherId, member⟩
    rw [exchange.changes] at member
    simp only [List.mem_cons, reduceCtorEq, Change.tokenExchanged.injEq, List.not_mem_nil, false_or,
      or_false] at member
    exact member.1
  · rintro rfl
    exact ⟨date, revokedAt, newId, by simp [exchange.changes]⟩

theorem exists_ranked (logged : Logged log rows) (history : History config requests log) :
    ∃ rank, rows.Ranked rank := by
  induction log generalizing rows with
  | nil =>
      cases logged
      exact ⟨_, ranked_empty⟩
  | cons commit older induction =>
      rcases induction logged.2.2 history.tail with ⟨rank, ranked⟩
      rw [← logged.1]
      rcases history.head.shape.exchange_or logged with
        ⟨_, id, token, newId, data, date, revokedAt, _, exchange⟩ | ⟨_, keeps⟩
      · exact ⟨_, exchange.ranked ranked⟩
      · exact ⟨rank, ranked.unexchanged logged.2.1 keeps⟩

theorem History.exchange_or (history : History config requests log) (logged : Logged log rows)
    (member : commit ∈ log) :
    (∃ cookie id token newId data date revokedAt,
      (requests commit.thread).operation = .refresh cookie ∧
        Exchange commit id token newId data date revokedAt) ∨
    (∀ cookie, (requests commit.thread).operation ≠ .refresh cookie) ∧
      ∀ change ∈ commit.changes, change.exchanged? = none := by
  rcases List.append_of_mem member with ⟨newer, older, rfl⟩
  have part : commit :: older <:+ newer ++ commit :: older := List.suffix_append _ _
  exact (history commit older part).shape.exchange_or (logged.suffix part)

theorem exchanged_once (logged : Logged log rows) (history : History config requests log)
    (id : Uuid) : log.Pairwise fun newer older => ¬(newer.Exchanges id ∧ older.Exchanges id) := by
  induction log generalizing rows with
  | nil => exact .nil
  | cons commit older induction =>
      refine .cons ?_ (induction logged.2.2 history.tail)
      rintro earlier member ⟨exchanges, exchanged⟩
      rcases history.head.shape.exchange_or logged with
        ⟨_, _, token, _, _, _, _, _, exchange⟩ | ⟨_, keeps⟩
      · rcases history.tail.exchange_or logged.2.2 member with
          ⟨_, _, before, _, _, _, _, _, exchangeBefore⟩ | ⟨_, keeps⟩
        · rw [exchange.exchanges] at exchanges
          rw [exchangeBefore.exchanges] at exchanged
          subst exchanges
          subst exchanged
          rcases List.append_of_mem member with ⟨newer, oldest, rfl⟩
          rcases logged.2.2.replays.kept exchangeBefore.replaced with ⟨later, found, continues⟩
          rw [exchange.found] at found
          cases found
          have replaced := continues.replacedById _ rfl
          have exchangeable := exchange.exchangeable
          simp [RefreshToken.exchangeable, replaced] at exchangeable
        · rcases exchanged with ⟨date, revokedAt, newId, changes⟩
          cases keeps _ changes
      · rcases exchanges with ⟨date, revokedAt, newId, changes⟩
        cases keeps _ changes

theorem Chronicle.singleUse [DecidableEq Thread] {world : World Thread}
    (chronicle : Chronicle config requests world) : SingleUse requests world where
  once := exchanged_once chronicle.coherent.logged chronicle.history
  exchanges commit member id exchanges := by
    rcases chronicle.history.exchange_or chronicle.coherent.logged member with
      ⟨_, _, token, newId, data, date, revokedAt, _, exchange⟩ | ⟨_, keeps⟩
    · rw [exchange.exchanges] at exchanges
      subst exchanges
      exact ⟨token, newId, data, date, revokedAt, exchange⟩
    · rcases exchanges with ⟨date, revokedAt, newId, changes⟩
      cases keeps _ changes
  refreshes commit member := by
    rcases chronicle.history.exchange_or chronicle.coherent.logged member with
      ⟨cookie, id, _, _, _, _, _, operation, exchange⟩ | ⟨other, keeps⟩
    · exact ⟨fun _ => ⟨cookie, operation⟩, fun _ => ⟨id, exchange.exchanges.mpr rfl⟩⟩
    · constructor
      · rintro ⟨id, date, revokedAt, newId, changes⟩
        cases keeps _ changes
      · rintro ⟨cookie, operation⟩
        exact absurd operation (other cookie)
  chained := by
    rcases exists_ranked chronicle.coherent.logged chronicle.history with ⟨rank, ranked⟩
    exact ranked.chained

structure TokensChain [DecidableEq Thread] (config : AuthConfig) (requests : Thread → Request) :
    Prop where
  singleUse : ∀ current, Reachable config requests Unrestricted current →
    SingleUse requests current.shared
  answered : ∀ current, Reachable config requests Unrestricted current →
    Answered config requests current

theorem tokens_chain [DecidableEq Thread] (config : AuthConfig) (requests : Thread → Request) :
    TokensChain config requests where
  singleUse current reachable := reachable.chronicle.singleUse
  answered current reachable := by
    refine ⟨fun thread ended => reachable.ended ended rfl, fun thread cookie dto operation ended => ?_⟩
    have returned := reachable.ended ended
    rw [operation] at returned
    exact returned

end Chains

end BankingBackend.Auth
