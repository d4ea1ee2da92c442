import BankingBackend.Http.Grips

/-! # The fence of the transfer lock

A release takes a lock away only if the store has the token under which the request
itself has taken it, whatever has expired or failed.
-/

namespace BankingBackend.Http

open Foundation Postgres Redis Common Fraud Transactions Transactions.Controller

theorem userLock_taken {Thread : Type} {thread : Thread} {command : KeyCommand} {choice : Choice}
    {store after : KeyStore Thread} {answer : command.Answer} {userId token : Uuid}
    (performed : performKey thread command choice store = some (answer, after))
    (present : store.userLock userId = some token) (taken : after.userLock userId ≠ some token) :
    command = .unlock userId token ∧ after.userLock userId = none := by
  have unchanged (same : after.userLock = store.userLock) :
      command = .unlock userId token ∧ after.userLock userId = none :=
    absurd ((congrFun same userId).trans present) taken
  cases command with
  | isReady =>
      cases performed
      exact unchanged rfl
  | get key | del key | setDone key =>
      unfold performKey evaluated at performed
      cases outcome : choice.redis <;> simp only [outcome] at performed <;> cases performed <;>
        exact unchanged rfl
  | setNX key =>
      unfold performKey evaluated KeyStore.setNX at performed
      cases stored : store.idempotency key <;> cases outcome : choice.redis <;>
        simp only [stored, outcome] at performed <;> cases performed <;> exact unchanged rfl
  | randomUUID =>
      unfold performKey at performed
      cases fresh : store.drawn choice.newId <;> simp only [fresh] at performed <;>
        cases performed
      exact unchanged rfl
  | lockNX named held =>
      have kept : (store.lockNX named held).2.userLock userId = some token := by
        unfold KeyStore.lockNX
        cases stored : store.userLock named with
        | some other => exact present
        | none =>
            have distinct : userId ≠ named := by
              rintro rfl
              cases present.symm.trans stored
            rw [KeyStore.userLock_setLock, if_neg distinct, present]
      unfold performKey evaluated at performed
      cases outcome : choice.redis <;> simp only [outcome] at performed <;> cases performed
      · exact absurd kept taken
      · exact absurd kept taken
      · exact unchanged rfl
  | unlock named held =>
      have released (removed : (store.unlock named held).userLock userId ≠ some token) :
          KeyCommand.unlock named held = .unlock userId token ∧
            (store.unlock named held).userLock userId = none := by
        unfold KeyStore.unlock at removed ⊢
        split at removed
        · rename_i stored
          rw [KeyStore.userLock_setLock] at removed
          split at removed
          · rename_i same
            subst same
            cases present.symm.trans stored
            rw [if_pos stored, KeyStore.userLock_setLock, if_pos rfl]
            exact ⟨rfl, rfl⟩
          · exact absurd present removed
        · exact absurd present removed
      unfold performKey evaluated at performed
      cases outcome : choice.redis <;> simp only [outcome] at performed <;> cases performed
      · exact released taken
      · exact released taken
      · exact unchanged rfl

section Runs

variable {Thread : Type} [DecidableEq Thread] [Fintype Thread]

structure FencedRelease (config : FraudConfig) (incoming : Thread → Incoming) : Prop where
  /-- A request releases the lock of its user under a token that it has drawn. -/
  own : ∀ current, Attained config incoming Unrestricted current → ∀ thread userId token next,
    current.program thread = .call (.inr (.unlock userId token)) next →
    current.shared.keys.drawn token = some thread
  /-- Whoever takes a stored lock away has drawn its token. -/
  fenced : ∀ current, Attained config incoming Unrestricted current →
    ∀ thread choice following, siteStep current (.perform thread choice) = some following →
    ∀ userId token, current.shared.keys.userLock userId = some token →
      following.shared.keys.userLock userId ≠ some token →
      current.shared.keys.drawn token = some thread ∧ following.shared.keys.userLock userId = none ∧
        ∃ next, current.program thread = .call (.inr (.unlock userId token)) next

theorem fenced_release (config : FraudConfig) (incoming : Thread → Incoming) :
    FencedRelease config incoming := by
  have draws : ∀ current, Attained config incoming Unrestricted current →
      ∀ thread userId token next,
      current.program thread = .call (.inr (.unlock userId token)) next →
      current.shared.keys.drawn token = some thread := by
    intro current attained thread userId token next program
    have unfocused : ∀ (between : SiteConfiguration Thread) thread choice op next,
        Unrestricted between (.perform thread choice : SiteLabel Thread) →
        between.program thread = .call op next →
        Retained incoming (fun _ => False) thread op choice between.shared :=
      fun _ _ _ _ _ _ _ _ _ known => known.elim
    rcases attained.grips unfocused thread with ⟨grip, grips, follows⟩
    rw [program] at follows
    exact grips.drawn token follows.1.1
  refine ⟨draws, ?_⟩
  intro current attained thread choice following taken userId token present lost
  rcases Machine.step_perform taken with ⟨op, next, answer, shared, program, performed, rfl⟩
  cases op with
  | inl command =>
      rcases Option.map_eq_some_iff.mp performed with ⟨⟨reply, world⟩, _, equal⟩
      cases equal
      exact absurd present lost
  | inr command =>
      rcases Option.map_eq_some_iff.mp performed with ⟨⟨reply, keys⟩, done, equal⟩
      cases equal
      rcases userLock_taken done present lost with ⟨rfl, absent⟩
      exact ⟨draws current attained thread userId token next program, absent, next, program⟩

end Runs

end BankingBackend.Http
