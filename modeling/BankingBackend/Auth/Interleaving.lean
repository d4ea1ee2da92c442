import BankingBackend.Auth.Calls

/-! # Every interleaving of the calls

The log of every reachable state consists of commits that the operations of their
calls make.
-/

namespace BankingBackend.Auth

open Foundation Users
open Postgres (Uuid DatabaseError)

section Runs

variable {Thread : Type} [DecidableEq Thread] {config : AuthConfig} {requests : Thread → Request}

structure Chronicle (config : AuthConfig) (requests : Thread → Request) (world : World Thread) :
    Prop where
  coherent : world.server.Coherent
  history : History config requests world.server.log
  past : ∀ commit ∈ world.server.log, commit.now ≤ world.now

omit [DecidableEq Thread] in
theorem History.tail {commit : Commit Thread} {older : List (Commit Thread)}
    (history : History config requests (commit :: older)) : History config requests older :=
  fun other rest part => history other rest (part.trans (List.suffix_cons _ _))

omit [DecidableEq Thread] in
theorem History.head {commit : Commit Thread} {older : List (Commit Thread)}
    (history : History config requests (commit :: older)) : Written config requests older commit :=
  history commit older (List.suffix_refl _)

omit [DecidableEq Thread] in
theorem History.cons {commit : Commit Thread} {older : List (Commit Thread)}
    (history : History config requests older) (written : Written config requests older commit) :
    History config requests (commit :: older) := by
  intro other rest part
  rcases List.suffix_cons_iff.mp part with same | part
  · cases same
    exact written
  · exact history other rest part

section Guarantees

variable {thread other : Thread} {before after : World Thread}

theorem Guarantee.later {operation : Operation} (different : thread ≠ other)
    (guarantee : Guarantee other config operation before after) : Later thread before after where
  coherent := guarantee.coherent
  now := guarantee.now.ge
  seen := guarantee.apart.seen thread different
  selected := guarantee.apart.selected thread different
  log := by
    rcases guarantee.grows with same | ⟨commit, log, mine, _⟩
    · exact ⟨[], same, fun _ absurd => by cases absurd⟩
    · refine ⟨[commit], log, fun commit member => ?_⟩
      rw [List.mem_singleton.mp member, mine]
      exact Ne.symm different

theorem Guarantee.rely {operation : Operation} (different : thread ≠ other)
    (guarantee : Guarantee other config operation before after) : Rely thread before after := by
  intro alive
  rw [guarantee.crashed] at alive
  exact ⟨guarantee.later different, alive, guarantee.apart.open_ thread different⟩

theorem Chronicle.keeps (chronicle : Chronicle config requests before)
    (guarantee : Guarantee thread config (requests thread).operation before after) :
    Chronicle config requests after := by
  refine ⟨guarantee.coherent chronicle.coherent, ?_, ?_⟩
  · rcases guarantee.grows with same | ⟨commit, log, mine, now, since, shape⟩
    · rw [same]
      exact chronicle.history
    · rw [log]
      refine chronicle.history.cons ⟨mine ▸ shape, since, fun earlier member => ?_⟩
      rw [now]
      exact chronicle.past earlier member
  · intro commit member
    rw [guarantee.now]
    rcases guarantee.grows with same | ⟨new, log, _, now, _, _⟩
    · exact chronicle.past commit (same ▸ member)
    · rw [log] at member
      rcases List.mem_cons.mp member with rfl | older
      · exact now.le
      · exact chronicle.past commit older

theorem Rely.refl (thread : Thread) (world : World Thread) : Rely thread world world :=
  fun alive => ⟨⟨id, le_rfl, rfl, rfl, [], rfl, fun _ absurd => by cases absurd⟩, alive, rfl⟩

theorem Later.trans {first second third : World Thread} (left : Later thread first second)
    (right : Later thread second third) : Later thread first third where
  coherent coherent := right.coherent (left.coherent coherent)
  now := left.now.trans right.now
  seen := right.seen.trans left.seen
  selected := right.selected.trans left.selected
  log := by
    rcases left.log with ⟨newer, log, others⟩
    rcases right.log with ⟨newest, grown, others'⟩
    refine ⟨newest ++ newer, by rw [grown, log, List.append_assoc], fun commit member => ?_⟩
    exact (List.mem_append.mp member).elim (others' commit) (others commit)

theorem Rely.trans {first second third : World Thread} (left : Rely thread first second)
    (right : Rely thread second third) : Rely thread first third := by
  intro alive
  have right := right alive
  have left := left right.alive
  exact ⟨left.toLater.trans right.toLater, left.alive, right.open_.trans left.open_⟩

theorem lasting_ends {operation : Operation} {result : CallResult} :
    Lasting thread (Ends thread (Returned config operation thread) result) := by
  intro before after later coherent ends
  cases result with
  | error error => exact fun same => later.uncommitted (ends same)
  | ok response =>
      cases operation with
      | refresh cookie =>
          cases response with
          | tokens dto => exact lasting_exchanged before after later coherent ends
          | _ => exact True.intro
      | _ => exact True.intro

def Fresh (thread : Thread) (world : World Thread) : Prop :=
  world.server.open_ thread = none ∧ Uncommitted thread world

theorem environment_relies {event : Occurrence Thread}
    (happened : World.environment event before = some after) :
    (before.server.Coherent → after.server.Coherent) ∧ after.server.log = before.server.log ∧
      before.now ≤ after.now ∧ ∀ thread, Rely thread before after ∧ Later thread before after ∧
        (before.server.open_ thread = none → after.server.open_ thread = none) := by
  cases event with
  | tick now =>
      simp only [World.environment, Option.ite_none_right_eq_some, Option.some.injEq] at happened
      rcases happened with ⟨forward, rfl⟩
      have later (thread : Thread) : Later thread before { before with now } :=
        ⟨id, forward, rfl, rfl, [], rfl, fun _ absurd => by cases absurd⟩
      exact ⟨id, rfl, forward, fun thread => ⟨fun alive => ⟨later thread, alive, rfl⟩,
        later thread, id⟩⟩
  | crash crashed =>
      cases happened
      have coherent : before.server.Coherent → (before.server.rollback crashed).Coherent :=
        fun coherent => coherent.rollback crashed
      have later (thread : Thread) : Later thread before
          { before with
            server := before.server.rollback crashed
            crashed := Function.update before.crashed crashed true } :=
        ⟨coherent, le_rfl, rfl, rfl, [], rfl, fun _ absurd => by cases absurd⟩
      refine ⟨coherent, rfl, le_rfl, fun thread => ⟨fun alive => ?_, later thread, fun closed => ?_⟩⟩
      · have different : thread ≠ crashed := by
          rintro rfl
          simp at alive
        simp only [Function.update_of_ne different] at alive
        exact ⟨later thread, alive, Function.update_of_ne different _ _⟩
      · show Function.update before.server.open_ crashed none thread = none
        by_cases same : thread = crashed
        · rw [same, Function.update_self]
        · rw [Function.update_of_ne same, closed]

end Guarantees

def discipline (config : AuthConfig) (requests : Thread → Request) :
    Discipline (machine Thread config) CallResult where
  start thread := (handle config (requests thread)).run
  allowed := Unrestricted
  invariant := Chronicle config requests
  rely thread := Rely thread
  guarantee thread := Guarantee thread config (requests thread).operation
  ready := Fresh
  post thread := Ends thread (Returned config (requests thread).operation thread)
  rely_refl := Rely.refl
  rely_trans _ _ _ _ := Rely.trans
  begins chronicle fresh := meets_handle _ ⟨chronicle.coherent, fresh.1⟩ fresh.2
  keeps chronicle guarantee := chronicle.keeps guarantee
  interference different _ _ _ _ _ guarantee := guarantee.rely different
  ready_stable different _ guarantee fresh :=
    ⟨(guarantee.apart.open_ _ different).trans fresh.1,
      (guarantee.later different).uncommitted fresh.2⟩
  post_stable different chronicle guarantee ends :=
    lasting_ends _ _ (guarantee.later different) chronicle.coherent ends
  environment _ chronicle happened := by
    rcases environment_relies happened with ⟨coherent, log, now, threads⟩
    refine ⟨⟨coherent chronicle.coherent, log ▸ chronicle.history, fun commit member => ?_⟩,
      fun thread => ⟨(threads thread).1, fun fresh => ?_, fun result ends => ?_⟩⟩
    · exact (chronicle.past commit (log ▸ member)).trans now
    · exact ⟨(threads thread).2.2 fresh.1, (threads thread).2.1.uncommitted fresh.2⟩
    · exact lasting_ends _ _ (threads thread).2.1 chronicle.coherent ends

theorem initial_sound (now : ℕ) :
    (discipline config requests).Sound (initial config requests now) := by
  refine ⟨⟨.initial, ?_, fun _ absurd => by cases absurd⟩, fun thread => .waiting rfl rfl ?_⟩
  · intro commit older part
    exact absurd (List.suffix_nil.mp part) (by simp)
  · exact ⟨rfl, fun _ absurd => by cases absurd⟩

variable {allowed : Configuration Thread → Label Thread → Prop} {current : Configuration Thread}

theorem Reachable.sound (reachable : Reachable config requests allowed current) :
    (discipline config requests).Sound current := by
  rcases reachable with ⟨now, run⟩
  exact (initial_sound now).run run.unrestricted

theorem Reachable.chronicle (reachable : Reachable config requests allowed current) :
    Chronicle config requests current.shared := reachable.sound.1

theorem Reachable.ended {thread : Thread} {result : CallResult}
    (reachable : Reachable config requests allowed current)
    (ended : current.program thread = .done result) :
    Ends thread (Returned config (requests thread).operation thread) result current.shared :=
  reachable.sound.post ended

/-! ## Conditions on the commits -/

/-- Every step that commits meets the condition, given the log it adds to. -/
def Committing (config : AuthConfig)
    (condition : List (Commit Thread) → Commit Thread → Prop) (current : Configuration Thread)
    (label : Label Thread) : Prop :=
  ∀ following commit, step config current label = some following →
    following.shared.server.log = commit :: current.shared.server.log →
    condition current.shared.server.log commit

theorem Reachable.step_log {following : Configuration Thread} {label : Label Thread}
    (reachable : Reachable config requests allowed current)
    (taken : step config current label = some following) :
    following.shared.server.log = current.shared.server.log ∨
      ∃ commit, following.shared.server.log = commit :: current.shared.server.log := by
  cases label with
  | environment event =>
      rcases Machine.step_environment taken with ⟨shared, happened, rfl⟩
      exact .inl (environment_relies happened).2.1
  | perform thread choice =>
      rcases (reachable.sound.acts taken).1.grows with same | ⟨commit, log, _⟩
      · exact .inl same
      · exact .inr ⟨commit, log⟩

theorem Reachable.conditions {condition : List (Commit Thread) → Commit Thread → Prop}
    (reachable : Reachable config requests (Committing config condition) current) :
    ∀ commit older, commit :: older <:+ current.shared.server.log → condition older commit := by
  rcases reachable with ⟨now, run⟩
  induction run with
  | start => exact fun commit older part => absurd (List.suffix_nil.mp part) (by simp)
  | next label run allows taken induction =>
      intro commit older part
      rcases Reachable.step_log ⟨now, run⟩ taken with same | ⟨new, log⟩
      · exact induction commit older (same ▸ part)
      · rw [log] at part
        rcases List.suffix_cons_iff.mp part with same | part
        · cases same
          exact allows _ _ taken log
        · exact induction commit older part

end Runs

end BankingBackend.Auth
