import BankingBackend.Auth.Progress

/-! # Tracking a call

The track of a call in every interleaving with the others.
-/

namespace BankingBackend.Auth

open Foundation
open Postgres (Uuid DatabaseError)

/-! ## What a track tells of the system -/

section Mirrors

variable {Thread : Type} [DecidableEq Thread]

def Effectless (harmless : Commit Thread → Prop) (thread : Thread) (log : List (Commit Thread)) :
    Prop :=
  ∀ commit ∈ log, commit.thread = thread → harmless commit

structure Tells (harmless : Commit Thread → Prop) (thread : Thread) (track : Track)
    (world : World Thread) : Prop where
  pending : world.crashed thread = true ∨ track.pending = world.server.pending thread
  written : ∀ event ∈ track.written, event ∈ world.server.events
  effectless : track.effective = false → Effectless harmless thread world.server.log

def Command.fallible : Command → Bool
  | .query _ | .signAsync _ => true
  | _ => false

/-- If the request fails, what the thread has committed by then is harmless. -/
def FailsHarmlessly (config : AuthConfig) (harmless : Commit Thread → Prop) (thread : Thread)
    (command : Command) (choice : Choice) (world : World Thread) : Prop :=
  command.fallible = true → choice.failure.isSome = true → ∀ answer after,
    world.perform config thread command choice = some (answer, after) →
      Effectless harmless thread after.server.log

variable {config : AuthConfig} {harmless : Commit Thread → Prop} {thread other : Thread}
  {before after : World Thread} {command : Command} {choice : Choice} {answer : command.Answer}

theorem Performs.events {now : ℕ} {newId : Uuid} {server after : Server Thread}
    {statement : Statement} {answer : Except DatabaseError statement.Result}
    (performs : Performs thread now newId server statement answer after) :
    ∃ more, after.events = server.events ++ more := by
  cases performs with
  | answered executes => exact ⟨_, executes.progress.2⟩
  | failed error thrown fails =>
      cases fails with
      | kept same => exact ⟨[], by rw [same, List.append_nil]⟩
      | ended ends result => exact ⟨[], by rw [result, List.append_nil]; rfl⟩
      | executed answer executes => exact ⟨_, executes.progress.2⟩

theorem Performs.newer {now : ℕ} {newId : Uuid} {server after : Server Thread}
    {statement : Statement} {answer : Except DatabaseError statement.Result}
    (performs : Performs thread now newId server statement answer after) :
    ∃ newer, after.log = newer ++ server.log ∧ ∀ commit ∈ newer, commit.thread = thread := by
  cases performs.logs with
  | same log => exact ⟨[], log, by rintro _ ⟨⟩⟩
  | commits transaction ends opened result =>
      refine ⟨[_], by rw [result]; rfl, fun commit member => ?_⟩
      rw [List.mem_singleton.mp member]
  | writes change base written closed writes result =>
      refine ⟨[_], by rw [result, ← writes.log]; rfl, fun commit member => ?_⟩
      rw [List.mem_singleton.mp member]

omit [DecidableEq Thread] in
theorem Effectless.grows {log newer : List (Commit Thread)}
    (effectless : Effectless harmless thread log)
    (others : ∀ commit ∈ newer, commit.thread ≠ thread) :
    Effectless harmless thread (newer ++ log) := by
  intro commit member mine
  rcases List.mem_append.mp member with newer | older
  · exact absurd mine (others commit newer)
  · exact effectless commit older mine

theorem Tells.executes {track : Track} {newId : Uuid} {server : Server Thread}
    {statement : Statement} {reply : Except DatabaseError statement.Result}
    (tells : Tells harmless thread track before) (alive : before.crashed thread = false)
    (executes : Executes thread before.now newId before.server statement reply server) :
    Tells harmless thread (track.answered statement) { before with server } := by
  have open_ : track.pending = before.server.pending thread := by
    rcases tells.pending with crashed | open_
    · rw [alive] at crashed
      cases crashed
    · exact open_
  have progress := executes.progress
  refine ⟨.inr ?_, fun event member => ?_, fun quiet => ?_⟩
  · rw [progress.1, ← open_]
    rfl
  · show event ∈ server.events
    rw [progress.2, ← open_]
    rcases List.mem_append.mp member with earlier | new
    · exact List.mem_append_left _ (tells.written event earlier)
    · exact List.mem_append_right _ new
  · have effectless : track.effective = false ∧ statement.commits track.pending = false :=
      Bool.or_eq_false_iff.mp quiet
    show Effectless harmless thread server.log
    cases executes.logs with
    | same log =>
        rw [log]
        exact tells.effectless effectless.1
    | commits transaction ends opened result =>
        subst ends
        rw [open_, Server.pending, opened] at effectless
        cases effectless.2
    | writes change base written closed writes result =>
        rw [open_, Server.pending, closed] at effectless
        have commits : statement.commits none = true := Statement.writes_of_change written
        rw [Option.map_none, commits] at effectless
        cases effectless.2

theorem Tells.acts {track : Track} (tells : Tells harmless thread track before)
    (permits : progress.permits track command)
    (harmlessly : FailsHarmlessly config harmless thread command choice before)
    (performed : before.perform config thread command choice = some (answer, after)) :
    ∃ following, track.Moves command answer following ∧ Tells harmless thread following after := by
  have fails (fallible : command.fallible = true) (failed : choice.failure.isSome = true) :
      Effectless harmless thread after.server.log := harmlessly fallible failed answer after performed
  unfold World.perform at performed
  split at performed
  · cases performed
  · rename_i running
    have alive : before.crashed thread = false := by simpa using running
    cases command with
    | date =>
        cases performed
        exact ⟨track, rfl, tells⟩
    | bcryptHash password =>
        cases performed
        exact ⟨track, rfl, tells⟩
    | randomBytes =>
        cases performed
        exact ⟨track, rfl, tells⟩
    | signAsync sub =>
        cases failed : choice.failure with
        | none =>
            rw [failed] at performed
            cases performed
            exact ⟨track, rfl, tells⟩
        | some failure =>
            have effectless := fails rfl (by rw [failed]; rfl)
            rw [failed] at performed
            cases performed
            exact ⟨{ track with effective := false }, rfl, tells.pending, tells.written,
              fun _ => effectless⟩
    | query statement =>
        rcases Option.map_eq_some_iff.mp performed with ⟨⟨reply, server⟩, done, equal⟩
        cases equal
        cases failed : choice.failure with
        | none =>
            rw [failed] at done
            have executes := execute_executes done
            cases answer with
            | ok value => exact ⟨_, rfl, tells.executes alive executes⟩
            | error error =>
                cases executes with
                | refused _ _ refusable =>
                    exact ⟨{ track with effective := false }, rfl, tells.pending, tells.written,
                      fun _ => tells.effectless (permits statement rfl refusable)⟩
        | some failure =>
            have effectless := fails rfl (by rw [failed]; rfl)
            rw [failed] at done
            cases done
            exact ⟨{ pending := Server.pending _ thread }, rfl, .inr rfl, by rintro _ ⟨⟩,
              fun _ => effectless⟩

theorem Tells.others {track : Track} (tells : Tells harmless thread track before)
    (different : thread ≠ other)
    (performed : before.perform config other command choice = some (answer, after)) :
    Tells harmless thread track after := by
  unfold World.perform at performed
  split at performed
  · cases performed
  · cases command with
    | query statement =>
        rcases Option.map_eq_some_iff.mp performed with ⟨⟨reply, server⟩, done, equal⟩
        cases equal
        have performs := perform_performs done
        rcases performs.events with ⟨more, events⟩
        refine ⟨tells.pending.imp_right fun same => ?_, fun event member => ?_, fun quiet => ?_⟩
        · rw [same, Server.pending, Server.pending, performs.apart.open_ thread different]
        · show event ∈ server.events
          rw [events]
          exact List.mem_append_left more (tells.written event member)
        · have effectless := tells.effectless quiet
          show Effectless harmless thread server.log
          rcases performs.newer with ⟨newer, log, mine⟩
          rw [log]
          exact effectless.grows fun commit member => mine commit member ▸ Ne.symm different
    | date =>
        cases performed
        exact tells
    | bcryptHash password =>
        cases performed
        exact tells
    | randomBytes =>
        cases performed
        exact tells
    | signAsync sub =>
        cases performed
        exact tells

theorem Tells.environment {track : Track} {event : Occurrence Thread}
    (tells : Tells harmless thread track before)
    (happened : World.environment event before = some after) :
    Tells harmless thread track after := by
  cases event with
  | tick now =>
      rcases Option.ite_none_right_eq_some.mp happened with ⟨_, same⟩
      cases same
      exact ⟨tells.pending, tells.written, tells.effectless⟩
  | crash crashed =>
      cases happened
      refine ⟨?_, tells.written, tells.effectless⟩
      by_cases same : thread = crashed
      · exact .inl (by rw [same]; exact Function.update_self _ _ _)
      · refine tells.pending.imp (fun earlier => ?_) fun open_ => ?_
        · show Function.update before.crashed crashed true thread = true
          rw [Function.update_of_ne same, earlier]
        · rw [open_, Server.pending, Server.pending]
          exact congrArg _ (Function.update_of_ne same _ _).symm

/-- The failures of the thread leave only harmless commits of it. -/
theorem mirrors_progress (config : AuthConfig) (harmless : Commit Thread → Prop)
    (thread : Thread) :
    Monitor.Mirrors progress
      ((machine Thread config).restrict fun acting command choice world =>
        acting = thread → FailsHarmlessly config harmless thread command choice world)
      thread (fun _ _ => True) (Tells harmless thread) where
  acts tells permits _ performed :=
    have restricted := Machine.restrict_perform performed
    tells.acts permits (restricted.1 rfl) restricted.2
  others different tells performed := tells.others different (Machine.restrict_perform performed).2
  environment tells happened := tells.environment happened

end Mirrors

/-! ## Runs -/

section Runs

variable {Thread : Type} [DecidableEq Thread] {config : AuthConfig} {requests : Thread → Request}
  {harmless : Commit Thread → Prop} {thread : Thread} {current : Configuration Thread}

/-- A step in which a request of the thread fails leaves only harmless commits of it. -/
def HarmlessFailure (config : AuthConfig) (harmless : Commit Thread → Prop) (thread : Thread)
    (current : Configuration Thread) (label : Label Thread) : Prop :=
  ∀ choice command next, label = .perform thread choice →
    current.program thread = .call command next → command.fallible = true →
    choice.failure.isSome = true → ∀ following, step config current label = some following →
      Effectless harmless thread following.shared.server.log

theorem Reachable.stops {allowed : Configuration Thread → Label Thread → Prop}
    (reachable : Reachable config requests allowed current)
    (critical : (requests thread).operation.critical = true)
    (fails : ∀ between label, allowed between label →
      HarmlessFailure config harmless thread between label)
    {result : CallResult} (ended : current.program thread = .done result) :
    ∃ track, Tells harmless thread track current.shared ∧
      Stops (fun _ => Wrote (requests thread)) result track := by
  rcases reachable with ⟨now, run⟩
  have tracked : Monitor.Tracked progress (Tells harmless thread)
      (Stops fun _ => Wrote (requests thread)) thread current := by
    clear ended
    induction run with
    | start =>
        refine ⟨{}, ⟨.inr rfl, by rintro _ ⟨⟩, fun _ => by rintro _ ⟨⟩⟩, ?_⟩
        exact obeys_handle config (requests thread) critical
    | next label run allows taken induction =>
        refine induction.step (mirrors_progress config harmless thread) (fun _ _ => True.intro)
          (Machine.restrict_step taken ?_)
        rintro acting choice command next rfl program rfl fallible failed answer after performed
        exact fails _ _ allows choice command next rfl program fallible failed _
          (Machine.step_of_perform program performed)
  rcases tracked with ⟨track, tells, follows⟩
  rw [ended] at follows
  exact ⟨track, tells, follows⟩

end Runs

end BankingBackend.Auth
