import BankingBackend.Foundation.Program
import BankingBackend.Foundation.Transition

/-! # Rely and guarantee reasoning

`Ensures` is the precondition under which a program, whatever the other threads
do within `rely`, makes only steps within `guarantee` and ends in `post`. A
`Discipline` collects what must be checked of each thread on its own; `sound`
turns it into an invariant of every interleaving.
-/

namespace BankingBackend.Foundation

/-! ## Preconditions of programs -/

section Ensures

variable {interface : Interface} {Choice State α β : Type}
  (perform : (op : interface.Op) → Choice → State →
    Option (interface.Answer op × State))
  (rely guarantee : State → State → Prop)

/-- Before each request the state may change within `rely`. -/
def Ensures (post : α → State → Prop) : Program interface α → State → Prop
  | .done value, state => post value state
  | .call op next, state => ∀ before, rely state before →
      ∀ choice answer after, perform op choice before = some (answer, after) →
        guarantee before after ∧ Ensures post (next answer) after

variable {perform rely guarantee} {post weaker : α → State → Prop}
  {program : Program interface α} {state : State}

@[simp] theorem ensures_done (value : α) :
    Ensures perform rely guarantee post (.done value : Program interface α) state ↔
      post value state := Iff.rfl

theorem ensures_call {op : interface.Op}
    {next : interface.Answer op → Program interface α} :
    Ensures perform rely guarantee post (.call op next) state ↔
      ∀ before, rely state before →
        ∀ choice answer after, perform op choice before = some (answer, after) →
          guarantee before after ∧
            Ensures perform rely guarantee post (next answer) after := Iff.rfl

theorem Ensures.mono (holds : Ensures perform rely guarantee post program state)
    (implies : ∀ value final, post value final → weaker value final) :
    Ensures perform rely guarantee weaker program state := by
  induction program generalizing state with
  | done value => exact implies value state holds
  | call op next induction =>
      intro before interference choice answer after performed
      have step := holds before interference choice answer after performed
      exact ⟨step.1, induction answer step.2⟩

theorem ensures_bind {next : α → Program interface β}
    {post : β → State → Prop} :
    Ensures perform rely guarantee post (program >>= next) state ↔
      Ensures perform rely guarantee
        (fun value => Ensures perform rely guarantee post (next value)) program state := by
  induction program generalizing state with
  | done value => exact Iff.rfl
  | call op rest induction =>
      simp only [Program.call_bind, ensures_call, induction]

/-- Interference before the next request is absorbed by its own `rely` step. -/
theorem Ensures.interfere (holds : Ensures perform rely guarantee post program state)
    (transitive : ∀ first second third,
      rely first second → rely second third → rely first third)
    (unfinished : program.finished = false) {before : State}
    (interference : rely state before) :
    Ensures perform rely guarantee post program before := by
  cases program with
  | done value => cases unfinished
  | call op next =>
      intro later further
      exact holds later (transitive _ _ _ interference further)

end Ensures

/-! ## Programs that may fail -/

section Fallible

variable {interface : Interface} {Choice State Error α β : Type}
  {perform : (op : interface.Op) → Choice → State →
    Option (interface.Answer op × State)}
  {rely guarantee : State → State → Prop}
  {state : State}

/-- `Ensures` for a program whose value is a result or a thrown error. -/
def EnsuresResult (perform : (op : interface.Op) → Choice → State →
      Option (interface.Answer op × State))
    (rely guarantee : State → State → Prop)
    (program : ExceptT Error (Program interface) α)
    (post : Except Error α → State → Prop) (state : State) : Prop :=
  Ensures perform rely guarantee post program.run state

variable {post : Except Error α → State → Prop}
  {program : ExceptT Error (Program interface) α}

theorem EnsuresResult.mono {weaker : Except Error α → State → Prop}
    (holds : EnsuresResult perform rely guarantee program post state)
    (implies : ∀ result final, post result final → weaker result final) :
    EnsuresResult perform rely guarantee program weaker state :=
  Ensures.mono holds implies

theorem EnsuresResult.pure {value : α} (holds : post (.ok value) state) :
    EnsuresResult perform rely guarantee
      (pure value : ExceptT Error (Program interface) α) post state := holds

theorem EnsuresResult.throw {error : Error} (holds : post (.error error) state) :
    EnsuresResult perform rely guarantee
      (throw error : ExceptT Error (Program interface) α) post state := holds

theorem EnsuresResult.check {failure : Prop} [Decidable failure] {error : Error}
    {post : Except Error Unit → State → Prop}
    (throws : failure → post (.error error) state) (passes : ¬failure → post (.ok ()) state) :
    EnsuresResult perform rely guarantee
      (if failure then MonadExcept.throw error else Pure.pure () :
        ExceptT Error (Program interface) Unit) post state := by
  by_cases fails : failure
  · rw [if_pos fails]
    exact .throw (throws fails)
  · rw [if_neg fails]
    exact .pure (passes fails)

theorem EnsuresResult.bind {next : α → ExceptT Error (Program interface) β}
    {middle : Except Error α → State → Prop} {post : Except Error β → State → Prop}
    (first : EnsuresResult perform rely guarantee program middle state)
    (fails : ∀ error final, middle (.error error) final → post (.error error) final)
    (continues : ∀ value between, middle (.ok value) between →
      EnsuresResult perform rely guarantee (next value) post between) :
    EnsuresResult perform rely guarantee (program >>= next) post state := by
  unfold EnsuresResult
  rw [ExceptT.run_bind, ensures_bind]
  refine Ensures.mono first fun result between holds => ?_
  cases result with
  | ok value => exact continues value between holds
  | error error => exact fails error between holds

theorem EnsuresResult.map {convert : α → β} {middle : Except Error α → State → Prop}
    {post : Except Error β → State → Prop}
    (first : EnsuresResult perform rely guarantee program middle state)
    (fails : ∀ error final, middle (.error error) final → post (.error error) final)
    (succeeds : ∀ value final, middle (.ok value) final → post (.ok (convert value)) final) :
    EnsuresResult perform rely guarantee (convert <$> program) post state := by
  have unfolded : (convert <$> program).run =
      program.run >>= fun result => match result with
        | .ok value => .done (.ok (convert value))
        | .error error => .done (.error error) := rfl
  unfold EnsuresResult
  rw [unfolded, ensures_bind]
  refine Ensures.mono first fun result final holds => ?_
  cases result with
  | ok value => exact succeeds value final holds
  | error error => exact fails error final holds

theorem EnsuresResult.tryCatch {handler : Error → ExceptT Error (Program interface) α}
    {middle : Except Error α → State → Prop}
    (first : EnsuresResult perform rely guarantee program middle state)
    (succeeds : ∀ value final, middle (.ok value) final → post (.ok value) final)
    (handles : ∀ error between, middle (.error error) between →
      EnsuresResult perform rely guarantee (handler error) post between) :
    EnsuresResult perform rely guarantee (tryCatch program handler) post state := by
  have unfolded : (MonadExcept.tryCatch program handler).run =
      program.run >>= fun result => match result with
        | .ok value => .done (.ok value)
        | .error error => (handler error).run := rfl
  unfold EnsuresResult
  rw [unfolded, ensures_bind]
  refine Ensures.mono first fun result between holds => ?_
  cases result with
  | ok value => exact succeeds value between holds
  | error error => exact handles error between holds

theorem EnsuresResult.attempt {next : Except Error α → ExceptT Error (Program interface) β}
    {middle : Except Error α → State → Prop} {post : Except Error β → State → Prop}
    (first : EnsuresResult perform rely guarantee program middle state)
    (continues : ∀ outcome between, middle outcome between →
      EnsuresResult perform rely guarantee (next outcome) post between) :
    EnsuresResult perform rely guarantee (Program.attempt program >>= next) post state := by
  have unfolded : (Program.attempt program).run =
      program.run >>= fun result => .done (.ok result) := rfl
  unfold EnsuresResult
  rw [ExceptT.run_bind, unfolded, ensures_bind, ensures_bind]
  exact Ensures.mono first continues

def Answers (stage : α → State → Prop) : Except Error α → State → Prop
  | .ok answer, final => stage answer final
  | .error _, _ => False

theorem EnsuresResult.answers {next : α → ExceptT Error (Program interface) β}
    {post : Except Error β → State → Prop} (stage : α → State → Prop)
    (asked : EnsuresResult perform rely guarantee program (Answers stage) state)
    (continues : ∀ answer between, stage answer between →
      EnsuresResult perform rely guarantee (next answer) post between) :
    EnsuresResult perform rely guarantee (program >>= next) post state :=
  .bind asked (fun _ _ absurd => absurd.elim) continues

theorem EnsuresResult.request {op : interface.Op} {stage : interface.Answer op → State → Prop}
    (steps : ∀ before, rely state before → ∀ choice answer after,
      perform op choice before = some (answer, after) →
        guarantee before after ∧ stage answer after) :
    EnsuresResult perform rely guarantee
      (ExceptT.lift (.call op .done) : ExceptT Error (Program interface) (interface.Answer op))
      (Answers stage) state := steps

end Fallible

/-! ## Interleavings -/

/-- What each thread relies on and guarantees, and why these fit together.
`ready` is what a thread that has not begun needs of the state, `post` what its
end establishes. `allowed` restricts the runs the discipline speaks about. -/
structure Discipline {interface : Interface} {Thread Choice Event State : Type}
    (machine : Machine interface Thread Choice Event State) (α : Type)
    [DecidableEq Thread] where
  start : Thread → Program interface α
  allowed : Configuration interface Thread State α →
    Action Thread Choice Event → Prop
  invariant : State → Prop
  rely : Thread → State → State → Prop
  guarantee : Thread → State → State → Prop
  ready : Thread → State → Prop
  post : Thread → α → State → Prop
  rely_refl : ∀ thread state, rely thread state state
  rely_trans : ∀ thread first second third, rely thread first second →
    rely thread second third → rely thread first third
  begins : ∀ {thread state}, invariant state → ready thread state →
    Ensures (machine.perform thread) (rely thread) (guarantee thread) (post thread)
      (start thread) state
  keeps : ∀ {thread before after}, invariant before →
    guarantee thread before after → invariant after
  interference : ∀ {current thread other choice after}, thread ≠ other →
    allowed current (.perform other choice) →
    (current.program other).finished = false →
    current.begun thread = true → (current.program thread).finished = false →
    invariant current.shared → guarantee other current.shared after →
    rely thread current.shared after
  ready_stable : ∀ {thread other before after}, thread ≠ other →
    invariant before → guarantee other before after →
    ready thread before → ready thread after
  post_stable : ∀ {thread other value before after}, thread ≠ other →
    invariant before → guarantee other before after →
    post thread value before → post thread value after
  environment : ∀ {current event after}, allowed current (.environment event) →
    invariant current.shared →
    machine.environment event current.shared = some after →
    invariant after ∧ ∀ thread, rely thread current.shared after ∧
      (ready thread current.shared → ready thread after) ∧
      ∀ value, post thread value current.shared → post thread value after

namespace Discipline

variable {interface : Interface} {Thread Choice Event State α : Type}
  [DecidableEq Thread] {machine : Machine interface Thread Choice Event State}
  (discipline : Discipline machine α)

inductive Holds (current : Configuration interface Thread State α)
    (thread : Thread) : Prop
  | waiting (notBegun : current.begun thread = false)
      (program : current.program thread = discipline.start thread)
      (ready : discipline.ready thread current.shared)
  | running (begun : current.begun thread = true)
      (ensures : Ensures (machine.perform thread) (discipline.rely thread)
        (discipline.guarantee thread) (discipline.post thread)
        (current.program thread) current.shared)

/-- The invariant of a configuration: the shared invariant, and every thread
holds what its program needs. -/
def Sound (current : Configuration interface Thread State α) : Prop :=
  discipline.invariant current.shared ∧ ∀ thread, discipline.Holds current thread

variable {discipline} {current following : Configuration interface Thread State α}

theorem Holds.ensures (invariant : discipline.invariant current.shared)
    {thread : Thread} (holds : discipline.Holds current thread) :
    Ensures (machine.perform thread) (discipline.rely thread)
      (discipline.guarantee thread) (discipline.post thread)
      (current.program thread) current.shared := by
  cases holds with
  | waiting _ program ready =>
      rw [program]
      exact discipline.begins invariant ready
  | running _ ensures => exact ensures

/-- The acting thread's step stays within its guarantee and leaves it with what
the rest of its program needs. -/
theorem Sound.acts (sound : discipline.Sound current) {thread : Thread}
    {choice : Choice} (taken : machine.step current (.perform thread choice) = some following) :
    discipline.guarantee thread current.shared following.shared ∧
      discipline.Holds following thread := by
  rcases Machine.step_perform taken with
    ⟨op, next, answer, shared, program, performed, rfl⟩
  have ensures := (sound.2 thread).ensures sound.1
  rw [program, ensures_call] at ensures
  have step := ensures current.shared (discipline.rely_refl thread _)
    choice answer shared performed
  refine ⟨step.1, .running (by simp) ?_⟩
  simpa using step.2

theorem Sound.others (sound : discipline.Sound current) {thread other : Thread}
    {choice : Choice} (different : thread ≠ other)
    (permitted : discipline.allowed current (.perform other choice))
    (taken : machine.step current (.perform other choice) = some following) :
    discipline.Holds following thread := by
  have acted := (sound.acts taken).1
  rcases Machine.step_perform taken with
    ⟨op, next, answer, shared, otherProgram, performed, rfl⟩
  have sameProgram : Function.update current.program other (next answer) thread =
      current.program thread := Function.update_of_ne different _ _
  have sameBegun : Function.update current.begun other true thread =
      current.begun thread := Function.update_of_ne different _ _
  cases sound.2 thread with
  | waiting notBegun program ready =>
      exact .waiting (sameBegun.trans notBegun) (sameProgram.trans program)
        (discipline.ready_stable different sound.1 acted ready)
  | running begun ensures =>
      refine .running (sameBegun.trans begun) ?_
      simp only [sameProgram]
      cases finished : (current.program thread).finished with
      | false =>
          have otherUnfinished : (current.program other).finished = false := by
            rw [otherProgram]
            rfl
          exact ensures.interfere (discipline.rely_trans thread) finished
            (discipline.interference different permitted otherUnfinished begun finished
              sound.1 acted)
      | true =>
          cases ended : current.program thread with
          | done value =>
              rw [ended] at ensures
              exact discipline.post_stable different sound.1 acted ensures
          | call op next =>
              rw [ended] at finished
              cases finished

theorem Sound.environment (sound : discipline.Sound current) {event : Event}
    (permitted : discipline.allowed current (.environment event))
    (taken : machine.step current (.environment event) = some following) :
    discipline.Sound following := by
  rcases Machine.step_environment taken with ⟨shared, happened, rfl⟩
  have changed := discipline.environment permitted sound.1 happened
  refine ⟨changed.1, fun thread => ?_⟩
  have kept := changed.2 thread
  cases sound.2 thread with
  | waiting notBegun program ready =>
      exact .waiting notBegun program (kept.2.1 ready)
  | running begun ensures =>
      refine .running begun ?_
      cases ended : current.program thread with
      | done value =>
          rw [ended] at ensures
          exact kept.2.2 value ensures
      | call op next =>
          rw [ended] at ensures
          exact ensures.interfere (discipline.rely_trans thread) rfl kept.1

theorem Sound.step (sound : discipline.Sound current)
    {action : Action Thread Choice Event}
    (permitted : discipline.allowed current action)
    (taken : machine.step current action = some following) :
    discipline.Sound following := by
  cases action with
  | environment event => exact sound.environment permitted taken
  | perform other choice =>
      have acted := sound.acts taken
      refine ⟨discipline.keeps sound.1 acted.1, fun thread => ?_⟩
      by_cases same : thread = other
      · exact same ▸ acted.2
      · exact sound.others same permitted taken

/-- Every interleaving keeps every thread's obligations. -/
theorem Sound.run {start final : Configuration interface Thread State α}
    (sound : discipline.Sound start)
    (run : Run machine.step discipline.allowed start final) :
    discipline.Sound final :=
  run.invariant _ sound fun _ _ _ holds permitted taken => holds.step permitted taken

theorem Sound.post (sound : discipline.Sound current) {thread : Thread} {value : α}
    (ended : current.program thread = .done value) :
    discipline.post thread value current.shared := by
  have ensures := (sound.2 thread).ensures sound.1
  rw [ended] at ensures
  exact ensures

end Discipline

end BankingBackend.Foundation
