import BankingBackend.Foundation.Program
import BankingBackend.Foundation.Transition

/-! # A thread alone

What a program can do when no other thread takes a step, and the run of a machine
in which one thread takes all the steps of its program.
-/

namespace BankingBackend.Foundation

section Executes

variable {interface : Interface} {Choice State α β : Type}
  (perform : (op : interface.Op) → Choice → State → Option (interface.Answer op × State))
  (permitted : interface.Op → Choice → Prop)

inductive Executes : Program interface α → State → α → State → Prop
  | done (value : α) (state : State) : Executes (.done value) state value state
  | call {op : interface.Op} {next : interface.Answer op → Program interface α}
      {state between final : State} {answer : interface.Answer op} {value : α} (choice : Choice)
      (permits : permitted op choice)
      (performed : perform op choice state = some (answer, between))
      (rest : Executes (next answer) between value final) :
      Executes (.call op next) state value final

variable {perform permitted} {state between final : State}

theorem Executes.bind {program : Program interface α} {next : α → Program interface β} {value : α}
    {result : β} (first : Executes perform permitted program state value between)
    (second : Executes perform permitted (next value) between result final) :
    Executes perform permitted (program >>= next) state result final := by
  induction first with
  | done => exact second
  | call choice permits performed _ induction =>
      exact .call choice permits performed (induction second)

/-! ## Programs that may fail -/

variable {Error : Type}

def ExecutesResult (perform : (op : interface.Op) → Choice → State →
      Option (interface.Answer op × State)) (permitted : interface.Op → Choice → Prop)
    (program : ExceptT Error (Program interface) α) (state : State) (result : Except Error α)
    (final : State) : Prop :=
  Executes perform permitted program.run state result final

variable {program : ExceptT Error (Program interface) α}
  {next : α → ExceptT Error (Program interface) β}

theorem ExecutesResult.pure (value : α) (state : State) :
    ExecutesResult perform permitted (pure value : ExceptT Error (Program interface) α) state
      (.ok value) state := .done _ _

theorem ExecutesResult.throw (error : Error) (state : State) :
    ExecutesResult perform permitted (throw error : ExceptT Error (Program interface) α) state
      (.error error) state := .done _ _

theorem ExecutesResult.bind {value : α} {result : Except Error β}
    (first : ExecutesResult perform permitted program state (.ok value) between)
    (second : ExecutesResult perform permitted (next value) between result final) :
    ExecutesResult perform permitted (program >>= next) state result final := by
  unfold ExecutesResult
  rw [ExceptT.run_bind]
  exact Executes.bind first second

theorem ExecutesResult.bind_error {error : Error}
    (first : ExecutesResult perform permitted program state (.error error) final) :
    ExecutesResult perform permitted (program >>= next) state (.error error) final := by
  unfold ExecutesResult
  rw [ExceptT.run_bind]
  exact Executes.bind first (.done _ _)

theorem ExecutesResult.attempt {next : Except Error α → ExceptT Error (Program interface) β}
    {outcome : Except Error α} {result : Except Error β}
    (first : ExecutesResult perform permitted program state outcome between)
    (second : ExecutesResult perform permitted (next outcome) between result final) :
    ExecutesResult perform permitted (Program.attempt program >>= next) state result final := by
  have unfolded : (Program.attempt program).run =
      program.run >>= fun result => .done (.ok result) := rfl
  unfold ExecutesResult
  rw [ExceptT.run_bind, unfolded]
  have succeeded : Executes perform permitted (program.run >>= fun result => .done (.ok result))
      state (.ok outcome : Except Error (Except Error α)) between := Executes.bind first (.done _ _)
  exact succeeded.bind second

end Executes

/-! ## Runs of a machine -/

section Runs

variable {interface : Interface} {Thread Choice Event State α : Type} [DecidableEq Thread]
  {machine : Machine interface Thread Choice Event State}
  {allowed : Configuration interface Thread State α → Action Thread Choice Event → Prop}
  {permitted : interface.Op → Choice → Prop}

/-- What the other threads have left to do is as before. -/
def Aside (thread : Thread) (before after : Configuration interface Thread State α) : Prop :=
  ∀ other, other ≠ thread → after.program other = before.program other

/-- A thread that takes all the steps of its program. -/
theorem Executes.run {current : Configuration interface Thread State α} {thread : Thread}
    {value : α} {final : State}
    (executes : Executes (machine.perform thread) permitted (current.program thread)
      current.shared value final)
    (allows : ∀ between op next choice, between.program thread = .call op next →
      permitted op choice → allowed between (.perform thread choice)) :
    ∃ ended, Run machine.step allowed current ended ∧ ended.shared = final ∧
      ended.program thread = .done value ∧ Aside thread current ended := by
  generalize shape : current.program thread = program at executes
  generalize shared : current.shared = state at executes
  induction executes generalizing current with
  | done => exact ⟨current, .start, shared, shape, fun _ _ => rfl⟩
  | @call op next state between final answer value choice permits performed _ induction =>
      obtain ⟨following, taken, remains, reached, aside⟩ : ∃ following,
          machine.step current (.perform thread choice) = some following ∧
          following.program thread = next answer ∧ following.shared = between ∧
          Aside thread current following := by
        refine ⟨_, Machine.step_of_perform shape ?_, Function.update_self _ _ _, rfl,
          fun _ different => Function.update_of_ne different _ _⟩
        rwa [shared]
      rcases induction remains reached with ⟨ended, run, final, finished, further⟩
      have first : Run machine.step allowed current following :=
        .next (.perform thread choice) .start (allows current op next choice shape permits) taken
      exact ⟨ended, first.trans run, final, finished, fun other different =>
        (further other different).trans (aside other different)⟩

end Runs

end BankingBackend.Foundation
