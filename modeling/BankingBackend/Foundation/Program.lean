import Mathlib.Logic.Function.Basic

/-! # Programs over a shared state

A program is a tree of requests to its environment. Each request is one atomic
step of the shared state, so interleaving the requests of several programs
gives every order in which concurrent calls can act.
-/

namespace BankingBackend.Foundation

/-- The requests a program may issue and the type of each one's answer. -/
structure Interface where
  Op : Type
  Answer : Op → Type

inductive Program (interface : Interface) (α : Type)
  | done (value : α)
  | call (op : interface.Op)
      (next : interface.Answer op → Program interface α)

namespace Program

variable {interface : Interface} {α β : Type}

protected def bind : Program interface α → (α → Program interface β) →
    Program interface β
  | .done value, next => next value
  | .call op rest, next => .call op fun answer => (rest answer).bind next

instance : Monad (Program interface) where
  pure := .done
  bind := Program.bind

@[simp] theorem pure_eq (value : α) :
    (pure value : Program interface α) = .done value := rfl

@[simp] theorem done_bind (value : α) (next : α → Program interface β) :
    (Program.done value >>= next) = next value := rfl

@[simp] theorem call_bind (op : interface.Op)
    (rest : interface.Answer op → Program interface α)
    (next : α → Program interface β) :
    (Program.call op rest >>= next) = .call op fun answer => rest answer >>= next := rfl

/-- The outcome of a program that may throw, as a value. -/
def attempt {Error : Type} (program : ExceptT Error (Program interface) α) :
    ExceptT Error (Program interface) (Except Error α) :=
  ExceptT.lift program.run

def finished : Program interface α → Bool
  | .done _ => true
  | .call _ _ => false

end Program

/-! ## Machines -/

/-- How the shared state answers a request of a thread. `Choice` is what the
step leaves open; no answer means that the request is blocked or that the choice
is not a possible one. `Event` is a step of the environment itself. -/
structure Machine (interface : Interface) (Thread Choice Event State : Type) where
  perform : Thread → (op : interface.Op) → Choice → State →
    Option (interface.Answer op × State)
  environment : Event → State → Option State

/-- The shared state, what remains of each thread's program and whether the
thread has taken its first step. -/
structure Configuration (interface : Interface) (Thread State α : Type) where
  shared : State
  program : Thread → Program interface α
  begun : Thread → Bool

inductive Action (Thread Choice Event : Type)
  | perform (thread : Thread) (choice : Choice)
  | environment (event : Event)

namespace Machine

variable {interface : Interface} {Thread Choice Event State α : Type}
  [DecidableEq Thread]

def step (machine : Machine interface Thread Choice Event State)
    (current : Configuration interface Thread State α) :
    Action Thread Choice Event → Option (Configuration interface Thread State α)
  | .perform thread choice =>
      match current.program thread with
      | .done _ => none
      | .call op next =>
          match machine.perform thread op choice current.shared with
          | none => none
          | some (answer, shared) => some
              { shared
                program := Function.update current.program thread (next answer)
                begun := Function.update current.begun thread true }
  | .environment event =>
      match machine.environment event current.shared with
      | none => none
      | some shared => some { current with shared }

theorem step_of_perform {machine : Machine interface Thread Choice Event State}
    {current : Configuration interface Thread State α} {thread : Thread} {choice : Choice}
    {op : interface.Op} {next : interface.Answer op → Program interface α}
    {answer : interface.Answer op} {shared : State}
    (program : current.program thread = .call op next)
    (performed : machine.perform thread op choice current.shared = some (answer, shared)) :
    machine.step current (.perform thread choice) = some
      { shared
        program := Function.update current.program thread (next answer)
        begun := Function.update current.begun thread true } := by
  simp only [step, program, performed]

theorem step_perform {machine : Machine interface Thread Choice Event State}
    {current following : Configuration interface Thread State α}
    {thread : Thread} {choice : Choice}
    (taken : machine.step current (.perform thread choice) = some following) :
    ∃ op next answer shared,
      current.program thread = .call op next ∧
      machine.perform thread op choice current.shared = some (answer, shared) ∧
      following =
        { shared
          program := Function.update current.program thread (next answer)
          begun := Function.update current.begun thread true } := by
  simp only [step] at taken
  split at taken
  · cases taken
  · rename_i op next program
    split at taken
    · cases taken
    · rename_i answer shared performed
      cases taken
      exact ⟨op, next, answer, shared, program, performed, rfl⟩

theorem step_environment {machine : Machine interface Thread Choice Event State}
    {current following : Configuration interface Thread State α} {event : Event}
    (taken : machine.step current (.environment event) = some following) :
    ∃ shared, machine.environment event current.shared = some shared ∧
      following = { current with shared } := by
  simp only [step] at taken
  split at taken
  · cases taken
  · rename_i shared happened
    cases taken
    exact ⟨shared, happened, rfl⟩

theorem step_other {machine : Machine interface Thread Choice Event State}
    {current following : Configuration interface Thread State α}
    {action : Action Thread Choice Event} {thread : Thread}
    (taken : machine.step current action = some following)
    (other : ∀ choice, action ≠ .perform thread choice) :
    following.program thread = current.program thread := by
  cases action with
  | environment event =>
      rcases step_environment taken with ⟨shared, _, rfl⟩
      rfl
  | perform acting choice =>
      have different : thread ≠ acting := fun equal => other choice (equal ▸ rfl)
      rcases step_perform taken with ⟨op, next, answer, shared, _, _, rfl⟩
      exact Function.update_of_ne different _ _

theorem not_step_done {machine : Machine interface Thread Choice Event State}
    {current following : Configuration interface Thread State α} {thread : Thread}
    {choice : Choice} {value : α} (ended : current.program thread = .done value)
    (taken : machine.step current (.perform thread choice) = some following) : False := by
  rcases step_perform taken with ⟨op, next, answer, shared, program, _, _⟩
  rw [ended] at program
  cases program

theorem step_done {machine : Machine interface Thread Choice Event State}
    {current following : Configuration interface Thread State α}
    {action : Action Thread Choice Event} {thread : Thread} {value : α}
    (taken : machine.step current action = some following)
    (ended : current.program thread = .done value) : following.program thread = .done value := by
  refine (step_other taken fun choice same => ?_).trans ended
  subst same
  exact not_step_done ended taken

end Machine

end BankingBackend.Foundation
