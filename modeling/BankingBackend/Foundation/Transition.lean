import Mathlib.Logic.Basic

/-! # Runs of labelled transition systems

A transition system is an executable partial step function. `allowed` restricts
the steps a run may take, so that a law which holds only under a condition on
each step is stated over the same runs as one that holds unconditionally.
-/

namespace BankingBackend.Foundation

/-- The states reached from `start` by steps that each satisfy `allowed` in the
state in which they are taken. -/
inductive Run {State Label : Type*} (step : State → Label → Option State)
    (allowed : State → Label → Prop) (start : State) : State → Prop
  | start : Run step allowed start start
  | next {current following : State} (label : Label) :
      Run step allowed start current →
      allowed current label →
      step current label = some following →
      Run step allowed start following

def Unrestricted {State Label : Type*} (_ : State) (_ : Label) : Prop := True

namespace Run

variable {State Label : Type*} {step : State → Label → Option State}
  {allowed permitted : State → Label → Prop} {start middle final : State}

/-- What holds initially and is kept by every allowed step holds in every state
reached. -/
theorem invariant (run : Run step allowed start final) (Property : State → Prop)
    (initially : Property start)
    (preserved : ∀ current label following, Property current →
      allowed current label → step current label = some following →
      Property following) : Property final := by
  induction run with
  | start => exact initially
  | next label _ permitted taken induction =>
      exact preserved _ label _ induction permitted taken

theorem mono (run : Run step allowed start final)
    (weaker : ∀ current label, allowed current label → permitted current label) :
    Run step permitted start final := by
  induction run with
  | start => exact .start
  | next label _ permits taken induction =>
      exact .next label induction (weaker _ label permits) taken

theorem unrestricted (run : Run step allowed start final) :
    Run step Unrestricted start final :=
  run.mono fun _ _ _ => trivial

theorem trans (first : Run step allowed start middle)
    (second : Run step allowed middle final) : Run step allowed start final := by
  induction second with
  | start => exact first
  | next label _ permits taken induction => exact .next label induction permits taken

end Run

/-! ## Executing a run -/

/-- Executed runs number the three, four or six participants. -/
instance instNeZeroThree : @NeZero Nat Zero.ofOfNat0 3 := ⟨Nat.succ_ne_zero 2⟩

instance instNeZeroFour : @NeZero Nat Zero.ofOfNat0 4 := ⟨Nat.succ_ne_zero 3⟩

instance instNeZeroSix : @NeZero Nat Zero.ofOfNat0 6 := ⟨Nat.succ_ne_zero 5⟩

section Execution

variable {State Label : Type*} (step : State → Label → Option State)
  (check : State → Label → Bool)

/-- Take the labelled steps in order, checking each one first. -/
def execute : State → List Label → Option State
  | state, [] => some state
  | state, label :: labels =>
      if check state label then
        match step state label with
        | some following => execute following labels
        | none => none
      else none

theorem run_of_execute {allowed : State → Label → Prop}
    (sound : ∀ state label, check state label = true → allowed state label) :
    ∀ {start final : State} {labels : List Label},
      execute step check start labels = some final → Run step allowed start final
  | start, final, [], executed => by
      cases executed
      exact .start
  | start, final, label :: labels, executed => by
      rw [execute] at executed
      split at executed
      · rename_i checked
        split at executed
        · rename_i following taken
          have first : Run step allowed start following :=
            .next label .start (sound start label checked) taken
          exact first.trans (run_of_execute sound executed)
        · cases executed
      · cases executed

theorem exists_run_of_execute (allowed : State → Label → Prop)
    (sound : ∀ state label, check state label = true → allowed state label) {start : State}
    {labels : List Label} {test : State → Bool}
    (executed : (execute step check start labels).any test = true) :
    ∃ final, Run step allowed start final ∧ test final = true := by
  rcases (Option.any_eq_true _ _).mp executed with ⟨final, ended, passed⟩
  exact ⟨final, run_of_execute step check sound ended, passed⟩

end Execution

end BankingBackend.Foundation
