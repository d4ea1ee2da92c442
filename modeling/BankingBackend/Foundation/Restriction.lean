import BankingBackend.Foundation.RelyGuarantee

/-! # Restrictions

Programs that issue only some requests keep whatever these requests keep, and a
machine restricted to some of its answers has the steps that use no others.
-/

namespace BankingBackend.Foundation

/-! ## Programs limited to some requests -/

namespace Program

variable {interface : Interface} {α β Error : Type} {permits : interface.Op → Prop}

def Only (permits : interface.Op → Prop) : Program interface α → Prop
  | .done _ => True
  | .call op next => permits op ∧ ∀ answer, (next answer).Only permits

theorem only_bind {program : Program interface α} {next : α → Program interface β}
    (first : program.Only permits) (rest : ∀ value, (next value).Only permits) :
    (program >>= next).Only permits := by
  induction program with
  | done value => exact rest value
  | call op following induction => exact ⟨first.1, fun answer => induction answer (first.2 answer)⟩

theorem Only.mono {program : Program interface α} {weaker : interface.Op → Prop}
    (only : program.Only permits) (implies : ∀ op, permits op → weaker op) :
    program.Only weaker := by
  induction program with
  | done value => trivial
  | call op next induction => exact ⟨implies op only.1, fun answer => induction answer (only.2 answer)⟩

/-- Every value the program can return satisfies `post`. -/
def Yields (post : α → Prop) : Program interface α → Prop
  | .done value => post value
  | .call _ next => ∀ answer, (next answer).Yields post

theorem yields_trivial (program : Program interface α) : program.Yields fun _ => True := by
  induction program with
  | done value => trivial
  | call op next induction => exact induction

theorem Yields.mono {program : Program interface α} {post weaker : α → Prop}
    (yields : program.Yields post) (implies : ∀ value, post value → weaker value) :
    program.Yields weaker := by
  induction program with
  | done value => exact implies value yields
  | call op next induction => exact fun answer => induction answer (yields answer)

theorem Yields.bind {program : Program interface α} {next : α → Program interface β}
    {post : α → Prop} {further : β → Prop} (yields : program.Yields post)
    (rest : ∀ value, post value → (next value).Yields further) :
    (program >>= next).Yields further := by
  induction program with
  | done value => exact rest value yields
  | call op following induction => exact fun answer => induction answer (yields answer)

theorem Only.bind_yields {program : Program interface α} {next : α → Program interface β}
    {post : α → Prop} (first : program.Only permits) (yields : program.Yields post)
    (rest : ∀ value, post value → (next value).Only permits) :
    (program >>= next).Only permits := by
  induction program with
  | done value => exact rest value yields
  | call op following induction =>
      exact ⟨first.1, fun answer => induction answer (first.2 answer) (yields answer)⟩

/-- `Only` for a program that may throw. -/
def Issues (permits : interface.Op → Prop) (program : ExceptT Error (Program interface) α) :
    Prop := Only permits program.run

variable {program : ExceptT Error (Program interface) α}

theorem issues_pure (value : α) :
    Issues permits (pure value : ExceptT Error (Program interface) α) := trivial

theorem issues_throw (error : Error) :
    Issues permits (throw error : ExceptT Error (Program interface) α) := trivial

theorem Issues.bind {next : α → ExceptT Error (Program interface) β}
    (first : Issues permits program) (rest : ∀ value, Issues permits (next value)) :
    Issues permits (program >>= next) := by
  unfold Issues
  rw [ExceptT.run_bind]
  refine only_bind first fun result => ?_
  cases result with
  | ok value => exact rest value
  | error error => trivial

theorem Issues.tryCatch {handler : Error → ExceptT Error (Program interface) α}
    (first : Issues permits program) (rest : ∀ error, Issues permits (handler error)) :
    Issues permits (tryCatch program handler) := by
  refine only_bind first fun result => ?_
  cases result with
  | ok value => trivial
  | error error => exact rest error

theorem Issues.attempt (issues : Issues permits program) :
    Issues permits (Program.attempt program) :=
  only_bind issues fun _ => trivial

/-- `Yields` for a program that may throw. -/
def Gives (post : α → Prop) (program : ExceptT Error (Program interface) α) : Prop :=
  Yields (fun result => ∀ value, result = .ok value → post value) program.run

theorem gives_pure {post : α → Prop} {value : α} (holds : post value) :
    Gives post (pure value : ExceptT Error (Program interface) α) := by
  rintro _ ⟨⟩
  exact holds

theorem gives_throw {post : α → Prop} (error : Error) :
    Gives post (throw error : ExceptT Error (Program interface) α) := by
  rintro _ ⟨⟩

theorem Gives.bind_gives {post : α → Prop} {further : β → Prop}
    {next : α → ExceptT Error (Program interface) β} (gives : Gives post program)
    (rest : ∀ value, post value → Gives further (next value)) : Gives further (program >>= next) := by
  unfold Gives
  rw [ExceptT.run_bind]
  refine Yields.bind gives fun result holds => ?_
  cases result with
  | ok value => exact rest value (holds value rfl)
  | error error => rintro _ ⟨⟩

theorem Gives.bind {post : β → Prop} {next : α → ExceptT Error (Program interface) β}
    (rest : ∀ value, Gives post (next value)) : Gives post (program >>= next) := by
  have gives : Gives (fun _ => True) program :=
    (yields_trivial _).mono fun _ _ _ _ => trivial
  exact gives.bind_gives fun value _ => rest value

theorem Gives.tryCatch {post : α → Prop} {handler : Error → ExceptT Error (Program interface) α}
    (first : Gives post program) (rest : ∀ error, Gives post (handler error)) :
    Gives post (tryCatch program handler) := by
  refine Yields.bind first fun result holds => ?_
  cases result with
  | ok value => exact holds
  | error error => exact rest error

theorem Issues.bind_gives {post : α → Prop} {next : α → ExceptT Error (Program interface) β}
    (first : Issues permits program) (gives : Gives post program)
    (rest : ∀ value, post value → Issues permits (next value)) :
    Issues permits (program >>= next) := by
  unfold Issues
  rw [ExceptT.run_bind]
  refine Only.bind_yields first gives fun result holds => ?_
  cases result with
  | ok value => exact rest value (holds value rfl)
  | error error => trivial

end Program

/-! ## Invariants of limited programs -/

section Ensures

variable {interface : Interface} {Choice State α : Type}
  {perform restricted : (op : interface.Op) → Choice → State →
    Option (interface.Answer op × State)}
  {rely otherRely guarantee otherGuarantee : State → State → Prop}
  {post otherPost : α → State → Prop} {program : Program interface α} {state : State}

/-- What interference and every permitted request keep holds at the end. -/
theorem Program.Only.ensures {permits : interface.Op → Prop} {holds : State → Prop}
    (only : program.Only permits)
    (stable : ∀ before after, rely before after → holds before → holds after)
    (steps : ∀ op, permits op → ∀ choice before answer after, holds before →
      perform op choice before = some (answer, after) → guarantee before after ∧ holds after)
    (initially : holds state) :
    Ensures perform rely guarantee (fun _ => holds) program state := by
  induction program generalizing state with
  | done value => exact initially
  | call op next induction =>
      intro before interference choice answer after performed
      have step := steps op only.1 choice before answer after
        (stable _ _ interference initially) performed
      exact ⟨step.1, induction answer (only.2 answer) step.2⟩

theorem Ensures.weaken (ensures : Ensures perform rely guarantee post program state)
    (answers : ∀ op choice state answer, restricted op choice state = some answer →
      perform op choice state = some answer)
    (relies : ∀ before after, otherRely before after → rely before after)
    (guarantees : ∀ before after, guarantee before after → otherGuarantee before after)
    (posts : ∀ value final, post value final → otherPost value final) :
    Ensures restricted otherRely otherGuarantee otherPost program state := by
  induction program generalizing state with
  | done value => exact posts value state ensures
  | call op next induction =>
      intro before interference choice answer after performed
      have step := ensures before (relies _ _ interference) choice answer after
        (answers op choice before _ performed)
      exact ⟨guarantees _ _ step.1, induction answer step.2⟩

theorem Ensures.both (first : Ensures perform rely guarantee post program state)
    (second : Ensures perform otherRely otherGuarantee otherPost program state) :
    Ensures perform (fun before after => rely before after ∧ otherRely before after)
      (fun before after => guarantee before after ∧ otherGuarantee before after)
      (fun value final => post value final ∧ otherPost value final) program state := by
  induction program generalizing state with
  | done value => exact ⟨first, second⟩
  | call op next induction =>
      intro before interference choice answer after performed
      have firstStep := first before interference.1 choice answer after performed
      have secondStep := second before interference.2 choice answer after performed
      exact ⟨⟨firstStep.1, secondStep.1⟩, induction answer firstStep.2 secondStep.2⟩

end Ensures

/-! ## Restricted machines -/

namespace Machine

variable {interface : Interface} {Thread Choice Event State α : Type}

open Classical in
noncomputable def restrict (machine : Machine interface Thread Choice Event State)
    (permits : Thread → interface.Op → Choice → State → Prop) :
    Machine interface Thread Choice Event State where
  perform thread op choice state :=
    if permits thread op choice state then machine.perform thread op choice state else none
  environment := machine.environment

variable {machine : Machine interface Thread Choice Event State}
  {permits : Thread → interface.Op → Choice → State → Prop}

theorem restrict_perform {thread : Thread} {op : interface.Op} {choice : Choice} {state : State}
    {answer : interface.Answer op × State}
    (performed : (machine.restrict permits).perform thread op choice state = some answer) :
    permits thread op choice state ∧ machine.perform thread op choice state = some answer := by
  simp only [restrict] at performed
  split at performed
  · rename_i permitted
    exact ⟨permitted, performed⟩
  · cases performed

variable [DecidableEq Thread]

theorem restrict_step {current following : Configuration interface Thread State α}
    {action : Action Thread Choice Event} (taken : machine.step current action = some following)
    (permitted : ∀ thread choice op next, action = .perform thread choice →
      current.program thread = .call op next → permits thread op choice current.shared) :
    (machine.restrict permits).step current action = some following := by
  cases action with
  | environment event => exact taken
  | perform thread choice =>
      rcases step_perform taken with ⟨op, next, answer, shared, program, performed, rfl⟩
      have allowed := permitted thread choice op next rfl program
      simp only [step, program, restrict, if_pos allowed, performed]

theorem only_step {permitted : Thread → interface.Op → Prop}
    {current following : Configuration interface Thread State α}
    {action : Action Thread Choice Event} (taken : machine.step current action = some following)
    (only : ∀ thread, (current.program thread).Only (permitted thread)) (thread : Thread) :
    (following.program thread).Only (permitted thread) := by
  cases action with
  | environment event =>
      rcases step_environment taken with ⟨shared, _, rfl⟩
      exact only thread
  | perform acting choice =>
      rcases step_perform taken with ⟨op, next, answer, shared, program, _, rfl⟩
      by_cases same : thread = acting
      · subst same
        have issued := only thread
        rw [program] at issued
        simpa using issued.2 answer
      · simpa [same] using only thread

theorem yields_step {current following : Configuration interface Thread State α}
    {action : Action Thread Choice Event} (taken : machine.step current action = some following)
    {thread : Thread} {post : α → Prop} (yields : (current.program thread).Yields post) :
    (following.program thread).Yields post := by
  by_cases acts : ∃ choice, action = .perform thread choice
  · rcases acts with ⟨choice, rfl⟩
    rcases step_perform taken with ⟨op, next, answer, shared, program, _, rfl⟩
    rw [program] at yields
    simpa using yields answer
  · rw [step_other taken fun choice same => acts ⟨choice, same⟩]
    exact yields

end Machine

end BankingBackend.Foundation
