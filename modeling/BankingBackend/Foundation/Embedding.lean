import BankingBackend.Foundation.Monitor

/-! # Programs within programs

A program over two environments may run a program over the first one as a part of
itself. What the whole does to the first environment is then what the part does.
-/

namespace BankingBackend.Foundation

def Interface.sum (inner outer : Interface) : Interface where
  Op := inner.Op ⊕ outer.Op
  Answer
    | .inl op => inner.Answer op
    | .inr op => outer.Answer op

namespace Program

variable {inner outer : Interface} {α β γ : Type}

def lift : Program inner α → Program (inner.sum outer) α
  | .done value => .done value
  | .call op next => .call (.inl op) fun answer => (next answer).lift

/-- The requests to the first environment are those of the part, in its order. `permits` says
which requests may be made of the second one at what point of the part. -/
def Embeds (permits : Program inner α → outer.Op → Prop) (post : β → Program inner α → Prop) :
    Program (inner.sum outer) β → Program inner α → Prop
  | .done value, part => post value part
  | .call (.inl op) next, part => ∃ rest : inner.Answer op → Program inner α,
      part = .call op rest ∧ ∀ answer, (next answer).Embeds permits post (rest answer)
  | .call (.inr op) next, part => permits part op ∧
      ∀ answer, (next answer).Embeds permits post part

variable {permits : Program inner α → outer.Op → Prop} {post weaker : β → Program inner α → Prop}
  {program : Program (inner.sum outer) β} {part : Program inner α}

theorem Embeds.bind {next : β → Program (inner.sum outer) γ} {post : γ → Program inner α → Prop}
    {middle : β → Program inner α → Prop} (first : program.Embeds permits middle part)
    (continues : ∀ value rest, middle value rest → (next value).Embeds permits post rest) :
    (program >>= next).Embeds permits post part := by
  induction program generalizing part with
  | done value => exact continues value part first
  | call op following induction =>
      cases op with
      | inl op =>
          rcases first with ⟨rest, rfl, embeds⟩
          exact ⟨rest, rfl, fun answer => induction answer (embeds answer)⟩
      | inr op => exact ⟨first.1, fun answer => induction answer (first.2 answer)⟩

theorem Embeds.mono (embeds : program.Embeds permits post part)
    (implies : ∀ value rest, post value rest → weaker value rest) :
    program.Embeds permits weaker part := by
  induction program generalizing part with
  | done value => exact implies value part embeds
  | call op next induction =>
      cases op with
      | inl op =>
          rcases embeds with ⟨rest, rfl, embeds⟩
          exact ⟨rest, rfl, fun answer => induction answer (embeds answer)⟩
      | inr op => exact ⟨embeds.1, fun answer => induction answer (embeds.2 answer)⟩

theorem embeds_lift (part : Program inner α) :
    (part.lift : Program (inner.sum outer) α).Embeds permits (fun value rest => rest = .done value)
      part := by
  induction part with
  | done value => rfl
  | call op next induction => exact ⟨next, rfl, induction⟩

end Program

/-! ## Monitors -/

namespace Monitor

variable {inner outer : Interface} {Track Whole α : Type} {monitor : Monitor inner Track}
  {whole : Monitor (inner.sum outer) Whole} {post : α → Track → Prop} {part : Program inner α}

/-- A monitor of the part is followed within one of the whole that allows no other answers. -/
theorem Follows.lift {relates : Whole → Track → Prop} {track : Track} {state : Whole}
    (follows : monitor.Follows post part track) (related : relates state track)
    (permits : ∀ {state track op}, relates state track → monitor.permits track op →
      whole.permits state (.inl op))
    (moves : ∀ {state track op answer following}, relates state track →
      whole.moves state (.inl op) answer following →
      ∃ next, monitor.moves track op answer next ∧ relates following next) :
    whole.Follows (fun value final => ∃ last, relates final last ∧ post value last)
      part.lift state := by
  induction part generalizing track state with
  | done value => exact ⟨track, related, follows⟩
  | call op next induction =>
      refine ⟨permits related follows.1, fun answer following moved => ?_⟩
      rcases moves related moved with ⟨later, moves, relatedLater⟩
      exact induction answer (follows.2 answer later moves) relatedLater

end Monitor

/-! ## Machines -/

section Machines

variable {inner outer : Interface} {Thread Choice Event Occurrence State Whole α β : Type}
  [DecidableEq Thread]

/-- The state of one machine is a part of the state of another, which only the requests to the
first environment change, and as that machine does. -/
structure Projects (whole : Machine (inner.sum outer) Thread Choice Occurrence Whole)
    (machine : Machine inner Thread Choice Event State) (project : Whole → State) : Prop where
  acts : ∀ {thread op choice before answer after},
    whole.perform thread (.inl op) choice before = some (answer, after) →
    machine.perform thread op choice (project before) = some (answer, project after)
  others : ∀ {thread op choice before answer after},
    whole.perform thread (.inr op) choice before = some (answer, after) →
    project after = project before
  environment : ∀ {event before after}, whole.environment event before = some after →
    project after = project before ∨
      ∃ occurred, machine.environment occurred (project before) = some (project after)

structure Simulates (permits : Thread → Program inner α → outer.Op → Prop)
    (post : Thread → β → Program inner α → Prop) (project : Whole → State)
    (current : Configuration (inner.sum outer) Thread Whole β)
    (parts : Configuration inner Thread State α) : Prop where
  shared : parts.shared = project current.shared
  embeds : ∀ thread, (current.program thread).Embeds (permits thread) (post thread)
    (parts.program thread)

variable {whole : Machine (inner.sum outer) Thread Choice Occurrence Whole}
  {machine : Machine inner Thread Choice Event State} {project : Whole → State}
  {permits : Thread → Program inner α → outer.Op → Prop}
  {post : Thread → β → Program inner α → Prop}
  {current following : Configuration (inner.sum outer) Thread Whole β}
  {parts : Configuration inner Thread State α}

theorem Simulates.step (simulates : Simulates permits post project current parts)
    (projects : Projects whole machine project) {action : Action Thread Choice Occurrence}
    (taken : whole.step current action = some following) :
    ∃ next, Simulates permits post project following next ∧
      (next = parts ∨ ∃ acted, machine.step parts acted = some next) := by
  cases action with
  | environment event =>
      rcases Machine.step_environment taken with ⟨shared, happened, rfl⟩
      rcases projects.environment happened with same | ⟨occurred, happens⟩
      · exact ⟨parts, ⟨simulates.shared.trans same.symm, simulates.embeds⟩, .inl rfl⟩
      · rw [← simulates.shared] at happens
        refine ⟨{ parts with shared := project shared }, ⟨rfl, simulates.embeds⟩,
          .inr ⟨.environment occurred, ?_⟩⟩
        simp only [Machine.step, happens]
  | perform thread choice =>
      rcases Machine.step_perform taken with ⟨op, next, answer, shared, program, performed, rfl⟩
      have embeds := simulates.embeds thread
      rw [program] at embeds
      cases op with
      | inl op =>
          rcases embeds with ⟨rest, part, embeds⟩
          have acted := projects.acts performed
          rw [← simulates.shared] at acted
          refine ⟨_, ⟨rfl, fun other => ?_⟩,
            .inr ⟨.perform thread choice, Machine.step_of_perform part acted⟩⟩
          by_cases same : other = thread
          · subst same
            simpa using embeds answer
          · simpa [same] using simulates.embeds other
      | inr op =>
          refine ⟨parts, ⟨simulates.shared.trans (projects.others performed).symm, fun other => ?_⟩,
            .inl rfl⟩
          by_cases same : other = thread
          · subst same
            simpa using embeds.2 answer
          · simpa [same] using simulates.embeds other

/-- Every run of the whole is one of the parts. -/
theorem Simulates.run (simulates : Simulates permits post project current parts)
    (projects : Projects whole machine project)
    {allowed : Configuration (inner.sum outer) Thread Whole β →
      Action Thread Choice Occurrence → Prop}
    (run : Run whole.step allowed current following) :
    ∃ final, Simulates permits post project following final ∧
      Run machine.step Unrestricted parts final := by
  refine run.invariant (fun between => ∃ final, Simulates permits post project between final ∧
    Run machine.step Unrestricted parts final) ⟨parts, simulates, .start⟩ ?_
  rintro between action next ⟨final, simulates, run⟩ _ taken
  rcases simulates.step projects taken with ⟨later, follows, same | ⟨acted, steps⟩⟩
  · exact ⟨final, same ▸ follows, run⟩
  · exact ⟨later, follows, .next acted run trivial steps⟩

end Machines

end BankingBackend.Foundation
