import Mathlib.Logic.Relation
import Mathlib.Order.Basic

/-! # Waiting for held resources

Agents hold resources and wait for others. If each agent takes resources in an order
that one acyclic relation has for all, no agents wait for each other in a circle.
-/

namespace BankingBackend.Foundation

section WaitFor

variable {Agent Resource : Type*} (holds awaits : Agent → Resource → Prop)

def WaitsFor (agent other : Agent) : Prop :=
  agent ≠ other ∧ ∃ resource, awaits agent resource ∧ holds other resource

/-- No path along the relation comes back to where it starts. -/
def Acyclic {α : Type*} (relation : α → α → Prop) : Prop :=
  ∀ start, ¬Relation.TransGen relation start start

variable {holds awaits} {precedes : Resource → Resource → Prop}

/-- What the last agent of a path holds follows what the first one awaits. -/
theorem WaitsFor.precedes_of_path
    (exclusive : ∀ agent other resource, holds agent resource → holds other resource →
      agent = other)
    (ordered : ∀ agent held awaited, holds agent held → awaits agent awaited →
      held ≠ awaited → precedes held awaited)
    {agent other : Agent} (path : Relation.TransGen (WaitsFor holds awaits) agent other) :
    ∃ awaited held, awaits agent awaited ∧ (∃ owner, owner ≠ agent ∧ holds owner awaited) ∧
      holds other held ∧ (awaited = held ∨ Relation.TransGen precedes awaited held) := by
  induction path with
  | single waits =>
      rcases waits with ⟨different, resource, awaited, held⟩
      exact ⟨resource, resource, awaited, ⟨_, different.symm, held⟩, held, .inl rfl⟩
  | tail _ waits induction =>
      rcases induction with ⟨awaited, held, awaits, owned, holding, before⟩
      rcases waits with ⟨different, resource, middleAwaits, holdsResource⟩
      refine ⟨awaited, resource, awaits, owned, holdsResource, .inr ?_⟩
      have moved : held ≠ resource := by
        rintro rfl
        exact different (exclusive _ _ _ holding holdsResource)
      have next : precedes held resource := ordered _ _ _ holding middleAwaits moved
      rcases before with rfl | before
      · exact .single next
      · exact before.tail next

/-- Resources taken in one order are never waited for in a circle. -/
theorem WaitsFor.acyclic
    (exclusive : ∀ agent other resource, holds agent resource → holds other resource →
      agent = other)
    (ordered : ∀ agent held awaited, holds agent held → awaits agent awaited →
      held ≠ awaited → precedes held awaited)
    (order : Acyclic precedes) : Acyclic (WaitsFor holds awaits) := by
  intro agent circle
  rcases precedes_of_path exclusive ordered circle with
    ⟨awaited, held, awaits, ⟨owner, other, owned⟩, holding, before⟩
  have moved : held ≠ awaited := by
    rintro rfl
    exact other (exclusive _ _ _ owned holding)
  have next : precedes held awaited := ordered _ _ _ holding awaits moved
  rcases before with rfl | before
  · exact moved rfl
  · exact order awaited (before.tail next)

theorem acyclic_of_measure {α Measure : Type*} [Preorder Measure] {relation : α → α → Prop}
    (measure : α → Measure) (increases : ∀ first second, relation first second →
      measure first < measure second) : Acyclic relation := by
  intro start circle
  have grows : ∀ {last}, Relation.TransGen relation start last → measure start < measure last := by
    intro last path
    induction path with
    | single step => exact increases _ _ step
    | tail _ step induction => exact induction.trans (increases _ _ step)
  exact lt_irrefl _ (grows circle)

end WaitFor

end BankingBackend.Foundation
