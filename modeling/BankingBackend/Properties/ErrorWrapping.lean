import BankingBackend.Messaging.Errors
import Mathlib.Data.List.Basic

/-! # Wrapped errors

A wrapper hides all of an error but what its class, its code and its causes say:
the consumers' own classes, the errors of an `AggregateError` and the message are
looked at on the outermost error alone.
-/

namespace BankingBackend.Messaging

open Foundation

/-! ## Wrappers -/

/-- A plain `Error` that is not classified by its code or its message. -/
structure Wrapper where
  message : String
  code : Option String := none
  unclassified : classifyNodeOrNetworkError code = none
  quiet : fallbackMessageLooksTransient message = false

/-- The error inside wrappers, the outermost first. -/
def wrap (wrappers : List Wrapper) (error : Thrown) : Thrown :=
  wrappers.foldr (fun wrapper cause => .error .other wrapper.message wrapper.code cause []) error

/-! ## The chain of causes -/

namespace Thrown

/-- The class and code of an error and of its causes, down to a depth. -/
def causes : ℕ → Thrown → List (ErrorClass × Option String)
  | 0, _ => []
  | _ + 1, .value _ => []
  | depth + 1, .error class_ _ code cause _ => (class_, code) :: causes depth cause

/-- What the first error of the chain that its class or code classifies is. -/
def firstDecision (depth : ℕ) (error : Thrown) : Option Bool :=
  (error.causes depth).findSome? fun cause => classifyErrorInstance cause.1 cause.2

/-- Nothing of the chain beyond the depth, nor the message, makes the error transient. -/
def EndsWithin (depth : ℕ) (message : String) (error : Thrown) : Prop :=
  error.firstDecision depth = none → error.firstDecision 8 ≠ some true ∧
    (error.firstDecision 8 = none → fallbackMessageLooksTransient message = false)

/-- The chain down to the depth classifies the error as the error itself is. -/
def SeenThrough (depth : ℕ) (error : Thrown) : Prop :=
  match error with
  | .value _ => True
  | .error .transientConsumerError _ _ _ _ => error.firstDecision depth = some true
  | .error .permanentConsumerError _ _ _ _ => error.firstDecision depth ≠ some true
  | .error .aggregateError message _ _ errors =>
      match errors.findSome? (firstDecision 8) with
      | some decision => error.firstDecision depth = some true ↔ decision = true
      | none => error.EndsWithin depth message
  | .error _ message _ _ _ => error.EndsWithin depth message

end Thrown

section Walks

variable {depth more : ℕ} {error : Thrown} {decision : Bool}

theorem walkErrorCauses_eq (depth : ℕ) (error : Thrown) :
    walkErrorCauses depth error = error.firstDecision depth := by
  induction depth generalizing error with
  | zero => rfl
  | succ depth induction =>
      cases error with
      | value text => rfl
      | error class_ message code cause errors =>
          rw [walkErrorCauses, induction, Thrown.firstDecision, Thrown.firstDecision, Thrown.causes,
            List.findSome?_cons]
          cases classifyErrorInstance class_ code <;> rfl

theorem causes_prefix (le : depth ≤ more) (error : Thrown) :
    error.causes depth <+: error.causes more := by
  induction depth generalizing more error with
  | zero => exact List.nil_prefix
  | succ depth induction =>
      have positive := Nat.lt_of_lt_of_le depth.succ_pos le
      obtain ⟨more, rfl⟩ := Nat.exists_eq_succ_of_ne_zero (Nat.ne_of_gt positive)
      cases error with
      | value text => exact List.nil_prefix
      | error class_ message code cause errors =>
          exact (List.prefix_cons_inj _).mpr (induction (Nat.le_of_succ_le_succ le) cause)

theorem firstDecision_mono (le : depth ≤ more) (decides : error.firstDecision depth = some decision) :
    error.firstDecision more = some decision := by
  rcases causes_prefix le error with ⟨rest, whole⟩
  rw [Thrown.firstDecision, ← whole, List.findSome?_append]
  rw [Thrown.firstDecision] at decides
  rw [decides]
  rfl

/-- The wrappers only use up the depth of the walk. -/
theorem firstDecision_wrap (wrappers : List Wrapper) (error : Thrown) (depth : ℕ) :
    (wrap wrappers error).firstDecision (depth + wrappers.length) = error.firstDecision depth := by
  induction wrappers with
  | nil => rfl
  | cons wrapper rest induction =>
      have unclassified : classifyErrorInstance .other wrapper.code = none := by
        rw [classifyErrorInstance, wrapper.unclassified]
        rfl
      have walk : (wrap (wrapper :: rest) error).firstDecision (depth + rest.length + 1) =
          (wrap rest error).firstDecision (depth + rest.length) := by
        rw [wrap, List.foldr_cons, Thrown.firstDecision, Thrown.causes, List.findSome?_cons,
          unclassified]
        rfl
      exact walk.trans induction

/-- An error that its own class does not decide. -/
theorem isTransientConsumerError_eq (class_ : ErrorClass) (message : String) (code : Option String)
    (cause : Thrown) (errors : List Thrown) (transient : class_ ≠ .transientConsumerError)
    (permanent : class_ ≠ .permanentConsumerError) :
    isTransientConsumerError (.error class_ message code cause errors) =
      ((walkAggregateErrors (.error class_ message code cause errors)).or
        (walkErrorCauses 8 (.error class_ message code cause errors))).getD
          (fallbackMessageLooksTransient message) := by
  rw [isTransientConsumerError]
  · split
    · rename_i decision decided
      rw [decided]
      rfl
    · rename_i undecided
      rw [undecided]
      rfl
  · exact transient
  · exact permanent

theorem walkAggregateErrors_eq_none (class_ : ErrorClass) (message : String)
    (code : Option String) (cause : Thrown) (errors : List Thrown)
    (single : class_ ≠ .aggregateError) :
    walkAggregateErrors (.error class_ message code cause errors) = none := by
  cases class_ with
  | aggregateError => exact absurd rfl single
  | _ => rfl

theorem isTransientConsumerError_wrap (wrapper : Wrapper) (rest : List Wrapper) (error : Thrown)
    (fewer : (wrapper :: rest).length < 8) :
    isTransientConsumerError (wrap (wrapper :: rest) error) =
      (error.firstDecision (8 - (wrapper :: rest).length)).getD false := by
  have walk := firstDecision_wrap (wrapper :: rest) error (8 - (wrapper :: rest).length)
  rw [Nat.sub_add_cancel fewer.le, ← walkErrorCauses_eq] at walk
  have outermost : wrap (wrapper :: rest) error =
      .error .other wrapper.message wrapper.code (wrap rest error) [] := rfl
  rw [← walk, outermost, isTransientConsumerError_eq _ _ _ _ _ (by decide) (by decide),
    walkAggregateErrors_eq_none _ _ _ _ _ (by decide), Option.none_or, wrapper.quiet]

theorem endsWithin_iff (le : depth ≤ 8) (message : String) :
    (error.firstDecision depth).getD false =
        (error.firstDecision 8).getD (fallbackMessageLooksTransient message) ↔
      error.EndsWithin depth message := by
  unfold Thrown.EndsWithin
  cases within : error.firstDecision depth with
  | some decision => simp [firstDecision_mono le within]
  | none =>
      cases beyond : error.firstDecision 8 with
      | none => simp
      | some decision => cases decision <;> simp

theorem getD_false_eq_true (decision : Option Bool) :
    decision.getD false = true ↔ decision = some true := by
  cases decision with
  | none => simp
  | some value => simp

theorem seenThrough_iff (le : depth ≤ 8) :
    (error.firstDecision depth).getD false = isTransientConsumerError error ↔
      error.SeenThrough depth := by
  cases error with
  | value text =>
      have nothing : (Thrown.value text).firstDecision depth = none := by cases depth <;> rfl
      simp [Thrown.SeenThrough, nothing, isTransientConsumerError]
  | error class_ message code cause errors =>
      cases class_ with
      | transientConsumerError => exact getD_false_eq_true _
      | permanentConsumerError =>
          rw [isTransientConsumerError, Thrown.SeenThrough, Ne, ← getD_false_eq_true,
            Bool.not_eq_true]
      | aggregateError =>
          rw [isTransientConsumerError_eq _ _ _ _ _ (by decide) (by decide), Thrown.SeenThrough,
            walkAggregateErrors, walkErrorCauses_eq, funext (walkErrorCauses_eq 8)]
          cases errors.findSome? (Thrown.firstDecision 8) with
          | none => exact endsWithin_iff le message
          | some decision =>
              show _ = decision ↔ _
              rw [← getD_false_eq_true, Bool.eq_iff_iff]
      | _ =>
          rw [isTransientConsumerError_eq _ _ _ _ _ (by decide) (by decide),
            walkAggregateErrors_eq_none _ _ _ _ _ (by decide), Option.none_or, walkErrorCauses_eq]
          exact endsWithin_iff le message

end Walks

/-- Wrappers are seen through when there are none, or when the chain that the walk still reaches
classifies the error as the error itself is. -/
theorem wrapped_iff (wrappers : List Wrapper) (fewer : wrappers.length < 8) (error : Thrown) :
    isTransientConsumerError (wrap wrappers error) = isTransientConsumerError error ↔
      wrappers = [] ∨ error.SeenThrough (8 - wrappers.length) := by
  cases wrappers with
  | nil => simp [wrap]
  | cons wrapper rest =>
      rw [isTransientConsumerError_wrap wrapper rest error fewer, seenThrough_iff (Nat.sub_le _ _)]
      simp

def failedWrapper : Wrapper where
  message := "handler failed"
  unclassified := rfl
  quiet := by decide +kernel

theorem wrapped_errno :
    isTransientConsumerError (wrap [failedWrapper]
        (.error .other "read" (some "ECONNRESET") .undefined [])) =
      isTransientConsumerError (.error .other "read" (some "ECONNRESET") .undefined []) :=
  (wrapped_iff [failedWrapper] (by decide) _).mpr (.inr (by rintro ⟨⟩))

/-- A wrapped transient error is taken for a permanent one. -/
theorem wrapped_transient : ¬∀ (wrappers : List Wrapper) (error : Thrown), wrappers.length < 8 →
    isTransientConsumerError (wrap wrappers error) = isTransientConsumerError error := by
  intro same
  have wrapped := same [failedWrapper] (.transient "message is already claimed") (by decide)
  exact absurd wrapped (by decide +kernel)

end BankingBackend.Messaging
