import Mathlib.Data.List.Infix

/-! # Claims that expire

A claim keeps others out until it is freed or has expired. Histories list what
happened to one thing that can be claimed, newest first.
-/

namespace BankingBackend.Foundation.Expiry

inductive Event (Time : Type*)
  | claimed (time : Time)
  | freed
  deriving DecidableEq, Repr

section Definitions

variable {Time : Type*}

def Event.claim? : Event Time → Option Time
  | .claimed time => some time
  | .freed => none

def standing : List (Event Time) → List Time
  | [] => []
  | .claimed time :: earlier => time :: standing earlier
  | .freed :: _ => []

def claims (history : List (Event Time)) : List Time := history.filterMap Event.claim?

/-- Whoever claims waits until the claims that stand have expired. -/
def Spaced (expired : Time → Time → Prop) : List (Event Time) → Prop
  | [] => True
  | .claimed time :: earlier =>
      Spaced expired earlier ∧ ∀ former ∈ standing earlier, expired former time
  | .freed :: earlier => Spaced expired earlier

/-- Between any two claims the earlier one was freed, or it had expired. -/
def Exclusive (expired : Time → Time → Prop) (history : List (Event Time)) : Prop :=
  ∀ later second between first before,
    history = later ++ .claimed second :: (between ++ .claimed first :: before) →
      .freed ∈ between ∨ expired first second

end Definitions

section Histories

variable {Time : Type*} {expired : Time → Time → Prop} {history segment before : List (Event Time)}

@[simp] theorem claims_nil : claims ([] : List (Event Time)) = [] := rfl

@[simp] theorem claims_claimed (time : Time) :
    claims (.claimed time :: history) = time :: claims history := rfl

@[simp] theorem claims_freed : claims (.freed :: history) = claims history := rfl

theorem mem_standing_append (unfreed : .freed ∉ segment) {time : Time}
    (member : time ∈ claims segment ∨ time ∈ standing before) :
    time ∈ standing (segment ++ before) := by
  induction segment with
  | nil => simpa using member
  | cons event rest induction =>
      rw [List.mem_cons, not_or] at unfreed
      cases event with
      | freed => exact absurd rfl unfreed.1
      | claimed other =>
          rw [claims_claimed, List.mem_cons, or_assoc] at member
          rw [List.cons_append, standing, List.mem_cons]
          exact member.imp_right (induction unfreed.2)

theorem Spaced.of_suffix (spaced : Spaced expired history) (suffix : before <:+ history) :
    Spaced expired before := by
  induction history with
  | nil => rwa [List.eq_nil_of_suffix_nil suffix]
  | cons event rest induction =>
      have restSpaced : Spaced expired rest := by
        cases event with
        | claimed time => exact spaced.1
        | freed => exact spaced
      rcases List.suffix_cons_iff.mp suffix with rfl | shorter
      · exact spaced
      · exact induction restSpaced shorter

theorem Spaced.exclusive (spaced : Spaced expired history) : Exclusive expired history := by
  rintro later second between first before rfl
  by_cases freed : .freed ∈ between
  · exact .inl freed
  · have rest := spaced.of_suffix (List.suffix_append later _)
    exact .inr (rest.2 first (mem_standing_append freed (.inr (.head _))))

/-- Where nothing is freed, each claim waits for all the earlier ones. -/
theorem Spaced.pairwise (spaced : Spaced expired (segment ++ before))
    (unfreed : .freed ∉ segment) :
    (claims segment).Pairwise fun second first => expired first second := by
  induction segment with
  | nil => exact .nil
  | cons event rest induction =>
      rw [List.mem_cons, not_or] at unfreed
      cases event with
      | freed => exact absurd rfl unfreed.1
      | claimed time =>
          rw [claims_claimed, List.pairwise_cons]
          refine ⟨fun first member => ?_, induction spaced.1 unfreed.2⟩
          exact spaced.2 first (mem_standing_append unfreed.2 (.inl member))

/-- While nothing is freed and nothing expires, at most one claim is made. -/
theorem Spaced.length_claims_le_one (spaced : Spaced expired history)
    (within : segment <:+: history) (unfreed : .freed ∉ segment)
    (unexpired : ∀ first ∈ claims segment, ∀ second ∈ claims segment, ¬expired first second) :
    (claims segment).length ≤ 1 := by
  rcases within with ⟨later, before, rfl⟩
  rw [List.append_assoc] at spaced
  have apart := (spaced.of_suffix (List.suffix_append later _)).pairwise unfreed
  cases made : claims segment with
  | nil => exact Nat.zero_le 1
  | cons second rest =>
      rw [made] at apart unexpired
      cases rest with
      | nil => exact le_rfl
      | cons first rest =>
          have expired := List.rel_of_pairwise_cons apart (.head _)
          exact absurd expired (unexpired first (.tail _ (.head _)) second (.head _))

end Histories

end BankingBackend.Foundation.Expiry
