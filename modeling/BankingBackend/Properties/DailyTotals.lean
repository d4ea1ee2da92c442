import BankingBackend.Properties.ReleaseReserve

/-! # The daily total

As long as no key expires, the scripts keep the total key at the sum of the `ref`
keys, in exact arithmetic.
-/

namespace BankingBackend

open Foundation Postgres Redis Common Fraud

/-- The total is the sum of the amounts that are reserved, it is within the limit, and no
release would have to clamp it. -/
structure DailyTotal (dailyLimit : ℚ) (keys : DailyKeys) : Prop where
  sum : ∃ references : Finset String,
    (∀ referenceId, referenceId ∈ references ↔ (keys.reserved referenceId).isSome = true) ∧
      keys.currentTotal = ∑ referenceId ∈ references, keys.reservation referenceId
  bounds : ∀ total, keys.total = some total → 0 ≤ total ∧ total ≤ dailyLimit
  unclamped : ∀ referenceId reserved, keys.reserved referenceId = some reserved →
    ¬keys.currentTotal - reserved < 0

structure Totalled (dailyLimit : ℚ) (keys : DailyKeys) : Prop where
  summed : Summed keys.currentTotal keys.reservation
  finite : ∃ references : Finset String,
    ∀ referenceId, referenceId ∈ references ↔ (keys.reserved referenceId).isSome = true
  positive : ∀ referenceId reserved, keys.reserved referenceId = some reserved → 0 < reserved
  within : ∀ total, keys.total = some total → total ≤ dailyLimit

section Totals

variable {dailyLimit amount : ℚ} {keys : DailyKeys} {referenceId : String}

theorem Totalled.nonneg (totalled : Totalled dailyLimit keys) (referenceId : String) :
    0 ≤ keys.reservation referenceId := by
  unfold DailyKeys.reservation
  cases held : keys.reserved referenceId with
  | none => exact le_rfl
  | some reserved => exact (totalled.positive referenceId reserved held).le

theorem Totalled.unclamped (totalled : Totalled dailyLimit keys) {reserved : ℚ}
    (held : keys.reserved referenceId = some reserved) :
    ¬keys.currentTotal - reserved < 0 := by
  have le := totalled.summed.le_total totalled.nonneg referenceId
  rw [DailyKeys.reservation, held, Option.getD_some] at le
  exact not_lt.mpr (sub_nonneg.mpr le)

theorem Totalled.dailyTotal (totalled : Totalled dailyLimit keys) :
    DailyTotal dailyLimit keys where
  sum := by
    rcases totalled.finite with ⟨references, stored⟩
    refine ⟨references, stored, (totalled.summed.sum_eq fun referenceId absent => ?_).symm⟩
    have free : keys.reserved referenceId = none := by
      rwa [stored, Option.not_isSome_iff_eq_none] at absent
    rw [DailyKeys.reservation, free]
    rfl
  bounds total stored := by
    have nonneg := totalled.summed.nonneg totalled.nonneg
    rw [DailyKeys.currentTotal, stored] at nonneg
    exact ⟨nonneg, totalled.within total stored⟩
  unclamped _ _ := totalled.unclamped

theorem totalled_empty : Totalled dailyLimit .empty where
  summed := summed_zero
  finite := ⟨∅, fun referenceId => by simp [DailyKeys.empty]⟩
  positive := by rintro referenceId reserved ⟨⟩
  within := by rintro total ⟨⟩

theorem Totalled.reserve (totalled : Totalled dailyLimit keys) (positive : 0 < amount) :
    Totalled dailyLimit (reserveLua .exact amount dailyLimit referenceId keys).2 := by
  rcases DailyKeys.reserveLua_cases .exact amount dailyLimit referenceId keys with
    ⟨_, _, result⟩ | ⟨_, _, result⟩ | ⟨free, within, result⟩
  · rwa [result]
  · rwa [result]
  · rw [result]
    constructor
    · rw [DailyKeys.reservation_update]
      have updated := totalled.summed.update referenceId amount
      have unreserved : keys.reservation referenceId = 0 := by simp [DailyKeys.reservation, free]
      rwa [unreserved, sub_zero] at updated
    · rcases totalled.finite with ⟨references, stored⟩
      refine ⟨insert referenceId references, fun other => ?_⟩
      by_cases same : other = referenceId
      · simp [same]
      · simp [same, stored]
    · intro other reserved
        (held : Function.update keys.reserved referenceId (some amount) other = some reserved)
      by_cases same : other = referenceId
      · rw [same, Function.update_self, Option.some.injEq] at held
        exact held ▸ positive
      · rw [Function.update_of_ne same] at held
        exact totalled.positive other reserved held
    · rintro total ⟨⟩
      exact within

theorem Totalled.release (totalled : Totalled dailyLimit keys) :
    Totalled dailyLimit (releaseLua .exact referenceId keys) := by
  rcases DailyKeys.releaseLua_cases .exact referenceId keys with
    result | ⟨_, result⟩ | ⟨reserved, held, result⟩
  · rwa [result]
  · rw [result]
    exact ⟨totalled.summed, totalled.finite, totalled.positive, totalled.within⟩
  · have difference : DailyKeys.remaining .exact reserved keys = keys.currentTotal - reserved :=
      if_neg (totalled.unclamped held)
    rw [result, difference]
    have positive := totalled.positive referenceId reserved held
    constructor
    · rw [DailyKeys.reservation_update]
      have updated := totalled.summed.update referenceId 0
      have reservation : keys.reservation referenceId = reserved := by
        simp [DailyKeys.reservation, held]
      rwa [reservation, add_zero] at updated
    · rcases totalled.finite with ⟨references, stored⟩
      refine ⟨references.erase referenceId, fun other => ?_⟩
      by_cases same : other = referenceId
      · simp [same]
      · simp [same, stored]
    · intro other amount
        (kept : Function.update keys.reserved referenceId none other = some amount)
      by_cases same : other = referenceId
      · rw [same, Function.update_self] at kept
        cases kept
      · rw [Function.update_of_ne same] at kept
        exact totalled.positive other amount kept
    · rintro total ⟨⟩
      -- A reservation is backed by a stored total.
      cases stored : keys.total with
      | none =>
          have covered := totalled.unclamped held
          rw [DailyKeys.currentTotal, stored, Option.getD_none] at covered
          linarith
      | some before =>
          have within := totalled.within before stored
          show keys.total.getD 0 - reserved ≤ dailyLimit
          rw [stored, Option.getD_some]
          linarith

/-! ## Sequences of scripts -/

def Positive (calls : List DailyCall) : Prop :=
  ∀ referenceId amount, .evaluate referenceId amount ∈ calls → 0 < amount

theorem totalled_keysAfter {calls : List DailyCall} (positive : Positive calls) :
    Totalled dailyLimit (keysAfter dailyLimit calls) := by
  induction calls using List.reverseRecOn with
  | nil => exact totalled_empty
  | append_singleton calls call induction =>
      have totalled := induction fun referenceId amount member =>
        positive referenceId amount (List.mem_append_left _ member)
      rw [keysAfter, List.foldl_concat]
      cases call with
      | evaluate referenceId amount =>
          exact totalled.reserve (positive referenceId amount (by simp))
      | releaseReservation referenceId => exact totalled.release

theorem script_refused (keys : DailyKeys) (call : DailyCall)
    (refused : (call.script dailyLimit keys).1 = false) : (call.script dailyLimit keys).2 = keys := by
  cases call with
  | releaseReservation referenceId => cases refused
  | evaluate referenceId amount =>
      rw [DailyCall.script] at refused ⊢
      rcases DailyKeys.reserveLua_cases .exact amount dailyLimit referenceId keys with
        ⟨_, _, result⟩ | ⟨_, _, result⟩ | ⟨_, _, result⟩
      · rw [result]
      · rw [result]
      · rw [result] at refused
        cases refused

theorem daily_total (dailyLimit : ℚ) (calls : List DailyCall) (positive : Positive calls) :
    DailyTotal dailyLimit (keysAfter dailyLimit calls) ∧ ∀ call : DailyCall,
      (call.script dailyLimit (keysAfter dailyLimit calls)).1 = false →
        (call.script dailyLimit (keysAfter dailyLimit calls)).2 = keysAfter dailyLimit calls :=
  ⟨(totalled_keysAfter positive).dailyTotal, script_refused _⟩

/-- A reference that is reserved again after its release. -/
theorem daily_total_attempts : DailyTotal 100000 (keysAfter 100000 attempts) ∧
    ∀ call : DailyCall, (call.script 100000 (keysAfter 100000 attempts)).1 = false →
      (call.script 100000 (keysAfter 100000 attempts)).2 = keysAfter 100000 attempts := by
  refine daily_total 100000 attempts fun referenceId amount member => ?_
  simp only [attempts, List.mem_cons, DailyCall.evaluate.injEq, reduceCtorEq, List.not_mem_nil,
    or_false, false_or] at member
  rcases member with ⟨_, rfl⟩ | ⟨_, rfl⟩
  · exact one_pos
  · exact one_pos

end Totals

end BankingBackend
