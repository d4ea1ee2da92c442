import BankingBackend.Foundation.Reservation
import BankingBackend.Redis.Scripts
import Mathlib.Tactic.Linarith

/-! # Reservations of the daily limit

The scripts keep the reservations under the `ref` keys within the total key and
within the limit, unless their rounding loses something of the total.
-/

namespace BankingBackend.Redis

open Foundation Postgres

namespace DailyKeys

/-- What is reserved under a `ref` key. -/
def reservation (keys : DailyKeys) (referenceId : String) : ℚ :=
  (keys.reserved referenceId).getD 0

structure Sound (dailyLimit : ℚ) (keys : DailyKeys) : Prop where
  backed : Backed keys.currentTotal keys.reservation
  nonneg : ∀ referenceId, 0 ≤ keys.reservation referenceId
  within : Backed dailyLimit keys.reservation

variable {numbers : Numbers} {keys : DailyKeys} {dailyLimit amount recorded : ℚ}
  {referenceId other : String}

theorem sound_empty (nonneg : 0 ≤ dailyLimit) : Sound dailyLimit empty where
  backed := backed_zero
  nonneg _ := le_rfl
  within := backed_zero.mono nonneg

theorem reservation_update (reserved : Option ℚ) (total : Option ℚ) (released : String → Bool) :
    reservation ⟨total, Function.update keys.reserved referenceId reserved, released⟩ =
      Function.update keys.reservation referenceId (reserved.getD 0) := by
  funext other
  by_cases same : other = referenceId
  · subst same
    simp [reservation]
  · simp [reservation, same]

private theorem nonneg_update (sound : keys.Sound dailyLimit) (amountNonneg : 0 ≤ amount)
    (other : String) : 0 ≤ Function.update keys.reservation referenceId amount other := by
  by_cases same : other = referenceId
  · rwa [same, Function.update_self]
  · rw [Function.update_of_ne same]
    exact sound.nonneg other

theorem Sound.reserved_le (sound : keys.Sound dailyLimit) {reserved : ℚ}
    (held : keys.reserved referenceId = some reserved) : reserved ≤ keys.currentTotal := by
  have backed := sound.backed {referenceId}
  simpa [reservation, held] using backed

/-! ## Reserving -/

theorem reserveLua_cases (numbers : Numbers) (amount dailyLimit : ℚ) (referenceId : String)
    (keys : DailyKeys) :
    (∃ reserved, keys.reserved referenceId = some reserved ∧
      reserveLua numbers amount dailyLimit referenceId keys = (true, keys)) ∨
    (keys.reserved referenceId = none ∧
      numbers.number dailyLimit < numbers.add keys.currentTotal amount ∧
      reserveLua numbers amount dailyLimit referenceId keys = (false, keys)) ∨
    (keys.reserved referenceId = none ∧
      numbers.add keys.currentTotal amount ≤ numbers.number dailyLimit ∧
      reserveLua numbers amount dailyLimit referenceId keys =
        (true, ⟨some (numbers.text (numbers.add keys.currentTotal amount)),
          Function.update keys.reserved referenceId (some (numbers.text (numbers.number amount))),
          keys.released⟩)) := by
  cases held : keys.reserved referenceId with
  | some reserved => exact .inl ⟨reserved, rfl, by simp [reserveLua, held]⟩
  | none =>
      by_cases exceeded : numbers.number dailyLimit < numbers.add keys.currentTotal amount
      · exact .inr (.inl ⟨rfl, exceeded, by simp [reserveLua, held, exceeded]⟩)
      · exact .inr (.inr ⟨rfl, not_lt.mp exceeded, by simp [reserveLua, held, exceeded]⟩)

/-- The written total and the limit are no less than the exact sum. -/
def Adds (numbers : Numbers) (amount dailyLimit : ℚ) (keys : DailyKeys) : Prop :=
  let sum := keys.currentTotal + numbers.text (numbers.number amount)
  sum ≤ numbers.text (numbers.add keys.currentTotal amount) ∧ sum ≤ dailyLimit

instance : Decidable (Adds numbers amount dailyLimit keys) := inferInstanceAs (Decidable (_ ∧ _))

theorem Sound.reserve (sound : keys.Sound dailyLimit)
    (nonneg : 0 ≤ numbers.text (numbers.number amount))
    (adds : keys.reserved referenceId = none →
      numbers.add keys.currentTotal amount ≤ numbers.number dailyLimit →
        Adds numbers amount dailyLimit keys) :
    (reserveLua numbers amount dailyLimit referenceId keys).2.Sound dailyLimit := by
  rcases reserveLua_cases numbers amount dailyLimit referenceId keys with
    ⟨_, _, result⟩ | ⟨_, _, result⟩ | ⟨free, within, result⟩
  · rwa [result]
  · rwa [result]
  · rw [result]
    have unreserved : keys.reservation referenceId = 0 := by simp [reservation, free]
    have written := adds free within
    have backed := sound.backed.reserve unreserved nonneg
    refine ⟨?_, ?_, ?_⟩ <;> rw [reservation_update]
    · exact backed.mono written.1
    · exact nonneg_update sound nonneg
    · exact backed.mono written.2

theorem reserveLua_keeps {reserved : ℚ} (held : keys.reserved other = some reserved) :
    (reserveLua numbers amount dailyLimit referenceId keys).2.reserved other = some reserved := by
  rcases reserveLua_cases numbers amount dailyLimit referenceId keys with
    ⟨_, _, result⟩ | ⟨_, _, result⟩ | ⟨free, _, result⟩
  · rwa [result]
  · rwa [result]
  · have different : other ≠ referenceId := by
      rintro rfl
      rw [held] at free
      cases free
    rw [result]
    simpa [different] using held

/-- If the script admits the amount, the reservation under the reference will be no
less than what will be recorded, and a new one is added to the total. -/
def Covers (numbers : Numbers) (amount dailyLimit recorded : ℚ) (referenceId : String)
    (keys : DailyKeys) : Prop :=
  match keys.reserved referenceId with
  | some reserved => recorded ≤ reserved
  | none => numbers.add keys.currentTotal amount ≤ numbers.number dailyLimit →
      recorded ≤ numbers.text (numbers.number amount) ∧ Adds numbers amount dailyLimit keys

instance : Decidable (Covers numbers amount dailyLimit recorded referenceId keys) :=
  match held : keys.reserved referenceId with
  | some reserved => decidable_of_iff (recorded ≤ reserved) (by simp [Covers, held])
  | none => decidable_of_iff (numbers.add keys.currentTotal amount ≤ numbers.number dailyLimit →
        recorded ≤ numbers.text (numbers.number amount) ∧ Adds numbers amount dailyLimit keys)
      (by simp [Covers, held])

/-- The reservation under the reference is no less than what will be recorded. -/
def Holds (recorded : ℚ) (referenceId : String) (keys : DailyKeys) : Prop :=
  ∃ reserved, keys.reserved referenceId = some reserved ∧ recorded ≤ reserved

theorem Covers.holds (covers : Covers numbers amount dailyLimit recorded referenceId keys)
    (admitted : (reserveLua numbers amount dailyLimit referenceId keys).1 = true) :
    Holds recorded referenceId (reserveLua numbers amount dailyLimit referenceId keys).2 := by
  unfold Covers at covers
  rcases reserveLua_cases numbers amount dailyLimit referenceId keys with
    ⟨reserved, held, result⟩ | ⟨_, _, result⟩ | ⟨free, within, result⟩
  · rw [held] at covers
    rw [result]
    exact ⟨reserved, held, covers⟩
  · rw [result] at admitted
    cases admitted
  · rw [free] at covers
    rw [result]
    exact ⟨_, Function.update_self _ _ _, (covers within).1⟩

theorem Sound.covers (sound : keys.Sound dailyLimit) (recordedNonneg : 0 ≤ recorded)
    (covers : Covers numbers amount dailyLimit recorded referenceId keys) :
    (reserveLua numbers amount dailyLimit referenceId keys).2.Sound dailyLimit := by
  unfold Covers at covers
  rcases reserveLua_cases numbers amount dailyLimit referenceId keys with
    ⟨_, _, result⟩ | ⟨_, _, result⟩ | ⟨free, within, _⟩
  · rwa [result]
  · rwa [result]
  · rw [free] at covers
    have written := covers within
    exact sound.reserve (recordedNonneg.trans written.1) fun _ _ => written.2

/-! ## Releasing -/

def remaining (numbers : Numbers) (reservedAmount : ℚ) (keys : DailyKeys) : ℚ :=
  let nextTotal := numbers.sub keys.currentTotal reservedAmount
  numbers.text (if nextTotal < 0 then 0 else nextTotal)

/-- A release takes no more from the total than was reserved. -/
def Subtracts (numbers : Numbers) (referenceId : String) (keys : DailyKeys) : Prop :=
  match keys.reserved referenceId with
  | none => True
  | some reservedAmount => keys.released referenceId = false →
      keys.currentTotal - reservedAmount ≤ remaining numbers reservedAmount keys

instance : Decidable (Subtracts numbers referenceId keys) :=
  match held : keys.reserved referenceId with
  | none => .isTrue (by simp [Subtracts, held])
  | some reservedAmount => decidable_of_iff (keys.released referenceId = false →
        keys.currentTotal - reservedAmount ≤ remaining numbers reservedAmount keys)
      (by simp [Subtracts, held])

theorem Sound.release (sound : keys.Sound dailyLimit)
    (subtracts : Subtracts numbers referenceId keys) :
    (releaseLua numbers referenceId keys).Sound dailyLimit := by
  unfold releaseLua
  split
  · exact sound
  · rename_i unmarked
    cases held : keys.reserved referenceId with
    | none => exact ⟨sound.backed, sound.nonneg, sound.within⟩
    | some reservedAmount =>
        have reservation : keys.reservation referenceId = reservedAmount := by
          simp [DailyKeys.reservation, held]
        have released := sound.backed.release referenceId
        rw [reservation] at released
        simp only [Subtracts, held] at subtracts
        have written := subtracts (Bool.eq_false_iff.mpr unmarked)
        refine ⟨?_, ?_, ?_⟩ <;> rw [reservation_update]
        · exact released.mono written
        · exact nonneg_update sound le_rfl
        · exact (sound.within.release referenceId).mono (sub_le_self _ (sound.nonneg referenceId))

theorem Sound.subtracts (sound : keys.Sound dailyLimit) :
    Subtracts .exact referenceId keys := by
  unfold Subtracts
  cases held : keys.reserved referenceId with
  | none => exact True.intro
  | some reservedAmount =>
      intro _
      have covered := sound.reserved_le held
      exact (if_neg (not_lt.mpr (sub_nonneg.mpr covered))).ge

/-- In exact arithmetic a release takes back what is reserved, unless its marker is there
already or the total does not cover the reservation. -/
theorem releaseLua_undoes_iff :
    ((releaseLua .exact referenceId keys).reserved referenceId = none ∧
        (releaseLua .exact referenceId keys).currentTotal =
          keys.currentTotal - keys.reservation referenceId) ↔
      ∀ reserved, keys.reserved referenceId = some reserved →
        keys.released referenceId = false ∧ reserved ≤ keys.currentTotal := by
  cases marked : keys.released referenceId with
  | true =>
      cases held : keys.reserved referenceId with
      | none => simp [releaseLua, marked, held, reservation]
      | some reservedAmount => simp [releaseLua, marked, held]
  | false =>
      cases held : keys.reserved referenceId with
      | none => simp [releaseLua, marked, held, reservation, currentTotal]
      | some reservedAmount =>
          simp only [releaseLua, marked, held, reservation, currentTotal, Option.getD_some,
            Option.some.injEq, true_and, forall_eq']
          have covered : (if keys.total.getD 0 - reservedAmount < 0 then 0
              else keys.total.getD 0 - reservedAmount) = keys.total.getD 0 - reservedAmount ↔
                reservedAmount ≤ keys.total.getD 0 := by
            split <;> constructor <;> intro <;> linarith
          simpa using covered

theorem releaseLua_cases (numbers : Numbers) (referenceId : String) (keys : DailyKeys) :
    releaseLua numbers referenceId keys = keys ∨
    (keys.reserved referenceId = none ∧ releaseLua numbers referenceId keys =
      { keys with released := Function.update keys.released referenceId true }) ∨
    ∃ reserved, keys.reserved referenceId = some reserved ∧ releaseLua numbers referenceId keys =
      ⟨some (remaining numbers reserved keys), Function.update keys.reserved referenceId none,
        Function.update keys.released referenceId true⟩ := by
  unfold releaseLua
  split
  · exact .inl rfl
  · cases held : keys.reserved referenceId with
    | none => exact .inr (.inl ⟨rfl, rfl⟩)
    | some reserved => exact .inr (.inr ⟨reserved, rfl, rfl⟩)

theorem releaseLua_other (different : other ≠ referenceId) :
    (releaseLua numbers referenceId keys).reserved other = keys.reserved other := by
  unfold releaseLua
  split
  · rfl
  · cases keys.reserved referenceId with
    | none => rfl
    | some reservedAmount => exact Function.update_of_ne different _ _

end DailyKeys

/-! ## Whole cents -/

namespace Numbers

theorem cents_lt {first second : ℚ} (firstWhole : WholeCents first)
    (secondWhole : WholeCents second) (less : first < second) : first + 1 / 100 ≤ second := by
  rcases firstWhole with ⟨firstCents, firstEq⟩
  rcases secondWhole with ⟨secondCents, secondEq⟩
  have cents : (firstCents : ℚ) < secondCents := by
    rw [← firstEq, ← secondEq]
    linarith
  have apart : (firstCents : ℚ) + 1 ≤ secondCents := by exact_mod_cast cents
  rw [← firstEq, ← secondEq] at apart
  linarith

/-- Fourteen digits are enough for whole cents below a million million. -/
theorem lua_text_eq {exact rounded : ℚ} (whole : WholeCents exact) (positive : 0 < exact)
    (small : exact < 10 ^ 12) (near : |rounded - exact| ≤ exact / 2 ^ 51) :
    lua.text rounded = exact := by
  have bounds := abs_le.mp near
  have roundedPositive : 0 < rounded := by linarith
  have limited : exact + 1 / 100 ≤ 10 ^ 12 :=
    cents_lt whole ⟨10 ^ 14, by norm_num⟩ small
  rcases whole with ⟨cents, counted⟩
  have multiple : exact = cents * ((10 : ℕ) : ℚ) ^ (-2 : ℤ) := by
    rw [← counted]
    norm_num
    ring
  have fits : |rounded| < ((10 : ℕ) : ℚ) ^ ((-2 : ℤ) + (14 : ℕ)) := by
    rw [abs_of_pos roundedPositive]
    norm_num
    linarith
  refine significant_eq (by norm_num) multiple roundedPositive.ne' fits ?_
  have digits : |rounded| < spacing 10 14 rounded * ((10 : ℕ) : ℚ) ^ ((14 : ℕ) : ℤ) :=
    lt_spacing (by norm_num) rounded
  rw [abs_of_pos roundedPositive] at digits
  norm_num at digits
  linarith

theorem abs_lua_number_sub_le {value : ℚ} (nonneg : 0 ≤ value) :
    |lua.number value - value| ≤ value / 2 ^ 53 := by
  have error := abs_binary64_sub_le value
  rwa [abs_of_nonneg nonneg] at error

theorem abs_lua_add_sub_le {first second : ℚ} (firstNonneg : 0 ≤ first)
    (secondNonneg : 0 ≤ second) :
    |lua.add first second - (first + second)| ≤ (first + second) / 2 ^ 51 := by
  have firstError := abs_le.mp (abs_lua_number_sub_le firstNonneg)
  have secondError := abs_le.mp (abs_lua_number_sub_le secondNonneg)
  have sumNonneg : 0 ≤ lua.number first + lua.number second := by linarith
  have sumBounds := abs_le.mp (abs_lua_number_sub_le sumNonneg)
  rw [add, abs_le]
  constructor <;> linarith

theorem lua_text_number {amount : ℚ} (whole : WholeCents amount) (positive : 0 < amount)
    (small : amount < 10 ^ 12) : lua.text (lua.number amount) = amount := by
  refine lua_text_eq whole positive small ((abs_lua_number_sub_le positive.le).trans ?_)
  linarith

/-- What passes the comparison of the script is within the limit and written as it is. -/
theorem lua_add_admitted {total amount dailyLimit : ℚ} (totalWhole : WholeCents total)
    (amountWhole : WholeCents amount) (limitWhole : WholeCents dailyLimit)
    (nonneg : 0 ≤ total) (positive : 0 < amount) (small : dailyLimit < 10 ^ 12)
    (admitted : lua.add total amount ≤ lua.number dailyLimit) :
    total + amount ≤ dailyLimit ∧ lua.text (lua.add total amount) = total + amount := by
  have sumWhole : WholeCents (total + amount) := by
    rcases totalWhole with ⟨cents, counted⟩
    rcases amountWhole with ⟨more, added⟩
    exact ⟨cents + more, by rw [add_mul, counted, added]; push_cast; rfl⟩
  have sumError := abs_lua_add_sub_le nonneg positive.le
  have sumBounds := abs_le.mp sumError
  have within : total + amount ≤ dailyLimit := by
    by_contra exceeded
    have apart := cents_lt limitWhole sumWhole (not_le.mp exceeded)
    have limitBounds := abs_le.mp (abs_binary64_sub_le dailyLimit)
    have roundedLimit : lua.number dailyLimit ≤ dailyLimit + |dailyLimit| / 2 ^ 53 := by
      show binary64 dailyLimit ≤ _
      linarith
    rcases abs_cases dailyLimit with ⟨same, _⟩ | ⟨opposite, negative⟩
    · rw [same] at roundedLimit
      linarith
    · rw [opposite] at roundedLimit
      linarith
  exact ⟨within, lua_text_eq sumWhole (by linarith) (by linarith) sumError⟩

end Numbers

namespace DailyKeys

/-- In whole cents below a million million a new reservation covers its amount, and the total
loses nothing. -/
theorem covers_of_wholeCents {keys : DailyKeys} {amount dailyLimit : ℚ} {referenceId : String}
    (free : keys.reserved referenceId = none) (totalWhole : WholeCents keys.currentTotal)
    (amountWhole : WholeCents amount) (limitWhole : WholeCents dailyLimit)
    (nonneg : 0 ≤ keys.currentTotal) (positive : 0 < amount) (small : dailyLimit < 10 ^ 12) :
    Covers .lua amount dailyLimit amount referenceId keys := by
  unfold Covers
  rw [free]
  intro admitted
  have written := Numbers.lua_add_admitted totalWhole amountWhole limitWhole nonneg positive small
    admitted
  have stored := Numbers.lua_text_number amountWhole positive (by linarith [written.1])
  refine ⟨stored.ge, ?_⟩
  unfold Adds
  rw [stored, written.2]
  exact ⟨le_rfl, written.1⟩

/-- A larger total loses what fourteen digits do not show. -/
example :
    (reserveLua .lua 0.04 (10 ^ 13) "second"
      ⟨some 9999999999999.9, fun _ => none, fun _ => false⟩).2.total =
        some 9999999999999.9 := by
  decide +kernel

end DailyKeys

end BankingBackend.Redis
