import BankingBackend.Foundation.Significant
import BankingBackend.Postgres.Schema
import Mathlib.Logic.Function.Basic

/-! # The fraud counters in Redis

The keys behind the daily limits and the minute counter, and the Lua scripts that
change them. A script is one atomic step. A key holds the number its text denotes.
-/

namespace BankingBackend.Redis

open Foundation Postgres

/-! ## Numbers in Lua -/

/-- `number` is what `tonumber` or an operation makes of an exact result, `text` what
`tostring` writes of a number. -/
structure Numbers where
  number : ℚ → ℚ
  text : ℚ → ℚ

namespace Numbers

/-- Doubles, printed with `%.14g`. -/
def lua : Numbers := ⟨binary64, significant 10 14⟩

def exact : Numbers := ⟨id, id⟩

variable (numbers : Numbers)

def add (first second : ℚ) : ℚ := numbers.number (numbers.number first + numbers.number second)

def sub (first second : ℚ) : ℚ := numbers.number (numbers.number first - numbers.number second)

@[simp] theorem exact_number (value : ℚ) : exact.number value = value := rfl

@[simp] theorem exact_text (value : ℚ) : exact.text value = value := rfl

@[simp] theorem exact_add (first second : ℚ) : exact.add first second = first + second := rfl

@[simp] theorem exact_sub (first second : ℚ) : exact.sub first second = first - second := rfl

end Numbers

/-! ## Daily limits -/

/-- `fraud:<type>:daily:<userId>:<dayBucket>` and the keys below it. -/
structure DailyScope where
  type : TransactionType
  userId : Uuid
  dayBucket : ℕ
  deriving DecidableEq

/-- The total key, the `ref` keys and the `released` keys of one scope. -/
structure DailyKeys where
  total : Option ℚ
  reserved : String → Option ℚ
  released : String → Bool

namespace DailyKeys

def empty : DailyKeys := ⟨none, fun _ => none, fun _ => false⟩

def currentTotal (keys : DailyKeys) : ℚ := keys.total.getD 0

end DailyKeys

/-- `RESERVE_LUA`: whether the amount is allowed, and the keys afterwards. -/
def reserveLua (numbers : Numbers) (amount dailyLimit : ℚ) (referenceId : String)
    (keys : DailyKeys) : Bool × DailyKeys :=
  if (keys.reserved referenceId).isSome then (true, keys)
  else
    let nextTotal := numbers.add keys.currentTotal amount
    if nextTotal > numbers.number dailyLimit then (false, keys)
    else (true,
      { keys with
        total := some (numbers.text nextTotal)
        reserved := Function.update keys.reserved referenceId
          (some (numbers.text (numbers.number amount))) })

/-- `RELEASE_LUA`. -/
def releaseLua (numbers : Numbers) (referenceId : String) (keys : DailyKeys) : DailyKeys :=
  if keys.released referenceId then keys
  else
    match keys.reserved referenceId with
    | none => { keys with released := Function.update keys.released referenceId true }
    | some reservedAmount =>
        let nextTotal := numbers.sub keys.currentTotal reservedAmount
        { total := some (numbers.text (if nextTotal < 0 then 0 else nextTotal))
          reserved := Function.update keys.reserved referenceId none
          released := Function.update keys.released referenceId true }

/-! ## The store -/

/-- `fraud:transfer:minute:<userId>:<minuteBucket>`. -/
structure MinuteScope where
  userId : Uuid
  minuteBucket : ℕ
  deriving DecidableEq

structure Store where
  numbers : Numbers
  daily : DailyScope → DailyKeys
  minute : MinuteScope → Option ℕ

namespace Store

def empty : Store := ⟨.lua, fun _ => .empty, fun _ => none⟩

def setDaily (store : Store) (scope : DailyScope) (keys : DailyKeys) : Store :=
  { store with daily := Function.update store.daily scope keys }

/-- `INCR_MINUTE_LUA`: the count, and the store afterwards. -/
def incrementMinute (store : Store) (scope : MinuteScope) : ℕ × Store :=
  let count := (store.minute scope).getD 0 + 1
  (count, { store with minute := Function.update store.minute scope (some count) })

end Store

/-- Keys whose time to live runs out. -/
inductive Expiry
  | total (scope : DailyScope)
  | reserved (scope : DailyScope) (referenceId : String)
  | released (scope : DailyScope) (referenceId : String)
  | minute (scope : MinuteScope)

def Store.expire (store : Store) : Expiry → Store
  | .total scope => store.setDaily scope { store.daily scope with total := none }
  | .reserved scope referenceId =>
      store.setDaily scope
        { store.daily scope with
          reserved := Function.update (store.daily scope).reserved referenceId none }
  | .released scope referenceId =>
      store.setDaily scope
        { store.daily scope with
          released := Function.update (store.daily scope).released referenceId false }
  | .minute scope => { store with minute := Function.update store.minute scope none }

def Expiry.scope? : Expiry → Option DailyScope
  | .total scope | .reserved scope _ | .released scope _ => some scope
  | .minute _ => none

theorem expire_daily {store : Store} {expiry : Expiry} {scope : DailyScope}
    (other : expiry.scope? ≠ some scope) :
    (store.expire expiry).daily scope = store.daily scope := by
  cases expiry with
  | minute => rfl
  | total expired | reserved expired | released expired =>
      have different : scope ≠ expired := fun same => other (congrArg some same.symm)
      exact Function.update_of_ne different _ _

end BankingBackend.Redis
