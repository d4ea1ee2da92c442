import BankingBackend.Foundation.Program
import Mathlib.Data.Rat.Defs

/-! # `TransferRateLimitGuard`

One counter in Redis for each user and minute, shared by transfers and withdrawals.
Without Redis, and without a user, every request passes.
-/

namespace BankingBackend.Transactions.TransferRateLimit

open Foundation

/-- `eval` is `INCR_WITH_EXPIRE_LUA`, which answers with the counter. -/
inductive Command
  | isReady
  | date
  | eval (key : String)

@[reducible] def Command.Answer : Command → Type
  | .isReady => Bool
  | .date => ℕ
  | .eval _ => Except String ℤ

def interface : Interface := ⟨Command, Command.Answer⟩

/-- Only the first one extends `HttpException`. -/
inductive GuardError
  | tooManyRequests (message : String)
  | failed (message : String)
  deriving DecidableEq

abbrev Guard (α : Type) := ExceptT GuardError (Program interface) α

def request (command : Command) : Guard command.Answer :=
  ExceptT.lift (.call command .done : Program interface command.Answer)

def key (userId : String) (minuteWindow : ℕ) : String :=
  "transfer:rate:user:" ++ userId ++ ":" ++ toString minuteWindow

def checkLimit (key : String) (limit : ℚ) : Guard Unit := do
  match ← request (.eval key) with
  | .error message => throw (.failed message)
  | .ok count =>
      if count < 1 then
        throw (.failed ("Invalid transfer rate limit counter: " ++ toString count))
      else if limit < count then
        throw (.tooManyRequests "Too many transaction attempts. Try again later.")
      else pure ()

def checkUser (limitPerMinute : ℚ) (userId : String) : Guard Bool := do
  let now ← request .date
  checkLimit (key userId (now / 60000)) limitPerMinute
  pure true

/-- A user that is missing may also be an empty text. -/
def canActivate (limitPerMinute : ℚ) (userId : Option String) : Guard Bool := do
  if userId.getD "" = "" then pure true
  else if ← request .isReady then
    tryCatch (checkUser limitPerMinute (userId.getD "")) fun err =>
      match err with
      | .tooManyRequests message => throw (.tooManyRequests message)
      | .failed _ => pure true
  else pure true

end BankingBackend.Transactions.TransferRateLimit
