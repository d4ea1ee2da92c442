import BankingBackend.Foundation.Program
import BankingBackend.Http.ClientContext

/-! # `GlobalRateLimitMiddleware`

One counter in Redis for each masked address and minute. Without Redis every request
passes.
-/

namespace BankingBackend.Http.GlobalRateLimit

open Foundation

/-- `eval` is `INCR_WITH_EXPIRE_LUA`, which answers with the counter. -/
inductive Command
  | isReady
  | date
  | eval (key : String)

@[reducible] def Command.Answer : Command → Type
  | .isReady => Bool
  | .date => ℕ
  | .eval _ => Except String ℤ

def interface : Interface := ⟨Command, Command.Answer⟩

def request (command : Command) : Program interface command.Answer := .call command .done

inductive Outcome
  | next
  | respond (status : ℕ) (message : String)
  deriving DecidableEq

def key (ip : String) (minuteWindow : ℕ) : String :=
  "global:rate:ip:" ++ ip ++ ":" ++ toString minuteWindow

def use (limitPerMinute : ℚ) (req : HttpRequest) : Program interface Outcome := do
  let ip := (getClientIpMasked req).getD "unknown"
  if ← request .isReady then
    let now ← request .date
    match ← request (.eval (key ip (now / 60000))) with
    | .error _ => pure .next
    | .ok count =>
        -- A counter that is not valid throws, and the error is caught like that of Redis.
        if count < 1 then pure .next
        else if limitPerMinute < count then
          pure (.respond 429 "Too many requests. Try again later.")
        else pure .next
  else pure .next

theorem use_congr {first second : HttpRequest}
    (same : getClientIpMasked first = getClientIpMasked second) (limitPerMinute : ℚ) :
    use limitPerMinute first = use limitPerMinute second := by
  rw [use, use, same]

end BankingBackend.Http.GlobalRateLimit
