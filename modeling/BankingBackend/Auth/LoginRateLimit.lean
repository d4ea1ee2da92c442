import BankingBackend.Auth.Service
import BankingBackend.Http.ClientContext

/-! # `LoginRateLimitGuard`

The guard runs before the login. It counts the logins of a minute in Redis, and without
Redis it looks for a lock in the database.
-/

namespace BankingBackend.Auth.LoginRateLimit

open Foundation
open Http (HttpRequest)
open Postgres (DatabaseError)

/-! ## Requests to the environment -/

/-- `eval` is `INCR_WITH_EXPIRE_LUA`, which answers with the counter. `lockUntil` is
`customer.findUnique` with that column selected. -/
inductive Command
  | date
  | isReady
  | eval (key : String)
  | lockUntil (email : String)

@[reducible] def Command.Answer : Command → Type
  | .date => ℕ
  | .isReady => Bool
  | .eval _ => Except String ℤ
  | .lockUntil _ => Except DatabaseError (Option (Option ℤ))

def interface : Interface := ⟨Command, Command.Answer⟩

/-- The first two are the ones that extend `HttpException`. -/
inductive GuardError
  | tooManyRequests (message : String)
  | accountLocked (message : String)
  | failed (message : String)
  deriving DecidableEq

abbrev Guard (α : Type) := ExceptT GuardError (Program interface) α

def request (command : Command) : Guard command.Answer :=
  ExceptT.lift (.call command .done : Program interface command.Answer)

/-! ## The guard -/

structure Settings where
  ipPerMinute : ℚ := 20
  emailPerMinute : ℚ := 10

def getClientIp (req : HttpRequest) : String := (req.ip.or req.remoteAddress).getD "unknown"

def checkLimit (key : String) (limit : ℚ) : Guard Unit := do
  match ← request (.eval key) with
  | .error message => throw (.failed message)
  | .ok count =>
      if count < 1 then
        throw (.failed ("Invalid login rate limit counter: " ++ toString count))
      else if limit < count then
        throw (.tooManyRequests "Too many login attempts. Try again later.")
      else pure ()

def checkDbAccountLock (email : String) : Guard Bool := do
  if email = "" then pure true
  else match ← request (.lockUntil email) with
  -- The error is caught and logged.
  | .error _ => pure true
  | .ok none => pure true
  | .ok (some none) => pure true
  | .ok (some (some lockUntil)) =>
      if ((← request .date) : ℤ) < lockUntil then throw (.accountLocked lockedMessage)
      else pure true

def ipKey (ip : String) (minuteWindow : ℕ) : String :=
  "login:ip:" ++ ip ++ ":" ++ toString minuteWindow

def emailKey (email : String) (minuteWindow : ℕ) : String :=
  "login:email:" ++ email ++ ":" ++ toString minuteWindow

def checkLimits (settings : Settings) (ip email : String) (minuteWindow : ℕ) : Guard Bool := do
  checkLimit (ipKey ip minuteWindow) settings.ipPerMinute
  if email ≠ "" then checkLimit (emailKey email minuteWindow) settings.emailPerMinute
  pure true

/-- The email of the body as the guard looks it up, empty when there is none. -/
def normalizeEmail (toLowerCase : String → String) (email : Option String) : String :=
  (email.map fun text => toLowerCase (trim text)).getD ""

def canActivate (settings : Settings) (toLowerCase : String → String) (req : HttpRequest)
    (bodyEmail : Option String) : Guard Bool := do
  let now ← request .date
  let email := normalizeEmail toLowerCase bodyEmail
  if ← request .isReady then
    tryCatch (checkLimits settings (getClientIp req) email (now / 60000)) fun err =>
      match err with
      | .tooManyRequests message => throw (.tooManyRequests message)
      | .accountLocked message => throw (.accountLocked message)
      | .failed _ => checkDbAccountLock email
  else checkDbAccountLock email

end BankingBackend.Auth.LoginRateLimit
