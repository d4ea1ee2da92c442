import BankingBackend.Auth.LoginRateLimit
import BankingBackend.Foundation.FixedWindow
import BankingBackend.Foundation.Translation
import BankingBackend.Foundation.Transition
import BankingBackend.Http.GlobalRateLimit
import BankingBackend.Transactions.TransferRateLimit

/-! # Rate limits on one Redis

Every request passes the global limit first and then the limit of its route. All limits
count in the same Redis, whose commands may fail before or after they took effect, and
the requests are handled concurrently.
-/

namespace BankingBackend.Http.RateLimits

open Foundation
open Auth (LoginRateLimit.Settings)
open Postgres (DatabaseError)
open Transactions (TransferRateLimit.canActivate)

/-! ## Requests -/

inductive Route
  | login (bodyEmail : Option String)
  /-- `withdraw` and `transfer`, with the user of the token. -/
  | transaction (userId : Option String)
  | other

structure Incoming where
  http : HttpRequest
  route : Route

structure Limits where
  globalPerMinute : ℚ := 100
  login : LoginRateLimit.Settings := {}
  transferPerMinute : ℚ := 10

/-- `eval` also has the `WINDOW_SECONDS` of its limit. -/
inductive Command
  | isReady
  | date
  | eval (key : String) (windowSeconds : ℕ)
  | lockUntil (email : String)

@[reducible] def Command.Answer : Command → Type
  | .isReady => Bool
  | .date => ℕ
  | .eval _ _ => Except String ℤ
  | .lockUntil _ => Except DatabaseError (Option (Option ℤ))

def interface : Interface := ⟨Command, Command.Answer⟩

def globalRateLimit : Translation GlobalRateLimit.interface interface where
  op
    | .isReady => .isReady
    | .date => .date
    | .eval key => .eval key 60
  answer
    | .isReady, ready => ready
    | .date, now => now
    | .eval _, raw => raw

def loginRateLimit : Translation Auth.LoginRateLimit.interface interface where
  op
    | .date => .date
    | .isReady => .isReady
    | .eval key => .eval key 120
    | .lockUntil email => .lockUntil email
  answer
    | .date, now => now
    | .isReady, ready => ready
    | .eval _, raw => raw
    | .lockUntil _, customer => customer

def transferRateLimit : Translation Transactions.TransferRateLimit.interface interface where
  op
    | .isReady => .isReady
    | .date => .date
    | .eval key => .eval key 60
  answer
    | .isReady, ready => ready
    | .date, now => now
    | .eval _, raw => raw

inductive Verdict
  | admitted
  | refused (status : ℕ) (message : String)
  deriving DecidableEq

/-- An error that is no `HttpException` would be a 500. -/
def loginVerdict : Except Auth.LoginRateLimit.GuardError Bool → Verdict
  | .ok true => .admitted
  | .ok false => .refused 403 "Forbidden resource"
  | .error (.tooManyRequests message) => .refused 429 message
  | .error (.accountLocked message) => .refused 423 message
  | .error (.failed _) => .refused 500 "Internal server error"

def transferVerdict : Except Transactions.TransferRateLimit.GuardError Bool → Verdict
  | .ok true => .admitted
  | .ok false => .refused 403 "Forbidden resource"
  | .error (.tooManyRequests message) => .refused 429 message
  | .error (.failed _) => .refused 500 "Internal server error"

def guardRoute (limits : Limits) (toLowerCase : String → String) (incoming : Incoming) :
    Program interface Verdict :=
  match incoming.route with
  | .login bodyEmail =>
      loginVerdict <$> ((Auth.LoginRateLimit.canActivate limits.login toLowerCase incoming.http
        bodyEmail).run.through loginRateLimit)
  | .transaction userId =>
      transferVerdict <$> ((TransferRateLimit.canActivate limits.transferPerMinute
        userId).run.through transferRateLimit)
  | .other => pure .admitted

/-- The middleware, and then the guard of the route. -/
def judge (limits : Limits) (toLowerCase : String → String) (incoming : Incoming) :
    Program interface Verdict := do
  match ← (GlobalRateLimit.use limits.globalPerMinute incoming.http).through globalRateLimit with
  | .respond status message => pure (.refused status message)
  | .next => guardRoute limits toLowerCase incoming

/-! ## Redis -/

structure State (Thread : Type) where
  now : ℕ
  counters : FixedWindow.Counters String Thread

/-- What a step leaves open. A script that failed may have been executed. -/
structure Choice where
  ready : Bool
  failure : Option String
  executed : Bool
  customer : Except DatabaseError (Option (Option ℤ))

section Machine

variable {Thread : Type} [DecidableEq Thread]

def State.perform (state : State Thread) (thread : Thread) (choice : Choice) :
    (command : Command) → command.Answer × State Thread
  | .isReady => (choice.ready, state)
  | .date => (state.now, state)
  | .lockUntil _ => (choice.customer, state)
  | .eval key windowSeconds =>
      let ttl := 1000 * windowSeconds
      match choice.failure with
      | none => (.ok (state.counters.next state.now ttl key).count,
          { state with counters := state.counters.hit state.now ttl thread true key })
      | some message => (.error message,
          if choice.executed then
            { state with counters := state.counters.hit state.now ttl thread false key }
          else state)

/-- The environment lets time pass. -/
def machine : Machine interface Thread Choice ℕ (State Thread) where
  perform thread op choice state := some (state.perform thread choice op)
  environment time state := if state.now ≤ time then some { state with now := time } else none

abbrev Config (Thread : Type) := Foundation.Configuration interface Thread (State Thread) Verdict

def initially (limits : Limits) (toLowerCase : String → String) (incoming : Thread → Incoming)
    (now : ℕ) : Config Thread where
  shared := ⟨now, .empty⟩
  program thread := judge limits toLowerCase (incoming thread)
  begun _ := false

/-- What any number of requests can lead to, in any order of their steps. -/
def Reachable (limits : Limits) (toLowerCase : String → String) (incoming : Thread → Incoming)
    (current : Config Thread) : Prop :=
  ∃ now, Run machine.step Unrestricted (initially limits toLowerCase incoming now) current

end Machine

end BankingBackend.Http.RateLimits
