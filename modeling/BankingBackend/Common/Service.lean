import BankingBackend.Foundation.RelyGuarantee
import BankingBackend.Postgres.Server
import BankingBackend.Redis.Scripts

/-! # Service programs

A service method is a program over the database, Redis and the clock that
returns a value or throws.
-/

namespace BankingBackend.Common

open Foundation Postgres Redis

/-! ## Thrown errors -/

inductive HttpException
  | badRequest (message : String)
  | forbidden (message : String)
  | notFound (message : String)
  | conflict (message : String)
  deriving DecidableEq, Repr

def HttpException.message : HttpException → String
  | .badRequest message | .forbidden message | .notFound message | .conflict message => message

inductive ServiceError
  | http (exception : HttpException)
  | database (error : DatabaseError)
  deriving DecidableEq

namespace ServiceError

def message : ServiceError → String
  | .http exception => exception.message
  | .database error => error.message

def code : ServiceError → Option String
  | .http _ => none
  | .database error => error.code

end ServiceError

/-! ## Requests to the environment -/

inductive Command
  | query (statement : Statement)
  | isReady
  | evalReserve (scope : DailyScope) (referenceId : String) (amount dailyLimit : ℚ)
  | evalRelease (scope : DailyScope) (referenceId : String)
  | evalIncrementMinute (scope : MinuteScope)
  | now

/-- A script answers nothing when the client throws. -/
@[reducible] def Command.Answer : Command → Type
  | .query statement => Except DatabaseError statement.Result
  | .isReady => Bool
  | .evalReserve _ _ _ _ => Option Bool
  | .evalRelease _ _ => Option Unit
  | .evalIncrementMinute _ => Option ℕ
  | .now => ℕ

def interface : Interface := ⟨Command, Command.Answer⟩

abbrev Service (α : Type) := ExceptT ServiceError (Program interface) α

/-! ## The shared state -/

/-- The clock counts milliseconds and is shared by the services and the
database. -/
structure World (Thread : Type) where
  server : Server Thread
  redis : Store
  now : ℕ

/-- A failing Redis command may have been executed. -/
inductive RedisOutcome
  | answered
  | lost
  | refused
  deriving DecidableEq

/-- What a step leaves open. -/
structure Choice where
  failure : Option DatabaseError := none
  newId : Uuid := ⟨0⟩
  redis : RedisOutcome := .answered
  ready : Bool := true

inductive Occurrence
  | tick (now : ℕ)
  | expire (expiry : Expiry)

namespace World

variable {Thread : Type}

def evaluated {α : Type} (world : World Thread) (outcome : RedisOutcome)
    (result : α × Store) : Option α × World Thread :=
  match outcome with
  | .answered => (some result.1, { world with redis := result.2 })
  | .lost => (none, { world with redis := result.2 })
  | .refused => (none, world)

def reserve (world : World Thread) (scope : DailyScope) (referenceId : String)
    (amount dailyLimit : ℚ) : Bool × Store :=
  let result := reserveLua world.redis.numbers amount dailyLimit referenceId
    (world.redis.daily scope)
  (result.1, world.redis.setDaily scope result.2)

def release (world : World Thread) (scope : DailyScope) (referenceId : String) : Unit × Store :=
  let keys := releaseLua world.redis.numbers referenceId (world.redis.daily scope)
  ((), world.redis.setDaily scope keys)

variable [DecidableEq Thread] [Fintype Thread]

def perform (thread : Thread) (command : Command) (choice : Choice)
    (world : World Thread) : Option (command.Answer × World Thread) :=
  match command with
  | .query statement =>
      (world.server.perform thread choice.failure choice.newId world.now statement).map
        fun (answer, server) => (answer, { world with server })
  | .isReady => some (choice.ready, world)
  | .evalReserve scope referenceId amount dailyLimit =>
      some (world.evaluated choice.redis (world.reserve scope referenceId amount dailyLimit))
  | .evalRelease scope referenceId =>
      some (world.evaluated choice.redis (world.release scope referenceId))
  | .evalIncrementMinute scope =>
      some (world.evaluated choice.redis (world.redis.incrementMinute scope))
  | .now => some (world.now, world)

def environment (event : Occurrence) (world : World Thread) : Option (World Thread) :=
  match event with
  | .tick now => if world.now ≤ now then some { world with now } else none
  | .expire expiry => some { world with redis := world.redis.expire expiry }

end World

def machine (Thread : Type) [DecidableEq Thread] [Fintype Thread] :
    Machine interface Thread Choice Occurrence (World Thread) where
  perform := World.perform
  environment := World.environment

/-! ## Issuing requests -/

def request (command : Command) : Service command.Answer :=
  ExceptT.lift (.call command .done : Program interface command.Answer)

def query (statement : Statement) : Service statement.Result := do
  match ← request (.query statement) with
  | .ok result => pure result
  | .error error => throw (.database error)

/-- `prisma.$transaction`: commits what the body did, or rolls it back and throws
the body's error. -/
def transaction {α : Type} (body : Service α) : Service α := do
  query .begin
  match ← Program.attempt body with
  | .ok value =>
      query .commit
      pure value
  | .error error =>
      let _ ← Program.attempt (query .rollback)
      throw error

end BankingBackend.Common
