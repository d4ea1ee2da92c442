import BankingBackend.Auth.Server
import BankingBackend.Foundation.Program
import BankingBackend.Transactions.Dto

/-! # Requests of the services

What `AuthService` and `UsersService` ask of the database, the clock, `bcrypt`,
`crypto` and `JwtService`.
-/

namespace BankingBackend.Auth

open Foundation
open Postgres (Uuid DatabaseError)
open Transactions (RequestContext)

/-! ## Thrown errors -/

inductive HttpException
  | badRequest (message : String)
  | unauthorized (message : String)
  | notFound (message : String)
  | conflict (message : String)
  | locked (message : String)
  deriving DecidableEq, Repr

/-- `signing` is an error of `JwtService`. -/
inductive ServiceError
  | http (exception : HttpException)
  | database (error : DatabaseError)
  | signing (message : String)
  deriving DecidableEq

def ServiceError.code : ServiceError → Option String
  | .database error => error.code
  | _ => none

/-! ## Requests to the environment -/

inductive Command
  | query (statement : Statement)
  | date
  | bcryptHash (password : String)
  | randomBytes
  | signAsync (sub : Uuid)

@[reducible] def Command.Answer : Command → Type
  | .query statement => Except DatabaseError statement.Result
  | .date => ℕ
  | .bcryptHash _ => String
  | .randomBytes => String
  | .signAsync _ => Except String String

def interface : Interface := ⟨Command, Command.Answer⟩

abbrev Service (α : Type) := ExceptT ServiceError (Program interface) α

structure AuthConfig where
  loginLockThreshold : ℚ := 5
  loginLockDurationMinutes : ℤ := 15
  refreshExpiresIn : ℤ := 604800
  accessExpiresIn : ℤ := 900
  hash : (salt password : String) → String
  compare : (password passwordHash : String) → Bool
  sha256 : String → String

/-- A process that crashes takes no further steps. -/
structure World (Thread : Type) where
  server : Server Thread
  now : ℕ
  crashed : Thread → Bool := fun _ => false

/-- What a step leaves open. -/
structure Choice where
  failure : Option Failure := none
  newId : Uuid := ⟨0⟩
  drawn : String := ""

inductive Occurrence (Thread : Type)
  | tick (now : ℕ)
  | crash (thread : Thread)

namespace World

variable {Thread : Type} [DecidableEq Thread]

def perform (config : AuthConfig) (thread : Thread) (command : Command) (choice : Choice)
    (world : World Thread) : Option (command.Answer × World Thread) :=
  if world.crashed thread then none
  else match command with
  | .query statement =>
      (world.server.perform thread world.now choice.newId choice.failure statement).map
        fun (answer, server) => (answer, { world with server })
  | .date => some (toDate world.now, world)
  | .bcryptHash password => some (config.hash choice.drawn password, world)
  | .randomBytes => some (choice.drawn, world)
  | .signAsync _ =>
      some (match choice.failure with
        | none => .ok choice.drawn
        | some failure => .error failure.error.message, world)

def environment (event : Occurrence Thread) (world : World Thread) : Option (World Thread) :=
  match event with
  | .tick now => if world.now ≤ now then some { world with now } else none
  | .crash thread => some
      { world with
        server := world.server.rollback thread
        crashed := Function.update world.crashed thread true }

end World

def machine (Thread : Type) [DecidableEq Thread] (config : AuthConfig) :
    Machine interface Thread Choice (Occurrence Thread) (World Thread) where
  perform := World.perform config
  environment := World.environment

/-! ## Issuing requests -/

def request (command : Command) : Service command.Answer :=
  ExceptT.lift (.call command .done : Program interface command.Answer)

def query (statement : Statement) : Service statement.Result := do
  match ← request (.query statement) with
  | .ok result => pure result
  | .error error => throw (.database error)

def signAsync (sub : Uuid) : Service String := do
  match ← request (.signAsync sub) with
  | .ok token => pure token
  | .error message => throw (.signing message)

/-- `prisma.$transaction`. -/
def transaction {α : Type} (body : Service α) : Service α := do
  query .begin
  match ← Program.attempt body with
  | .ok value =>
      query .commit
      pure value
  | .error error =>
      let _ ← Program.attempt (query .rollback)
      throw error

def revokeEach (revokedAt : ℕ) : List Uuid → Service Unit
  | [] => pure ()
  | id :: rest => do
      let _ ← query (.refreshTokenRevokeLive id revokedAt)
      revokeEach revokedAt rest

/-- `refreshToken.updateMany` over the live tokens of a customer. -/
def revokeAllLive (customerId : Uuid) : Service Unit := do
  let revokedAt ← request .date
  let ids ← query (.refreshTokenSelectLive customerId)
  revokeEach revokedAt ids

/-- `AuditService.record` of a customer. -/
def recordAudit (context : RequestContext) (action : AuditAction) (customerId : Uuid)
    (success : Bool) (reasonCode : Option String) : Service Unit :=
  query (.auditLogCreate
    { action
      success
      customerId
      traceId := context.traceId
      reasonCode
      ipAddress := context.clientIpMasked
      userAgent := context.userAgent })

def recordSuccess (context : RequestContext) (action : AuditAction) (customerId : Uuid) :
    Service Unit :=
  recordAudit context action customerId true none

end BankingBackend.Auth
