import BankingBackend.Foundation.Embedding
import BankingBackend.Redis.Keys
import BankingBackend.System

/-! # The environment of a request over HTTP

A request uses the environment of the service calls and the keys of the transactions
controller.
-/

namespace BankingBackend.Http

open Foundation Postgres Redis Common

abbrev gatewayInterface : Interface := Common.interface.sum keyInterface

abbrev Handler (α : Type) := ExceptT ServiceError (Program gatewayInterface) α

def issue (command : KeyCommand) : Handler command.Answer :=
  ExceptT.lift (.call (.inr command) .done : Program gatewayInterface command.Answer)

def serve {α : Type} (service : Service α) : Handler α := ExceptT.mk (Program.lift service.run)

def orThrow {α : Type} : Except HttpException α → Handler α
  | .ok value => pure value
  | .error exception => throw (.http exception)

/-! ## The shared state -/

/-- `evaluating` is history that nothing reads: the requests whose service call has found no
transaction to answer with and has gone on. -/
structure Host (Thread : Type) where
  world : World Thread
  keys : KeyStore Thread
  evaluating : Thread → Bool

inductive HostEvent
  | world (occurrence : Occurrence)
  | expire (expiry : KeyExpiry)

/-- The answer of the first look-up with which a call goes on. -/
def startsEvaluation : (command : Command) → command.Answer → Bool
  | .query (.transactionFindFirst _), .ok existing =>
      !existing.any fun row => row.status == .completed || Transactions.isFraudRejection row
  | _, _ => false

section Machine

variable {Thread : Type}

def evaluated {α : Type} (store : KeyStore Thread) (outcome : RedisOutcome)
    (result : α × KeyStore Thread) : Option α × KeyStore Thread :=
  match outcome with
  | .answered => (some result.1, result.2)
  | .lost => (none, result.2)
  | .refused => (none, store)

/-- No answer: the drawn identifier has been drawn before. -/
def performKey (thread : Thread) (command : KeyCommand) (choice : Choice)
    (store : KeyStore Thread) : Option (command.Answer × KeyStore Thread) :=
  match command with
  | .isReady => some (choice.ready, store)
  | .setNX key => some (evaluated store choice.redis (store.setNX thread key))
  | .get key => some (evaluated store choice.redis
      ((store.idempotency key).map Stored.state, store))
  | .del key => some (evaluated store choice.redis ((), store.setKey key none))
  | .setDone key => some (evaluated store choice.redis
      ((), store.setKey key (some ⟨.done, thread⟩)))
  | .randomUUID =>
      match store.drawn choice.newId with
      | some _ => none
      | none => some (choice.newId, store.draw thread choice.newId)
  | .lockNX userId token => some (evaluated store choice.redis (store.lockNX userId token))
  | .unlock userId token => some (evaluated store choice.redis ((), store.unlock userId token))

variable [DecidableEq Thread]

def Host.performCommand [Fintype Thread] (thread : Thread) (command : Command) (choice : Choice)
    (host : Host Thread) : Option (command.Answer × Host Thread) :=
  (host.world.perform thread command choice).map fun (answer, world) =>
    (answer,
      { host with
        world
        evaluating := Function.update host.evaluating thread
          (host.evaluating thread || startsEvaluation command answer) })

def Host.perform [Fintype Thread] (thread : Thread) : (op : gatewayInterface.Op) → Choice →
    Host Thread → Option (gatewayInterface.Answer op × Host Thread)
  | .inl command, choice, host => host.performCommand thread command choice
  | .inr command, choice, host =>
      (performKey thread command choice host.keys).map fun (answer, keys) =>
        (answer, { host with keys })

omit [DecidableEq Thread] in
def Host.environment (event : HostEvent) (host : Host Thread) : Option (Host Thread) :=
  match event with
  | .world occurrence => (host.world.environment occurrence).map fun world => { host with world }
  | .expire expiry => some { host with keys := host.keys.expire expiry }

end Machine

def gateway (Thread : Type) [DecidableEq Thread] [Fintype Thread] :
    Machine gatewayInterface Thread Choice HostEvent (Host Thread) where
  perform := Host.perform
  environment := Host.environment

theorem gateway_projects {Thread : Type} [DecidableEq Thread] [Fintype Thread] :
    Projects (gateway Thread) (machine Thread) Host.world where
  acts {thread op choice before answer after} performed := by
    rcases Option.map_eq_some_iff.mp performed with ⟨⟨reply, world⟩, done, equal⟩
    cases equal
    exact done
  others {thread op choice before answer after} performed := by
    rcases Option.map_eq_some_iff.mp performed with ⟨⟨reply, keys⟩, _, equal⟩
    cases equal
    rfl
  environment {event before after} happened := by
    cases event with
    | world occurrence =>
        rcases Option.map_eq_some_iff.mp happened with ⟨world, done, rfl⟩
        exact .inr ⟨occurrence, done⟩
    | expire expiry =>
        cases happened
        exact .inl rfl

end BankingBackend.Http
