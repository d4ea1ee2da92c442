import BankingBackend.Auth.System
import BankingBackend.Messaging.Registrations
import BankingBackend.Outbox.Publications
import BankingBackend.System

/-! # The whole backend

The calls of the bank and of its customers commit events to one table. The outbox
publishes these to the broker, whose queues the consumers take them from. The parts
are the systems of their own modules; only what passes between them is added here.
-/

namespace BankingBackend.Platform

open Foundation
open Auth (AuthConfig UserRegisteredEvent)
open Messaging (Consumer CustomerContact EventSettings Message)
open Outbox (Contents OutboxPublishMessage PublishOptions)
open Postgres (Event EventType TransactionEventPayload Uuid)

/-! ## The table of events -/

inductive EventPayload
  | transaction (payload : TransactionEventPayload)
  | userRegistered (event : UserRegisteredEvent)

def typeName : EventType → String
  | .transactionCompleted => "TRANSACTION_COMPLETED"
  | .transactionFailed => "TRANSACTION_FAILED"
  | .userRegistered => "USER_REGISTERED"

/-- The row of an event of the bank. -/
def transactionRow (event : Event) : Contents EventPayload where
  id := event.id
  type := typeName event.type
  payload := .transaction event.payload
  createdAt := event.createdAt

def registrationRow (createdAt : ℕ) (id : Uuid) (event : UserRegisteredEvent) :
    Contents EventPayload where
  id
  type := typeName .userRegistered
  payload := .userRegistered event
  createdAt

/-! ## On the wire -/

def EventPayload.encode : EventPayload → Json
  | .transaction payload => Messaging.encodePayload payload
  | .userRegistered event => Messaging.encodeRegistered event

/-- What the consumers receive when the outbox publishes a message. -/
def sent (settings : EventSettings) (exchange routingKey : String)
    (message : OutboxPublishMessage EventPayload) (options : PublishOptions) : Message where
  exchange
  routingKey
  messageId := some options.messageId.toText
  headers :=
    [("eventType", .string options.headers.eventType),
      ("source", .string options.headers.source),
      ("schemaVersion", .string options.headers.schemaVersion)]
  content := .ok (.object
    [("eventId", .string message.eventId.toText),
      ("type", .string message.type),
      ("occurredAt", .string (settings.toISOString message.occurredAt)),
      ("schemaVersion", .string message.schemaVersion),
      ("payload", message.payload.encode)])

/-! ## States -/

structure Settings (Worker : Type) where
  fraud : Fraud.FraudConfig := {}
  auth : AuthConfig
  events : EventSettings
  consumers : Worker → Consumer

def Settings.deployment {Worker : Type} (settings : Settings Worker) :
    Messaging.Deployment Worker where
  consumers := settings.consumers
  config := settings.events.consumers

structure State (Thread Visitor Publisher Worker : Type) where
  bank : BankingBackend.Configuration Thread
  auth : Auth.Configuration Visitor
  outbox : Outbox.Configuration Publisher EventPayload
  consumers : Messaging.Configuration Worker

/-- Identifiers are drawn for the events that a call of `AuthService` commits. -/
inductive Label (Thread Visitor Publisher Worker : Type)
  | bank (label : BankingBackend.Label Thread)
  | auth (label : Auth.Label Visitor) (newIds : List Uuid)
  | outbox (label : Outbox.Label Publisher EventPayload)
  | consumers (label : Messaging.Label Worker)

section Steps

variable {Thread Visitor Publisher Worker : Type} [DecidableEq Thread] [Fintype Thread]
  [DecidableEq Visitor] [DecidableEq Publisher] [DecidableEq Worker]

omit [DecidableEq Thread] [Fintype Thread] [DecidableEq Visitor] [DecidableEq Publisher]
  [DecidableEq Worker] in
/-- The customer as the consumers find it. -/
def State.contact? (state : State Thread Visitor Publisher Worker) (id : String) :
    Option CustomerContact :=
  ((Uuid.parse? id).bind state.auth.shared.server.customers.committed).map fun customer =>
    { email := customer.email, name := customer.name }

/-! ## Steps -/

/-- Insert the rows; no identifier is drawn twice. -/
def insert (outbox : Outbox.Configuration Publisher EventPayload) :
    List (Contents EventPayload) → Option (Outbox.Configuration Publisher EventPayload)
  | [] => some outbox
  | row :: rows =>
      (Outbox.step outbox (.environment
        (.create row.id row.type row.payload row.createdAt))).bind fun following =>
          insert following rows

/-- The message that a step hands to the broker. A publish that fails may have reached it. -/
def arrives (settings : EventSettings) (outbox : Outbox.Configuration Publisher EventPayload) :
    Outbox.Label Publisher EventPayload → Option Message
  | .environment _ => none
  | .perform publisher choice =>
      match outbox.program publisher with
      | .call (.publish exchange routingKey message options) _ =>
          if choice.failure.all fun failure => failure.executed then
            some (sent settings exchange routingKey message options)
          else none
      | _ => none

def receive (settings : Settings Worker) (consumers : Messaging.Configuration Worker) :
    Option Message → Option (Messaging.Configuration Worker)
  | none => some consumers
  | some message => settings.deployment.step consumers (.environment (.publish message))

/-- A consumer that looks for a customer finds the committed row. -/
def State.answering (state : State Thread Visitor Publisher Worker) :
    Messaging.Label Worker → Messaging.Label Worker
  | .environment event => .environment event
  | .perform worker choice =>
      match state.consumers.program worker with
      | .call (.customerFindUnique id) _ =>
          .perform worker { choice with customer := state.contact? id }
      | _ => .perform worker choice

/-- Only the calls create events and only the outbox publishes. -/
def step (settings : Settings Worker) (state : State Thread Visitor Publisher Worker) :
    Label Thread Visitor Publisher Worker → Option (State Thread Visitor Publisher Worker)
  | .bank label => do
      let bank ← BankingBackend.step state.bank label
      let events := bank.shared.server.database.events.drop
        state.bank.shared.server.database.events.length
      let outbox ← insert state.outbox (events.map transactionRow)
      pure { state with bank, outbox }
  | .auth label newIds => do
      let auth ← Auth.step settings.auth state.auth label
      let events := auth.shared.server.events.drop state.auth.shared.server.events.length
      if newIds.length = events.length then
        let rows := List.zipWith (registrationRow (Auth.toDate auth.shared.now)) newIds events
        let outbox ← insert state.outbox rows
        pure { state with auth, outbox }
      else none
  | .outbox (.environment (.create _ _ _ _)) => none
  | .outbox label => do
      let outbox ← Outbox.step state.outbox label
      let consumers ← receive settings state.consumers
        (arrives settings.events state.outbox label)
      pure { state with outbox, consumers }
  | .consumers (.environment (.publish _)) => none
  | .consumers label => do
      let consumers ← settings.deployment.step state.consumers (state.answering label)
      pure { state with consumers }

/-! ## Runs -/

omit [DecidableEq Thread] [Fintype Thread] [DecidableEq Visitor] [DecidableEq Publisher]
  [DecidableEq Worker] in
/-- Nothing has happened yet. The parts may read different clocks. -/
def initial (Publisher : Type) (settings : Settings Worker) (requests : Thread → Request)
    (visits : Visitor → Auth.Request) (redis : Redis.Store) (now visited listed queued : ℕ) :
    State Thread Visitor Publisher Worker where
  bank := BankingBackend.initial settings.fraud requests redis now
  auth := Auth.initial settings.auth visits visited
  outbox := Outbox.initial Publisher EventPayload settings.events.outbox listed
  consumers := settings.deployment.initial queued

def Reachable (settings : Settings Worker) (requests : Thread → Request)
    (visits : Visitor → Auth.Request) (state : State Thread Visitor Publisher Worker) : Prop :=
  ∃ redis now visited listed queued, Run (step settings) Unrestricted
    (initial Publisher settings requests visits redis now visited listed queued) state

end Steps

end BankingBackend.Platform
