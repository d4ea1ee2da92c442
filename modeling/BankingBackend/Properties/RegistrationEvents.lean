import BankingBackend.Auth.Events
import BankingBackend.Http.ClientContext
import BankingBackend.Messaging.Registrations

/-! # Registration events and their consumers

Two queues are bound for a registration event. The consumer of the one takes it, the
consumer of the other has no case for it.
-/

namespace BankingBackend.Auth

open Foundation Http Messaging
open Outbox (ClaimedEventRow)
open Postgres (Uuid)

/-- A call over HTTP, with the identifier that the middleware draws. -/
structure HttpCall where
  http : HttpRequest
  traceId : Uuid
  operation : Operation

def HttpCall.request (call : HttpCall) : Request where
  context := traceIdMiddleware call.traceId call.http
  operation := call.operation

def HttpCall.event (call : HttpCall) (customerId : Uuid) : UserRegisteredEvent :=
  registeredEvent call.request.context customerId

theorem HttpCall.event_traceId (call : HttpCall) (customerId : Uuid) :
    Filled (call.event customerId).traceId := by
  have same : (call.event customerId).traceId = call.traceId.toText := rfl
  rw [same]
  exact filled_toText call.traceId

section Runs

variable {Thread : Type} [DecidableEq Thread] (settings : EventSettings) (config : AuthConfig)
  (calls : Thread → HttpCall)

/-- Every call that has registered a customer has written an event, which is consumed at every
queue that it reaches. -/
def RegistrationsConsumed : Prop :=
  ∀ current, Reachable config (fun thread => (calls thread).request) Unrestricted current →
    ∀ thread dto response, (calls thread).operation = .register dto →
      current.program thread = .done (.ok response) →
        ∃ customerId, (calls thread).event customerId ∈ current.shared.server.events ∧
          ∀ row, ConsumedEverywhere settings (registration row ((calls thread).event customerId))

/-- Every call that has registered a customer has written an event. No event of the calls is
consumed at every queue: the one for e-mails consumes it, the other never does. -/
structure NeverConsumed : Prop where
  written : ∀ current, Reachable config (fun thread => (calls thread).request) Unrestricted current →
    ∀ thread dto response, (calls thread).operation = .register dto →
      current.program thread = .done (.ok response) →
        ∃ customerId, (calls thread).event customerId ∈ current.shared.server.events
  reaches : ∀ row event consumer,
    settings.consumers.topology.routes (published settings (registration row event)) consumer = true
  consumed : ∀ current, Reachable config (fun thread => (calls thread).request) Unrestricted current →
    ∀ event ∈ current.shared.server.events, ∀ row consumer,
      Consumed settings.consumers consumer event.actorId.toText
        (published settings (registration row event)) ↔ consumer = .email
  refused : ∀ row event, ¬ConsumedEverywhere settings (registration row event)

theorem registrations_never_consumed : NeverConsumed settings config calls where
  written current reachable thread dto response registers ended :=
    reachable.registered_written registers ended
  reaches := routes_registration settings
  consumed current reachable event member row consumer := by
    rcases reachable.eventsRegistered.committed event member with ⟨thread, customerId, rfl⟩
    exact consumed_registration_iff ((calls thread).event_traceId customerId) consumer
  refused := not_consumedEverywhere settings

end Runs

/-! ## One registration -/

def sampleSettings : EventSettings :=
  defaultSettings fun _ => "2024-01-01T00:00:00.000Z"

def registeringOverHttp (_ : Unit) : HttpCall where
  http := { ip := some "203.0.113.7" }
  traceId := ⟨1⟩
  operation := registering.operation

def sampleRow (event : UserRegisteredEvent) : ClaimedEventRow UserRegisteredEvent where
  id := ⟨9⟩
  type := "USER_REGISTERED"
  payload := event
  retryCount := 0
  nextRetryAt := none
  lastError := none
  publishedAt := none
  createdAt := 0
  claimedAt := some 0

def succeeded (current : Configuration Unit) : Bool :=
  match current.program () with
  | .done (.ok _) => true
  | _ => false

private theorem registration_leads : leadsTo sampleConfig
    (fun thread => (registeringOverHttp thread).request) (List.replicate 7 (act () 7)) succeeded =
      true := by
  decide +kernel

/-- The customer is registered, and a consumer rejects the event. -/
theorem registration_rejected :
    ¬RegistrationsConsumed sampleSettings sampleConfig registeringOverHttp := by
  intro consumed
  rcases exists_reachable sampleConfig (fun thread => (registeringOverHttp thread).request)
      (fun _ _ => True.intro) registration_leads with ⟨current, reachable, passed⟩
  unfold succeeded at passed
  split at passed
  · rename_i response ended
    rcases consumed current reachable () _ response rfl ended with ⟨customerId, _, everywhere⟩
    exact not_consumedEverywhere sampleSettings _ _
      (everywhere (sampleRow ((registeringOverHttp ()).event customerId)))
  · cases passed

end BankingBackend.Auth
