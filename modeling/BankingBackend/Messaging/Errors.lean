import BankingBackend.Foundation.Text

/-! # Errors of the consumers

Thrown values and their classification as transient or permanent.
-/

namespace BankingBackend.Messaging

open Foundation

inductive ErrorClass
  | permanentConsumerError
  | transientConsumerError
  | prismaKnownRequestError
  | prismaInitializationError
  | prismaValidationError
  | prismaRustPanicError
  | prismaUnknownRequestError
  | aggregateError
  | other
  deriving DecidableEq, Repr

/-- What can be thrown: an instance of `Error`, or any other value with its text. A
`code` that is not a string is left out; only an `AggregateError` has `errors`. -/
inductive Thrown
  | error (class_ : ErrorClass) (message : String) (code : Option String) (cause : Thrown)
      (errors : List Thrown)
  | value (text : String)

namespace Thrown

def undefined : Thrown := .value "undefined"

def permanent (message : String) : Thrown :=
  .error .permanentConsumerError message none .undefined []

def transient (message : String) : Thrown :=
  .error .transientConsumerError message none .undefined []

def plain (message : String) : Thrown := .error .other message none .undefined []

/-- `error instanceof Error ? error.message : String(error)`. -/
def text : Thrown → String
  | .error _ message _ _ _ => message
  | .value text => text

end Thrown

/-! ## Classification -/

def TRANSIENT_PRISMA_KNOWN_CODES : List String :=
  ["P1001", "P1002", "P1008", "P1017", "P2024", "P2034"]

def TRANSIENT_NODE_ERRNO_CODES : List String :=
  ["ECONNRESET", "ECONNREFUSED", "ETIMEDOUT", "EPIPE", "EAI_AGAIN", "EHOSTUNREACH",
    "ESOCKETTIMEDOUT", "UND_ERR_CONNECT_TIMEOUT", "UND_ERR_SOCKET"]

def classifyPrismaError (class_ : ErrorClass) (code : Option String) : Option Bool :=
  match class_ with
  | .prismaKnownRequestError => some (code.any fun code => TRANSIENT_PRISMA_KNOWN_CODES.contains code)
  | .prismaInitializationError => some true
  | .prismaValidationError => some false
  | .prismaRustPanicError => some false
  | .prismaUnknownRequestError => some true
  | _ => none

def classifyNodeOrNetworkError (code : Option String) : Option Bool :=
  if code.any fun code => TRANSIENT_NODE_ERRNO_CODES.contains code then some true else none

def fallbackMessageLooksTransient (message : String) : Bool :=
  let msg := message.toLower
  containsText msg "timeout".toList || containsText msg "timed out".toList ||
    containsText msg "econnreset".toList || containsText msg "econnrefused".toList ||
    containsText msg "etimedout".toList

def classifyErrorInstance (class_ : ErrorClass) (code : Option String) : Option Bool :=
  (classifyPrismaError class_ code).or (classifyNodeOrNetworkError code)

/-- The first decision along the chain of causes, down to a depth. -/
def walkErrorCauses : ℕ → Thrown → Option Bool
  | 0, _ => none
  | _ + 1, .value _ => none
  | depth + 1, .error class_ _ code cause _ =>
      (classifyErrorInstance class_ code).or (walkErrorCauses depth cause)

def walkAggregateErrors : Thrown → Option Bool
  | .error .aggregateError _ _ _ errors => errors.findSome? (walkErrorCauses 8)
  | _ => none

def isTransientConsumerError (error : Thrown) : Bool :=
  match error with
  | .error .transientConsumerError _ _ _ _ => true
  | .error .permanentConsumerError _ _ _ _ => false
  | .error _ message _ _ _ =>
      match (walkAggregateErrors error).or (walkErrorCauses 8 error) with
      | some decision => decision
      | none => fallbackMessageLooksTransient message
  | .value _ => false

end BankingBackend.Messaging
