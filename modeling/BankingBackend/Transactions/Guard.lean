import BankingBackend.Common.Service
import BankingBackend.Http.ClientContext

/-! # `TransactionsIdempotencyGuard`

The reference that the guard finds in a request.
-/

namespace BankingBackend.Transactions

open Common Http

def getHeaderReferenceId (request : HttpRequest) : Option String :=
  match request.header "x-reference-id" with
  | some (.text value) => present value
  | some (.list (value :: _)) => present value
  | _ => none

def getBodyReferenceId (bodyReferenceId : Option String) : Option String :=
  bodyReferenceId.bind present

/-- The reference of the idempotency key, once Redis is known to be ready. -/
def guardReferenceId (request : HttpRequest) (bodyReferenceId : Option String) :
    Except HttpException String :=
  match getHeaderReferenceId request, getBodyReferenceId bodyReferenceId with
  | some headerReferenceId, some bodyReferenceId =>
      if headerReferenceId ≠ bodyReferenceId then
        throw (.badRequest "referenceId in header and body must match")
      else pure headerReferenceId
  | some headerReferenceId, none => pure headerReferenceId
  | none, some bodyReferenceId => pure bodyReferenceId
  | none, none => throw (.badRequest "Missing referenceId")

end BankingBackend.Transactions
