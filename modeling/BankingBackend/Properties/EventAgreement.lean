import BankingBackend.Calls.Events
import BankingBackend.Messaging.Encoding
import BankingBackend.Properties.Balances
import BankingBackend.Transactions.Guard

/-! # The consumers accept what the event writer writes -/

namespace BankingBackend

open Foundation Postgres Transactions Http Messaging Fraud

/-- A request of an authenticated user that the guard has let through; it looks at no
reference while Redis is not ready. -/
structure HttpCall where
  http : HttpRequest
  userId : Uuid
  traceId : Uuid
  operation : Operation
  redisReady : Bool := true
  admitted : redisReady = true → ∀ params, Request.params? { userId, operation } = some params →
    (guardReferenceId http (some params.referenceId)).isOk = true

namespace HttpCall

def request (call : HttpCall) : Request where
  userId := call.userId
  context := traceIdMiddleware call.traceId call.http
  operation := call.operation

/-- The reference is not blank, and the address of the client is more than the prefix of a
mapped one. -/
def Plain (call : HttpCall) : Prop :=
  ∀ params, call.request.params? = some params →
    Filled params.referenceId ∧ clientAddress call.http ≠ some "::ffff:"

end HttpCall

def Accepted (payload : TransactionEventPayload) : Prop :=
  ∃ validated, validateTransactionEventPayload (some (encodePayload payload)) = .ok validated

/-- Whatever the event writer writes for the requests is accepted, and so is every event that
a run of their calls commits. -/
structure EventsAgree {Thread : Type} [DecidableEq Thread] [Fintype Thread] (config : FraudConfig)
    (calls : Thread → HttpCall) : Prop where
  written : ∀ thread payload, Written (calls thread).request payload → Accepted payload
  reached : ∀ current, Reachable config (fun thread => (calls thread).request) current →
    ∀ event ∈ current.shared.server.database.events, Accepted event.payload

/-! ## Texts of a payload -/

theorem accepted_iff {payload : TransactionEventPayload} : Accepted payload ↔ Legible payload := by
  unfold Accepted
  simp only [validate_encodePayload]
  constructor
  · rintro ⟨_, legible, _⟩
    exact legible
  · exact fun legible => ⟨_, legible, rfl⟩

/-- A text without a hyphen is no identifier. -/
theorem filled_of_isUUID {text : String} (valid : isUUID text = true) : Filled text := by
  intro blank
  have spaces := trim_eq_empty_iff.mp blank
  have single : text.toList.splitOn '-' = [text.toList] := by
    rw [List.splitOn_eq_splitOnP, List.splitOnP_eq_singleton]
    intro character member
    rw [beq_eq_false_iff_ne]
    rintro rfl
    exact absurd (spaces '-' member) (by decide)
  simp [isUUID, hexGroups, single] at valid

section Payloads

variable {request : Request} {params : TransactionParams}

theorem Request.accountIds_filled (asks : request.params? = some params) :
    (∀ text ∈ params.fromAccountId, Filled text) ∧ ∀ text ∈ params.toAccountId, Filled text := by
  rcases request with ⟨userId, context, operation⟩
  cases operation with
  | createDeposit dto =>
      cases asks
      exact ⟨by rintro _ ⟨⟩, by rintro _ ⟨⟩; exact filled_of_isUUID dto.toAccountIdIsUUID⟩
  | createWithdraw dto =>
      cases asks
      exact ⟨by rintro _ ⟨⟩; exact filled_of_isUUID dto.fromAccountIdIsUUID, by rintro _ ⟨⟩⟩
  | createTransfer dto =>
      cases asks
      exact ⟨by rintro _ ⟨⟩; exact filled_of_isUUID dto.fromAccountIdIsUUID,
        by rintro _ ⟨⟩; exact filled_of_isUUID dto.toAccountIdIsUUID⟩
  | _ => cases asks

/-- The masked address is filled unless it was only the prefix of a mapped one. -/
theorem clientIpMasked_filled (http : HttpRequest) :
    (∀ text ∈ getClientIpMasked http, Filled text) ↔ clientAddress http ≠ some "::ffff:" := by
  unfold getClientIpMasked
  cases found : clientAddress http with
  | none => simp
  | some address =>
      have shown : address ≠ "" := by
        rintro rfl
        exact clientAddress_filled found rfl
      rw [ne_eq, Option.some.injEq, ← normalizeIp_eq_empty shown]
      constructor
      · intro filled empty
        have masked : maskIp address = "" := by
          rw [(normalizeIp_eq_empty shown).mp empty]
          decide
        exact filled _ rfl (by rw [masked]; rfl)
      · rintro left _ ⟨⟩
        exact maskIp_filled left

theorem accepted_eventPayload {http : HttpRequest} {traceId resourceId : Uuid} {outcome : Outcome}
    {reasonCode fraudRule : Option String} (asks : request.params? = some params)
    (reason : ∀ text ∈ reasonCode, Filled text) (rule : FraudReason fraudRule) :
    Accepted (eventPayload (traceIdMiddleware traceId http) params resourceId outcome reasonCode
        fraudRule) ↔
      Filled params.referenceId ∧ clientAddress http ≠ some "::ffff:" := by
  have accountIds := Request.accountIds_filled asks
  rw [accepted_iff, ← clientIpMasked_filled]
  constructor
  · intro legible
    exact ⟨legible.referenceId, legible.clientIpMasked⟩
  · rintro ⟨referenceId, clientIpMasked⟩
    exact
      { traceId := filled_toText traceId
        reasonCode := reason
        referenceId
        fromAccountId := accountIds.1
        toAccountId := accountIds.2
        fraudRule := rule
        clientIpMasked
        userAgent := fun _ found => getUserAgent_filled found }

end Payloads

theorem Written.accepted_iff {call : HttpCall} {payload : TransactionEventPayload}
    (written : Written call.request payload) :
    ∃ params, call.request.params? = some params ∧ (Accepted payload ↔
      Filled params.referenceId ∧ clientAddress call.http ≠ some "::ffff:") := by
  cases written with
  | completed asks resourceId =>
      exact ⟨_, asks, accepted_eventPayload asks (by rintro _ ⟨⟩) (by rintro _ ⟨⟩)⟩
  | rejected asks resourceId reason =>
      refine ⟨_, asks, accepted_eventPayload asks ?_ reason⟩
      rintro _ ⟨⟩
      decide

/-! ## The agreement -/

section Runs

variable {Thread : Type} [DecidableEq Thread] [Fintype Thread]

/-- The consumers accept every event of the calls exactly when all of them are plain. -/
theorem events_agree (config : FraudConfig) (calls : Thread → HttpCall) :
    EventsAgree config calls ↔ ∀ thread, (calls thread).Plain := by
  have accepted (plain : ∀ thread, (calls thread).Plain) (thread : Thread)
      (payload : TransactionEventPayload) (written : Written (calls thread).request payload) :
      Accepted payload := by
    rcases written.accepted_iff with ⟨params, asks, iff⟩
    exact iff.mpr (plain thread params asks)
  constructor
  · intro agree thread params asks
    have written := agree.written thread _ (.completed asks ⟨0⟩)
    rwa [HttpCall.request, accepted_eventPayload asks (by rintro _ ⟨⟩) (by rintro _ ⟨⟩)] at written
  · intro plain
    refine ⟨accepted plain, fun current reachable event member => ?_⟩
    rcases reachable.written event member with ⟨thread, written⟩
    exact accepted plain thread _ written

end Runs

/-! ### A reference in the header and a blank one in the body -/

/-- The customer opens an account, and deposits 10.00 under a header that the guard takes
for the reference. -/
def blankCalls : Fin 3 → HttpCall
  | 0 =>
      { http := {}
        userId := ⟨7⟩
        traceId := ⟨1⟩
        operation := .createAccount ⟨.USD⟩
        admitted := by rintro - _ ⟨⟩ }
  | _ =>
      { http := { headers := [("x-reference-id", .text "deposit")] }
        userId := ⟨7⟩
        traceId := ⟨2⟩
        operation := .createDeposit
          ((CreateDepositRequestDto.validate 10 "   " sampleText).get (by decide +kernel))
        admitted := by
          rintro - _ ⟨⟩
          decide +kernel }

def blankRun : List (Label (Fin 3)) :=
  [act 0, act 0 sampleId, act 0] ++ List.replicate 8 (act 1)

private theorem blank_leads : leadsTo {} (fun thread => (blankCalls thread).request) blankRun
    (fun current => current.shared.server.database.events.any fun event =>
      !(validateTransactionEventPayload (some (encodePayload event.payload))).isOk) = true := by
  decide +kernel

/-- The deposit is committed, but its event is rejected. -/
theorem blank_rejected : ¬EventsAgree {} blankCalls := by
  intro agree
  rcases exists_reachable blank_leads with ⟨current, reachable, passed⟩
  rcases List.any_eq_true.mp passed with ⟨event, member, rejected⟩
  rcases agree.reached current reachable event member with ⟨validated, accepted⟩
  rw [accepted] at rejected
  cases rejected

end BankingBackend
