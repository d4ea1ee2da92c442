import BankingBackend.Http.Turn
import BankingBackend.Properties.Balances

/-! # What makes two requests the same

The guard tells the requests of a user apart by its key in Redis, and the service by the
transaction it looks up. The two agree except on references that the guard trims.
-/

namespace BankingBackend.Http

open Foundation Postgres Redis Common Fraud Transactions Transactions.Controller

def Keyable (submission : Submission) : Prop := ∃ key, guardKey submission = .ok key

def SameKey (first second : Submission) : Prop :=
  ∃ key otherKey, guardKey first = .ok key ∧ guardKey second = .ok otherKey ∧
    key.text = otherKey.text

def LooksUp (config : FraudConfig) (submission : Submission) (key : TransactionKey) : Prop :=
  ∃ next, (handle config (Incoming.posts submission).request).run =
    .call (.query (.transactionFindFirst key)) next

/-- Both requests come to the service, which looks up one transaction for both. -/
def SameLookUp (config : FraudConfig) (first second : Submission) : Prop :=
  Keyable first ∧ Keyable second ∧ ∃ key, LooksUp config first key ∧ LooksUp config second key

/-! ## References -/

def bodyReference (submission : Submission) : String := (submission.text "referenceId").getD ""

def headerReference (submission : Submission) : Option String :=
  getHeaderReferenceId submission.http

/-- Different references stay different when they are trimmed and a blank one is replaced by its
header, and equal blank ones have equal headers. -/
def SpelledAlike (first second : Submission) : Prop :=
  if Filled (bodyReference first) then
    if Filled (bodyReference second) then
      trim (bodyReference first) = trim (bodyReference second) →
        bodyReference first = bodyReference second
    else headerReference second ≠ some (trim (bodyReference first))
  else
    if Filled (bodyReference second) then
      headerReference first ≠ some (trim (bodyReference second))
    else headerReference first = headerReference second ↔
      bodyReference first = bodyReference second

section Guard

variable {submission : Submission} {operation : Operation}

theorem guardReference_eq {reference referenceId : String}
    (body : submission.text "referenceId" = some reference)
    (extracts : extractReferenceId submission = .ok referenceId) :
    (if Filled reference then some (trim reference) else headerReference submission) =
      some referenceId := by
  unfold extractReferenceId guardReferenceId getBodyReferenceId present at extracts
  rw [body] at extracts
  unfold headerReference
  by_cases filled : Filled reference
  · rw [if_pos filled]
    have shown : trim reference ≠ "" := filled
    cases header : getHeaderReferenceId submission.http with
    | none =>
        simp only [header, Option.bind_some, if_neg shown] at extracts
        exact congrArg some (Except.ok.inj extracts)
    | some value =>
        simp only [header, Option.bind_some, if_neg shown] at extracts
        split at extracts
        · cases extracts
        · rename_i same
          rw [← not_not.mp same]
          exact congrArg some (Except.ok.inj extracts)
  · rw [if_neg filled]
    have blank : trim reference = "" := not_not.mp filled
    cases header : getHeaderReferenceId submission.http with
    | none => simp [header, blank, throw, throwThe, MonadExceptOf.throw] at extracts
    | some value =>
        simp only [header, Option.bind_some, blank, if_true] at extracts
        exact congrArg some (Except.ok.inj extracts)

def transactionType : IdempotencyOperation → TransactionType
  | .deposit => .deposit
  | .withdraw => .withdraw
  | .transfer => .transfer

theorem params_of_validate (valid : validate submission = some operation) :
    ∃ params reference, (Incoming.posts submission).request.params? = some params ∧
      submission.text "referenceId" = some reference ∧
      params.key = ⟨submission.userId, transactionType submission.route, reference⟩ := by
  have passes := valid
  rw [request_of_validate valid]
  unfold validate at passes
  cases route : submission.route with
  | deposit =>
      rw [route] at passes
      rcases Option.map_eq_some_iff.mp passes with ⟨dto, body, rfl⟩
      exact ⟨_, dto.referenceId, rfl, (validateDeposit_texts body).2.2, rfl⟩
  | withdraw =>
      rw [route] at passes
      rcases Option.map_eq_some_iff.mp passes with ⟨dto, body, rfl⟩
      exact ⟨_, dto.referenceId, rfl, (validateWithdraw_texts body).2.2, rfl⟩
  | transfer =>
      rw [route] at passes
      rcases Option.map_eq_some_iff.mp passes with ⟨dto, body, rfl⟩
      exact ⟨_, dto.referenceId, rfl, (validateTransfer_texts body).2.2, rfl⟩

theorem looksUp_iff (config : FraudConfig) (valid : validate submission = some operation)
    {key : TransactionKey} : LooksUp config submission key ↔
      key = ⟨submission.userId, transactionType submission.route, bodyReference submission⟩ := by
  rcases params_of_validate valid with ⟨params, reference, asks, body, same⟩
  rcases handle_lookup config asks with ⟨next, lookup, _⟩
  unfold LooksUp bodyReference
  rw [lookup, body, Option.getD_some, ← same]
  constructor
  · rintro ⟨further, equal⟩
    injection equal with equal
    injection equal with equal
    injection equal with equal
    exact equal.symm
  · rintro rfl
    exact ⟨next, rfl⟩

theorem guardKey_of_validate (valid : validate submission = some operation)
    {key : IdempotencyKey} (keyed : guardKey submission = .ok key) :
    key.userId = submission.userId ∧ key.operation = submission.route ∧
      (if Filled (bodyReference submission) then some (trim (bodyReference submission))
        else headerReference submission) = some key.referenceId := by
  rcases params_of_validate valid with ⟨params, reference, _, body, _⟩
  have shape : bodyReference submission = reference := by rw [bodyReference, body, Option.getD_some]
  rcases extracts_of_guardKey keyed with ⟨own, extracts, inferred⟩
  rw [extractOperation_of_validate valid] at inferred
  rw [shape]
  exact ⟨own, (Except.ok.inj inferred).symm, guardReference_eq body extracts⟩

end Guard

/-! ## The two notions -/

section Pairs

variable {first second : Submission} {operation otherOperation : Operation}

theorem references_iff {referenceId otherReferenceId : String}
    (guard : (if Filled (bodyReference first) then some (trim (bodyReference first))
      else headerReference first) = some referenceId)
    (otherGuard : (if Filled (bodyReference second) then some (trim (bodyReference second))
      else headerReference second) = some otherReferenceId) :
    (referenceId = otherReferenceId ↔ bodyReference first = bodyReference second) ↔
      SpelledAlike first second := by
  have different {reference other : String} (filled : Filled reference) (blank : ¬Filled other) :
      reference ≠ other := by
    rintro rfl
    exact blank filled
  unfold SpelledAlike
  by_cases filled : Filled (bodyReference first)
  · rw [if_pos filled] at guard ⊢
    cases guard
    by_cases otherFilled : Filled (bodyReference second)
    · rw [if_pos otherFilled] at otherGuard ⊢
      cases otherGuard
      exact ⟨Iff.mp, fun same => ⟨same, congrArg trim⟩⟩
    · rw [if_neg otherFilled] at otherGuard ⊢
      rw [otherGuard, iff_false_right (different filled otherFilled), ne_eq, Option.some.injEq,
        eq_comm]
  · rw [if_neg filled] at guard ⊢
    by_cases otherFilled : Filled (bodyReference second)
    · rw [if_pos otherFilled] at otherGuard ⊢
      cases otherGuard
      rw [guard, iff_false_right (different otherFilled filled).symm, ne_eq, Option.some.injEq]
    · rw [if_neg otherFilled] at otherGuard ⊢
      rw [guard, otherGuard, Option.some.injEq]

/-- The guard and the service agree on two requests to one endpoint exactly if their references
are spelled alike. -/
theorem same_request_iff (config : FraudConfig) (user : first.userId = second.userId)
    (route : first.route = second.route) (valid : validate first = some operation)
    (otherValid : validate second = some otherOperation) :
    (SameKey first second ↔ SameLookUp config first second) ↔
      (Keyable first → Keyable second → SpelledAlike first second) := by
  by_cases both : Keyable first ∧ Keyable second
  · rcases both with ⟨⟨key, keyed⟩, otherKey, otherKeyed⟩
    rcases guardKey_of_validate valid keyed with ⟨owner, operates, reference⟩
    rcases guardKey_of_validate otherValid otherKeyed with
      ⟨otherOwner, otherOperates, otherReference⟩
    have keys : SameKey first second ↔ key.referenceId = otherKey.referenceId := by
      constructor
      · rintro ⟨named, otherNamed, known, otherKnown, same⟩
        rw [keyed] at known
        rw [otherKeyed] at otherKnown
        cases known
        cases otherKnown
        exact congrArg IdempotencyKey.referenceId (IdempotencyKey.text_injective same)
      · intro same
        have equal : key = otherKey := by
          rw [IdempotencyKey.mk.injEq]
          exact ⟨by rw [owner, otherOwner, user], by rw [operates, otherOperates, route], same⟩
        exact ⟨key, otherKey, keyed, otherKeyed, congrArg IdempotencyKey.text equal⟩
    have lookUps : SameLookUp config first second ↔ bodyReference first = bodyReference second := by
      simp only [SameLookUp, looksUp_iff config valid, looksUp_iff config otherValid]
      constructor
      · rintro ⟨_, _, _, rfl, same⟩
        exact congrArg TransactionKey.referenceId same
      · intro same
        exact ⟨⟨key, keyed⟩, ⟨otherKey, otherKeyed⟩, _, rfl, by rw [user, route, same]⟩
    rw [keys, lookUps, references_iff reference otherReference]
    exact ⟨fun alike _ _ => alike, fun alike => alike ⟨key, keyed⟩ ⟨otherKey, otherKeyed⟩⟩
  · refine ⟨fun _ keyable otherKeyable => absurd ⟨keyable, otherKeyable⟩ both, fun _ => ?_⟩
    constructor
    · rintro ⟨key, otherKey, keyed, otherKeyed, _⟩
      exact absurd ⟨⟨key, keyed⟩, otherKey, otherKeyed⟩ both
    · rintro ⟨keyable, otherKeyable, _⟩
      exact absurd ⟨keyable, otherKeyable⟩ both

/-- References without white space around them are spelled alike. -/
theorem spelledAlike_of_trimmed (filled : Filled (bodyReference first))
    (otherFilled : Filled (bodyReference second))
    (trimmed : trim (bodyReference first) = bodyReference first)
    (otherTrimmed : trim (bodyReference second) = bodyReference second) :
    SpelledAlike first second := by
  unfold SpelledAlike
  rw [if_pos filled, if_pos otherFilled, trimmed, otherTrimmed]
  exact id

end Pairs

/-! ## A reference and the same with a blank -/

def sampleSubmission (referenceId : String) : Submission where
  route := .deposit
  userId := ⟨7⟩
  body := some (.object [("amount", .number (.finite 1)), ("referenceId", .string referenceId),
    ("toAccountId", .string sampleText)])

private theorem sample_valid (referenceId : String)
    (passes : (validate (sampleSubmission referenceId)).isSome = true) :
    ∃ operation, validate (sampleSubmission referenceId) = some operation :=
  Option.isSome_iff_exists.mp passes

theorem same_request_iff_trimmed :
    SameKey (sampleSubmission "ref") (sampleSubmission "other") ↔
      SameLookUp {} (sampleSubmission "ref") (sampleSubmission "other") := by
  rcases sample_valid "ref" (by decide +kernel) with ⟨operation, valid⟩
  rcases sample_valid "other" (by decide +kernel) with ⟨otherOperation, otherValid⟩
  have alike : SpelledAlike (sampleSubmission "ref") (sampleSubmission "other") :=
    spelledAlike_of_trimmed (by decide +kernel) (by decide +kernel) (by decide +kernel)
      (by decide +kernel)
  have user : (sampleSubmission "ref").userId = (sampleSubmission "other").userId := rfl
  exact (same_request_iff {} user rfl valid otherValid).mpr fun _ _ => alike

/-- The guard takes the two for one request, and the service for two. -/
theorem blank_sameKey : (validate (sampleSubmission "ref")).isSome = true ∧
    (validate (sampleSubmission "ref ")).isSome = true ∧
    SameKey (sampleSubmission "ref") (sampleSubmission "ref ") ∧
    ¬SameLookUp {} (sampleSubmission "ref") (sampleSubmission "ref ") := by
  have passes : (validate (sampleSubmission "ref")).isSome = true := by decide +kernel
  have otherPasses : (validate (sampleSubmission "ref ")).isSome = true := by decide +kernel
  rcases sample_valid "ref" passes with ⟨operation, valid⟩
  rcases sample_valid "ref " otherPasses with ⟨otherOperation, otherValid⟩
  refine ⟨passes, otherPasses, ⟨⟨⟨7⟩, .deposit, "ref"⟩, ⟨⟨7⟩, .deposit, "ref"⟩, ?_, ?_, rfl⟩, ?_⟩
  · decide +kernel
  · decide +kernel
  · rintro ⟨_, _, key, looksUp, otherLooksUp⟩
    rw [looksUp_iff {} valid] at looksUp
    rw [looksUp_iff {} otherValid, looksUp] at otherLooksUp
    exact absurd (congrArg TransactionKey.referenceId otherLooksUp) (by decide +kernel)

end BankingBackend.Http
