import Mathlib.Data.List.Infix
import Mathlib.Data.List.Nodup
import Mathlib.Order.Lattice

/-! # Leases with fencing tokens

Holders claim keys under tokens and finalize their claims. When a claim that
still stands can only be superseded under a larger token, a holder that comes
back late is told from the current one by its token.
-/

namespace BankingBackend.Foundation.Lease

inductive Mark (Holder Token : Type*)
  | claimed (holder : Holder) (token : Token)
  | finalized (holder : Holder)

/-- What happened to the keys, newest first. -/
abbrev History (Key Holder Token : Type*) := List (Key × Mark Holder Token)

section Definitions

variable {Key Holder Token : Type*} [DecidableEq Key]

/-- The claim that stands: made, and neither superseded nor finalized. -/
def current (key : Key) : History Key Holder Token → Option (Holder × Token)
  | [] => none
  | (other, .claimed holder token) :: earlier =>
      if other = key then some (holder, token) else current key earlier
  | (other, .finalized _) :: earlier => if other = key then none else current key earlier

/-- The most recent claim, finalized or not. -/
def latest (key : Key) : History Key Holder Token → Option (Holder × Token)
  | [] => none
  | (other, .claimed holder token) :: earlier =>
      if other = key then some (holder, token) else latest key earlier
  | (_, .finalized _) :: earlier => latest key earlier

def claimAll (holder : Holder) (token : Token) :
    List Key → History Key Holder Token → History Key Holder Token
  | [], history => history
  | key :: batch, history => (key, .claimed holder token) :: claimAll holder token batch history

def claims (key : Key) : History Key Holder Token → ℕ
  | [] => 0
  | (other, .claimed _ _) :: earlier => claims key earlier + if other = key then 1 else 0
  | (_, .finalized _) :: earlier => claims key earlier

def finalizations (key : Key) : History Key Holder Token → ℕ
  | [] => 0
  | (_, .claimed _ _) :: earlier => finalizations key earlier
  | (other, .finalized _) :: earlier => finalizations key earlier + if other = key then 1 else 0

variable [LinearOrder Token]

/-- Claims come with growing tokens, strictly growing over one that stands; only the
claim that stands is finalized, by its holder. -/
def Lawful : History Key Holder Token → Prop
  | [] => True
  | (key, .claimed _ token) :: earlier => Lawful earlier ∧
      (∀ claim ∈ latest key earlier, claim.2 ≤ token) ∧ ∀ claim ∈ current key earlier, claim.2 < token
  | (key, .finalized holder) :: earlier => Lawful earlier ∧
      ∃ token, current key earlier = some (holder, token)

/-- A claim stands, or another one has superseded it under a larger token. -/
inductive Standing (holder : Holder) (token : Token) (key : Key)
    (history : History Key Holder Token) : Prop
  | stands (held : current key history = some (holder, token))
  | superseded (later : Holder × Token) (newest : latest key history = some later)
      (less : token < later.2)

end Definitions

/-! ## Histories -/

section Histories

variable {Key Holder Token : Type*} [DecidableEq Key]
  {history : History Key Holder Token} {key : Key} {claim : Holder × Token}

theorem latest_of_current (held : current key history = some claim) :
    latest key history = some claim := by
  induction history with
  | nil => cases held
  | cons entry earlier induction =>
      rcases entry with ⟨other, _ | _⟩
      · simp only [current, latest] at held ⊢
        split at held
        · rename_i same
          rw [if_pos same, held]
        · rename_i different
          rw [if_neg different, induction held]
      · simp only [current] at held
        split at held
        · cases held
        · exact induction held

theorem current_claimAll {batch : List Key} {holder : Holder} {token : Token} (key : Key) :
    current key (claimAll holder token batch history) =
      if key ∈ batch then some (holder, token) else current key history := by
  induction batch with
  | nil => simp [claimAll]
  | cons head tail induction =>
      show (if head = key then _ else current key (claimAll holder token tail history)) = _
      by_cases same : head = key
      · simp [same]
      · simp [same, induction, Ne.symm same]

theorem latest_claimAll {batch : List Key} {holder : Holder} {token : Token} (key : Key) :
    latest key (claimAll holder token batch history) =
      if key ∈ batch then some (holder, token) else latest key history := by
  induction batch with
  | nil => simp [claimAll]
  | cons head tail induction =>
      show (if head = key then _ else latest key (claimAll holder token tail history)) = _
      by_cases same : head = key
      · simp [same]
      · simp [same, induction, Ne.symm same]

theorem finalizations_claimAll {batch : List Key} {holder : Holder} {token : Token} (key : Key) :
    finalizations key (claimAll holder token batch history) =
      finalizations key history := by
  induction batch with
  | nil => rfl
  | cons head tail induction => exact induction

theorem claims_claimAll_of_notMem {batch : List Key} {holder : Holder} {token : Token}
    (unlisted : key ∉ batch) : claims key (claimAll holder token batch history) =
      claims key history := by
  induction batch with
  | nil => rfl
  | cons head tail induction =>
      rw [List.mem_cons, not_or] at unlisted
      show claims key (claimAll holder token tail history) + (if head = key then 1 else 0) = _
      rw [if_neg (Ne.symm unlisted.1), induction unlisted.2]
      rfl

variable [LinearOrder Token]

theorem Lawful.of_suffix (lawful : Lawful history) {earlier : History Key Holder Token}
    (suffix : earlier <:+ history) : Lawful earlier := by
  induction history with
  | nil => rwa [List.eq_nil_of_suffix_nil suffix]
  | cons entry rest induction =>
      have restLawful : Lawful rest := by
        rcases entry with ⟨_, _ | _⟩ <;> exact lawful.1
      rcases List.suffix_cons_iff.mp suffix with rfl | shorter
      · exact lawful
      · exact induction restLawful shorter

/-- Every finalization is made by the holder of the most recent claim, and only once:
the claim stands before it and not after it. -/
theorem Lawful.finalized (lawful : Lawful history) {holder : Holder}
    {earlier : History Key Holder Token} (suffix : (key, .finalized holder) :: earlier <:+ history) :
    ∃ token, current key earlier = some (holder, token) ∧
      latest key earlier = some (holder, token) ∧
      current key ((key, .finalized holder) :: earlier) = none := by
  rcases (lawful.of_suffix suffix).2 with ⟨token, held⟩
  exact ⟨token, held, latest_of_current held, if_pos rfl⟩

/-- No more finalizations than claims; one less while a claim stands. -/
theorem Lawful.finalizations_le (lawful : Lawful history) (key : Key) :
    finalizations key history + (if (current key history).isSome then 1 else 0) ≤
      claims key history := by
  induction history with
  | nil => exact le_rfl
  | cons entry earlier induction =>
      rcases entry with ⟨other, ⟨holder, token⟩ | holder⟩
      · have bound := induction lawful.1
        by_cases same : other = key
        · simp only [finalizations, current, claims, if_pos same, Option.isSome_some, if_true]
          omega
        · simpa [finalizations, current, claims, same] using bound
      · have bound := induction lawful.1
        by_cases same : other = key
        · rcases lawful.2 with ⟨token, held⟩
          rw [same] at held
          simpa [finalizations, current, claims, same, held] using bound
        · simpa [finalizations, current, claims, same] using bound

theorem Lawful.claimAll (lawful : Lawful history) {batch : List Key} {holder : Holder}
    {token : Token} (distinct : batch.Nodup)
    (grows : ∀ key ∈ batch, ∀ claim ∈ latest key history, claim.2 ≤ token)
    (fences : ∀ key ∈ batch, ∀ claim ∈ current key history, claim.2 < token) :
    Lawful (claimAll holder token batch history) := by
  induction batch with
  | nil => exact lawful
  | cons head tail induction =>
      have parts := List.nodup_cons.mp distinct
      refine ⟨induction parts.2 (fun key member => grows key (.tail _ member))
        fun key member => fences key (.tail _ member), ?_, ?_⟩
      · rw [latest_claimAll, if_neg parts.1]
        exact grows head (.head _)
      · rw [current_claimAll, if_neg parts.1]
        exact fences head (.head _)

/-! ## Standing claims -/

variable {holder : Holder} {token : Token}

theorem Standing.claimAll {batch : List Key} {other : Holder} {newer : Token}
    (standing : Standing holder token key history)
    (grows : ∀ key ∈ batch, ∀ claim ∈ latest key history, claim.2 ≤ newer)
    (fences : ∀ key ∈ batch, ∀ claim ∈ current key history, claim.2 < newer) :
    Standing holder token key (claimAll other newer batch history) := by
  by_cases member : key ∈ batch
  · refine .superseded (other, newer) (by rw [latest_claimAll, if_pos member]) ?_
    cases standing with
    | stands held => exact fences key member _ held
    | superseded later newest less => exact less.trans_le (grows key member _ newest)
  · cases standing with
    | stands held => exact .stands (by rwa [current_claimAll, if_neg member])
    | superseded later newest less =>
        exact .superseded later (by rwa [latest_claimAll, if_neg member]) less

theorem Standing.finalized {other : Holder} {finalizedKey : Key}
    (standing : Standing holder token key history)
    (own : finalizedKey = key → other ≠ holder)
    (held : ∃ token, current finalizedKey history = some (other, token)) :
    Standing holder token key ((finalizedKey, .finalized other) :: history) := by
  cases standing with
  | stands mine =>
      have different : finalizedKey ≠ key := by
        rintro rfl
        rcases held with ⟨otherToken, held⟩
        rw [mine] at held
        cases held
        exact own rfl rfl
      exact .stands (by simpa [current, different] using mine)
  | superseded later newest less => exact .superseded later newest less

/-- The token tells the claim that stands from the superseded ones. -/
theorem Standing.stands_of_token (standing : Standing holder token key history)
    {claim : Holder × Token} (held : current key history = some claim)
    (same : claim.2 = token) : current key history = some (holder, token) := by
  cases standing with
  | stands mine => exact mine
  | superseded later newest less =>
      rw [latest_of_current held] at newest
      cases newest
      exact absurd same less.ne'

end Histories

end BankingBackend.Foundation.Lease
