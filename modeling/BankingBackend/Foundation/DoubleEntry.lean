import Mathlib.Algebra.BigOperators.Group.List.Basic
import Mathlib.Tactic.Abel

/-! # Double-entry bookkeeping

A journal is a list of entries, each debiting at most one key and crediting at
most one. The balance of a key is what the journal credits to it less what it
debits; over a set of keys only what crosses its border counts.
-/

namespace BankingBackend.Foundation

/-- The two sides are separate amounts: rounding may make them differ. -/
structure Entry (Key M : Type*) where
  debited : Option Key
  credited : Option Key
  debit : M
  credit : M

namespace Entry

variable {Key M : Type*} [DecidableEq Key] [AddCommGroup M]

def effect (entry : Entry Key M) (key : Key) : M :=
  (if entry.credited = some key then entry.credit else 0) -
    (if entry.debited = some key then entry.debit else 0)

def creditTo (entry : Entry Key M) (inside : Key → Prop) [DecidablePred inside] : M :=
  match entry.credited with
  | some key => if inside key then entry.credit else 0
  | none => 0

def debitFrom (entry : Entry Key M) (inside : Key → Prop) [DecidablePred inside] : M :=
  match entry.debited with
  | some key => if inside key then entry.debit else 0
  | none => 0

end Entry

section Journal

variable {Key M : Type*} [DecidableEq Key] [AddCommGroup M]

def balance (journal : List (Entry Key M)) (key : Key) : M :=
  (journal.map (·.effect key)).sum

@[simp] theorem balance_nil (key : Key) : balance ([] : List (Entry Key M)) key = 0 := rfl

@[simp] theorem balance_append (first second : List (Entry Key M)) (key : Key) :
    balance (first ++ second) key = balance first key + balance second key := by
  simp [balance]

@[simp] theorem balance_singleton (entry : Entry Key M) (key : Key) :
    balance [entry] key = entry.effect key := by
  simp [balance]

private theorem sum_indicator {keys : List Key} (nodup : keys.Nodup)
    (chosen : Option Key) (amount : M) :
    (keys.map fun key => if chosen = some key then amount else 0).sum =
      match chosen with
      | some key => if key ∈ keys then amount else 0
      | none => 0 := by
  induction keys with
  | nil => cases chosen <;> simp
  | cons head tail induction =>
      have parts := List.nodup_cons.mp nodup
      rw [List.map_cons, List.sum_cons, induction parts.2]
      cases chosen with
      | none => simp
      | some key =>
          by_cases same : key = head
          · subst same
            simp [parts.1]
          · simp [same]

theorem Entry.sum_effect (entry : Entry Key M) {keys : List Key} (nodup : keys.Nodup) :
    (keys.map entry.effect).sum =
      entry.creditTo (· ∈ keys) - entry.debitFrom (· ∈ keys) := by
  have split : (keys.map entry.effect).sum =
      (keys.map fun key => if entry.credited = some key then entry.credit else 0).sum -
        (keys.map fun key => if entry.debited = some key then entry.debit else 0).sum := by
    clear nodup
    induction keys with
    | nil => simp
    | cons head tail induction =>
        simp only [List.map_cons, List.sum_cons, induction, Entry.effect]
        abel
  rw [split, sum_indicator nodup, sum_indicator nodup]
  rfl

/-- Over a set of keys the balances sum to what the journal credits to the set
less what it debits from it: entries inside the set cancel. -/
theorem sum_balance (journal : List (Entry Key M)) {keys : List Key}
    (nodup : keys.Nodup) :
    (keys.map (balance journal)).sum =
      (journal.map fun entry => entry.creditTo (· ∈ keys)).sum -
        (journal.map fun entry => entry.debitFrom (· ∈ keys)).sum := by
  induction journal with
  | nil =>
      have zero : (fun key : Key => balance ([] : List (Entry Key M)) key) = fun _ => 0 := rfl
      simp [zero]
  | cons entry journal induction =>
      have split : (keys.map (balance (entry :: journal))).sum =
          (keys.map entry.effect).sum + (keys.map (balance journal)).sum := by
        rw [← List.sum_map_add]
        rfl
      rw [split, induction, entry.sum_effect nodup]
      simp only [List.map_cons, List.sum_cons]
      abel

end Journal

end BankingBackend.Foundation
