import Mathlib.Algebra.BigOperators.Ring.Finset
import Mathlib.Algebra.Order.BigOperators.Group.Finset
import Mathlib.Tactic.Abel

/-! # Reservations against a total

Amounts reserved under keys, and a running total that backs every finite set of
them. What is charged under distinct keys, each within its reservation, is then
within the total.
-/

namespace BankingBackend.Foundation

section Reservations

variable {Key M : Type*} [DecidableEq Key] [AddCommGroup M] [LinearOrder M] [IsOrderedAddMonoid M]
  {total larger amount : M} {reserved : Key → M} {key : Key}

def Backed (total : M) (reserved : Key → M) : Prop :=
  ∀ keys : Finset Key, ∑ key ∈ keys, reserved key ≤ total

omit [DecidableEq Key] [IsOrderedAddMonoid M] in
theorem backed_zero : Backed (0 : M) (fun _ : Key => 0) := by
  intro keys
  simp

omit [DecidableEq Key] [IsOrderedAddMonoid M] in
theorem Backed.mono (backed : Backed total reserved) (le : total ≤ larger) :
    Backed larger reserved := fun keys => (backed keys).trans le

/-- Every set of other keys leaves room for the reservation of this one. -/
theorem Backed.without (backed : Backed total reserved) {keys : Finset Key}
    (fresh : key ∉ keys) : ∑ other ∈ keys, reserved other ≤ total - reserved key := by
  have whole := backed (insert key keys)
  rw [Finset.sum_insert fresh] at whole
  exact le_sub_iff_add_le'.mpr whole

/-- The reservation under a key may change by what the total changes by. -/
theorem Backed.update (backed : Backed total reserved) (key : Key) (nonneg : 0 ≤ amount) :
    Backed (total - reserved key + amount) (Function.update reserved key amount) := by
  intro keys
  by_cases member : key ∈ keys
  · rw [← Finset.insert_erase member, Finset.sum_insert (Finset.notMem_erase key keys),
      Function.update_self,
      Finset.sum_update_of_notMem (Finset.notMem_erase key keys), add_comm]
    exact add_le_add (backed.without (Finset.notMem_erase key keys)) le_rfl
  · rw [Finset.sum_update_of_notMem member]
    exact (backed.without member).trans (le_add_of_nonneg_right nonneg)

theorem Backed.reserve (backed : Backed total reserved) (free : reserved key = 0)
    (nonneg : 0 ≤ amount) : Backed (total + amount) (Function.update reserved key amount) := by
  have updated := backed.update key nonneg
  rwa [free, sub_zero] at updated

theorem Backed.release (backed : Backed total reserved) (key : Key) :
    Backed (total - reserved key) (Function.update reserved key 0) := by
  have updated := backed.update key (le_refl (0 : M))
  rwa [add_zero] at updated

/-- Charges under distinct keys, each within its reservation. -/
theorem Backed.sum_le {Charge : Type*} (backed : Backed total reserved) {charges : List Charge}
    {keyOf : Charge → Key} {charged : Charge → M} (distinct : (charges.map keyOf).Nodup)
    (within : ∀ charge ∈ charges, charged charge ≤ reserved (keyOf charge)) :
    (charges.map charged).sum ≤ total :=
  calc (charges.map charged).sum
      ≤ (charges.map fun charge => reserved (keyOf charge)).sum := List.sum_le_sum within
    _ = ((charges.map keyOf).map reserved).sum := by rw [List.map_map]; rfl
    _ = ∑ key ∈ (charges.map keyOf).toFinset, reserved key :=
        (List.sum_toFinset reserved distinct).symm
    _ ≤ total := backed _

/-! ## Totals -/

def Summed (total : M) (reserved : Key → M) : Prop :=
  ∃ keys : Finset Key, (∀ key, key ∉ keys → reserved key = 0) ∧ ∑ key ∈ keys, reserved key = total

omit [DecidableEq Key] [LinearOrder M] [IsOrderedAddMonoid M] in
theorem summed_zero : Summed (0 : M) (fun _ : Key => 0) := ⟨∅, fun _ _ => rfl, Finset.sum_empty⟩

omit [LinearOrder M] [IsOrderedAddMonoid M] in
/-- Any keys that have all reservations among them. -/
theorem Summed.sum_eq (summed : Summed total reserved) {keys : Finset Key}
    (others : ∀ key, key ∉ keys → reserved key = 0) : ∑ key ∈ keys, reserved key = total := by
  rcases summed with ⟨all, outside, rfl⟩
  have left : keys ⊆ keys ∪ all := Finset.subset_union_left
  have right : all ⊆ keys ∪ all := Finset.subset_union_right
  rw [Finset.sum_subset left fun key _ absent => others key absent,
    Finset.sum_subset right fun key _ absent => outside key absent]

omit [LinearOrder M] [IsOrderedAddMonoid M] in
theorem Summed.update (summed : Summed total reserved) (key : Key) (amount : M) :
    Summed (total - reserved key + amount) (Function.update reserved key amount) := by
  rcases summed with ⟨keys, outside, sum⟩
  refine ⟨insert key keys, fun other absent => ?_, ?_⟩
  · rw [Finset.mem_insert, not_or] at absent
    rw [Function.update_of_ne absent.1]
    exact outside other absent.2
  · have whole : ∑ other ∈ insert key keys, reserved other = total := by
      rw [← sum]
      exact (Finset.sum_subset (Finset.subset_insert key keys) fun other _ absent =>
        outside other absent).symm
    rw [← Finset.insert_erase (Finset.mem_insert_self key keys),
      Finset.sum_insert (Finset.notMem_erase key _)] at whole ⊢
    rw [Function.update_self, Finset.sum_update_of_notMem (Finset.notMem_erase key _), ← whole]
    abel

omit [DecidableEq Key] in
theorem Summed.nonneg (summed : Summed total reserved)
    (nonneg : ∀ key, 0 ≤ reserved key) : 0 ≤ total := by
  rcases summed with ⟨keys, _, rfl⟩
  exact Finset.sum_nonneg fun key _ => nonneg key

theorem Summed.le_total (summed : Summed total reserved) (nonneg : ∀ key, 0 ≤ reserved key)
    (key : Key) : reserved key ≤ total := by
  have rest := (summed.update key 0).nonneg fun other => by
    by_cases same : other = key
    · rw [same, Function.update_self]
    · rw [Function.update_of_ne same]
      exact nonneg other
  rw [add_zero] at rest
  exact sub_nonneg.mp rest

end Reservations

end BankingBackend.Foundation
