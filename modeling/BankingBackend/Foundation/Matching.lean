import Mathlib.Data.List.Forall2
import Mathlib.Data.List.Nodup

/-! # Lists matched by key

Two lists related entry by entry, whose related entries have one key, are in
bijection by their keys when the keys of one of them are distinct.
-/

namespace BankingBackend.Foundation

section Matching

variable {Left Right Key : Type*}

/-- Equality of keys is a bijection between the entries, and relates them. -/
structure Matching (related : Left → Right → Prop) (leftKey : Left → Key) (rightKey : Right → Key)
    (left : List Left) (right : List Right) : Prop where
  leftDistinct : (left.map leftKey).Nodup
  rightDistinct : (right.map rightKey).Nodup
  toRight : ∀ entry ∈ left, ∃ counterpart ∈ right, rightKey counterpart = leftKey entry
  toLeft : ∀ entry ∈ right, ∃ counterpart ∈ left, leftKey counterpart = rightKey entry
  agree : ∀ entry ∈ left, ∀ counterpart ∈ right, rightKey counterpart = leftKey entry →
    related entry counterpart

variable {related : Left → Right → Prop} {leftKey : Left → Key} {rightKey : Right → Key}
  {left : List Left} {right : List Right}

theorem exists_related (entries : List.Forall₂ related left right) {entry : Left}
    (member : entry ∈ left) : ∃ counterpart ∈ right, related entry counterpart := by
  induction entries with
  | nil => cases member
  | cons head tail induction =>
      rcases List.mem_cons.mp member with rfl | member
      · exact ⟨_, .head _, head⟩
      · rcases induction member with ⟨counterpart, listed, holds⟩
        exact ⟨counterpart, .tail _ listed, holds⟩

theorem matching_of_forall₂ (entries : List.Forall₂ related left right)
    (keyed : ∀ entry counterpart, related entry counterpart → rightKey counterpart = leftKey entry)
    (distinct : (left.map leftKey).Nodup) : Matching related leftKey rightKey left right := by
  have keys : right.map rightKey = left.map leftKey := by
    induction entries with
    | nil => rfl
    | cons head tail induction =>
        rw [List.map_cons, List.map_cons, keyed _ _ head,
          induction (List.nodup_cons.mp distinct).2]
  have rightDistinct : (right.map rightKey).Nodup := keys ▸ distinct
  refine ⟨distinct, rightDistinct, fun entry member => ?_, fun entry member => ?_,
    fun entry member other listed same => ?_⟩
  · exact List.mem_map.mp (keys ▸ List.mem_map_of_mem member)
  · exact List.mem_map.mp (keys ▸ List.mem_map_of_mem member)
  · rcases exists_related entries member with ⟨counterpart, present, holds⟩
    have equal : counterpart = other :=
      List.inj_on_of_nodup_map rightDistinct present listed ((keyed _ _ holds).trans same.symm)
    exact equal ▸ holds

theorem find?_of_nodup_map [DecidableEq Key] {key : Left → Key} (distinct : (left.map key).Nodup)
    {entry : Left} (member : entry ∈ left) :
    left.find? (fun other => key other == key entry) = some entry := by
  cases found : left.find? (fun other => key other == key entry) with
  | none =>
      have missed := List.find?_eq_none.mp found entry member
      simp at missed
  | some other =>
      have same : key other = key entry := by simpa using List.find?_some found
      rw [List.inj_on_of_nodup_map distinct (List.mem_of_find?_eq_some found) member same]

end Matching

end BankingBackend.Foundation
