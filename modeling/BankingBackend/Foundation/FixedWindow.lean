import Mathlib.Data.Finset.Card
import Mathlib.Data.Finset.Image
import Mathlib.Logic.Function.Basic

/-! # Counters of fixed windows

The first hit of a key starts a counter with a deadline, and each further one increments
it. A counter whose deadline has passed is gone. As long as every hit reserves its
counter until the end of a window, the hits of the window are numbered one by one.
-/

namespace BankingBackend.Foundation.FixedWindow

structure Counter where
  count : ℕ
  deadline : ℕ

/-- Whether the owner was told the count is known of every hit. -/
structure Hit (Key Owner : Type*) where
  key : Key
  owner : Owner
  time : ℕ
  count : ℕ
  told : Bool

/-- The hits are newest first. No operation reads them. -/
structure Counters (Key Owner : Type*) where
  counter : Key → Option Counter
  hits : List (Hit Key Owner)

section Definitions

variable {Key Owner : Type*} [DecidableEq Key]

def Counters.empty : Counters Key Owner := ⟨fun _ => none, []⟩

/-- The counter of the key, unless its deadline has passed. -/
def Counters.live (counters : Counters Key Owner) (now : ℕ) (key : Key) : Option Counter :=
  (counters.counter key).filter fun counter => now ≤ counter.deadline

def Counters.next (counters : Counters Key Owner) (now ttl : ℕ) (key : Key) : Counter :=
  match counters.live now key with
  | none => ⟨1, now + ttl⟩
  | some counter => { counter with count := counter.count + 1 }

def Counters.hit (counters : Counters Key Owner) (now ttl : ℕ) (owner : Owner) (told : Bool)
    (key : Key) : Counters Key Owner where
  counter := Function.update counters.counter key (some (counters.next now ttl key))
  hits := ⟨key, owner, now, (counters.next now ttl key).count, told⟩ :: counters.hits

def Counters.within (counters : Counters Key Owner) (finish : ℕ) (key : Key) :
    List (Hit Key Owner) :=
  counters.hits.filter fun hit => hit.key = key ∧ hit.time < finish

/-- The newest hit has the number of all. -/
def Numbered : List (Hit Key Owner) → Prop
  | [] => True
  | hit :: earlier => hit.count = earlier.length + 1 ∧ Numbered earlier

/-- No hit has a number above that of all the hits of its key up to then. -/
def Justified : List (Hit Key Owner) → Prop
  | [] => True
  | hit :: earlier => Justified earlier ∧ 1 ≤ hit.count ∧
      hit.count ≤ ((hit :: earlier).filter fun other => other.key = hit.key).length

structure Counting (finish now : ℕ) (key : Key) (counters : Counters Key Owner) : Prop where
  numbered : Numbered (counters.within finish key)
  unhit : now < finish → counters.within finish key = [] → counters.counter key = none
  counted : now < finish → counters.within finish key ≠ [] →
    ∃ counter, counters.counter key = some counter ∧ finish ≤ counter.deadline ∧
      counter.count = (counters.within finish key).length

structure Sound (counters : Counters Key Owner) : Prop where
  justified : Justified counters.hits
  bounded : ∀ key counter, counters.counter key = some counter →
    counter.count ≤ (counters.hits.filter fun hit => hit.key = key).length

end Definitions

section Hits

variable {Key Owner : Type*} [DecidableEq Key] {counters : Counters Key Owner}
  {now ttl finish : ℕ} {owner : Owner} {told : Bool} {key other : Key}

omit [DecidableEq Key] in
theorem Counters.one_le_next : 1 ≤ (counters.next now ttl key).count := by
  unfold Counters.next
  split
  · exact le_rfl
  · exact Nat.le_add_left 1 _

theorem Counters.within_hit_of_ne (different : key ≠ other) :
    (counters.hit now ttl owner told key).within finish other = counters.within finish other :=
  List.filter_cons_of_neg (by simp [different])

theorem Counters.within_hit_of_le (late : finish ≤ now) :
    (counters.hit now ttl owner told key).within finish other = counters.within finish other :=
  List.filter_cons_of_neg (by simp [late])

theorem Counters.within_hit (early : now < finish) :
    (counters.hit now ttl owner told key).within finish key =
      ⟨key, owner, now, (counters.next now ttl key).count, told⟩ ::
        counters.within finish key :=
  List.filter_cons_of_pos (by simp [early])

/-! ## What a hit keeps -/

theorem counting_empty : Counting finish now key (Counters.empty : Counters Key Owner) where
  numbered := True.intro
  unhit _ _ := rfl
  counted _ filled := absurd rfl filled

theorem Counting.elapse (counting : Counting finish now key counters) {later : ℕ}
    (passes : now ≤ later) : Counting finish later key counters where
  numbered := counting.numbered
  unhit early := counting.unhit (by omega)
  counted early := counting.counted (by omega)

theorem Counting.next (counting : Counting finish now key counters) (early : now < finish)
    (reserves : finish ≤ now + ttl) :
    (counters.next now ttl key).count = (counters.within finish key).length + 1 ∧
      finish ≤ (counters.next now ttl key).deadline := by
  by_cases empty : counters.within finish key = []
  · have live : counters.live now key = none := by
      rw [Counters.live, counting.unhit early empty]
      rfl
    rw [Counters.next, live, empty]
    exact ⟨rfl, reserves⟩
  · rcases counting.counted early empty with ⟨counter, held, reserved, count⟩
    have live : counters.live now key = some counter := by
      rw [Counters.live, held]
      have unexpired : now ≤ counter.deadline := by omega
      simp [unexpired]
    rw [Counters.next, live]
    exact ⟨congrArg (· + 1) count, reserved⟩

theorem Counting.hit (counting : Counting finish now other counters)
    (reserves : key = other → finish ≤ now + ttl) :
    Counting finish now other (counters.hit now ttl owner told key) := by
  by_cases same : key = other
  · subst same
    by_cases early : now < finish
    · have next := counting.next early (reserves rfl)
      refine ⟨?_, fun _ empty => ?_, fun _ _ => ?_⟩
      · rw [Counters.within_hit early]
        exact ⟨next.1, counting.numbered⟩
      · rw [Counters.within_hit early] at empty
        cases empty
      · rw [Counters.within_hit early]
        exact ⟨_, Function.update_self _ _ _, next.2, next.1⟩
    · refine ⟨?_, fun later => absurd later early, fun later => absurd later early⟩
      rw [Counters.within_hit_of_le (by omega)]
      exact counting.numbered
  · have unchanged : (counters.hit now ttl owner told key).counter other =
        counters.counter other := Function.update_of_ne (fun equal => same equal.symm) _ _
    refine ⟨?_, ?_, ?_⟩
    · rw [Counters.within_hit_of_ne same]
      exact counting.numbered
    · rw [Counters.within_hit_of_ne same, unchanged]
      exact counting.unhit
    · rw [Counters.within_hit_of_ne same, unchanged]
      exact counting.counted

theorem sound_empty : Sound (Counters.empty : Counters Key Owner) where
  justified := True.intro
  bounded _ _ held := by cases held

theorem Sound.next_le (sound : Sound counters) : (counters.next now ttl key).count ≤
    (counters.hits.filter fun hit => hit.key = key).length + 1 := by
  unfold Counters.next
  split
  · exact Nat.le_add_left 1 _
  · rename_i counter live
    have held := (Option.filter_eq_some_iff.mp live).1
    exact Nat.succ_le_succ (sound.bounded key counter held)

theorem Sound.hit (sound : Sound counters) :
    Sound (counters.hit now ttl owner told key) := by
  have more (other : Key) : (counters.hits.filter fun hit => hit.key = other).length ≤
      ((counters.hit now ttl owner told key).hits.filter fun hit => hit.key = other).length :=
    ((List.sublist_cons_self _ _).filter _).length_le
  have bound : (counters.next now ttl key).count ≤
      ((counters.hit now ttl owner told key).hits.filter fun hit => hit.key = key).length := by
    unfold Counters.hit
    rw [List.filter_cons_of_pos (by simp)]
    exact sound.next_le
  refine ⟨⟨sound.justified, Counters.one_le_next, bound⟩, fun other counter held => ?_⟩
  by_cases same : other = key
  · subst same
    have updated : (counters.hit now ttl owner told other).counter other =
        some (counters.next now ttl other) := Function.update_self _ _ _
    rw [updated] at held
    cases held
    exact bound
  · have unchanged : (counters.hit now ttl owner told key).counter other =
        counters.counter other := Function.update_of_ne same _ _
    rw [unchanged] at held
    exact (sound.bounded other counter held).trans (more other)

end Hits

/-! ## Admitted hits -/

section Bounds

variable {Key Owner : Type*} {hits : List (Hit Key Owner)} {limit : ℕ}

theorem Numbered.length_filter_le (numbered : Numbered hits) :
    (hits.filter fun hit => hit.count ≤ limit).length ≤ limit := by
  have least : (hits.filter fun hit => hit.count ≤ limit).length ≤ min limit hits.length := by
    induction hits with
    | nil => exact Nat.zero_le _
    | cons hit earlier induction =>
        have rest := induction numbered.2
        have count := numbered.1
        by_cases admitted : hit.count ≤ limit
        · rw [List.filter_cons_of_pos (by simpa using admitted), List.length_cons,
            List.length_cons]
          omega
        · rw [List.filter_cons_of_neg (by simpa using admitted), List.length_cons]
          omega
  omega

/-- No more owners than the limit have a hit of the window with a number up to it. -/
theorem Numbered.card_le (numbered : Numbered hits) (owners : Finset Owner)
    (admitted : ∀ owner ∈ owners, ∃ hit ∈ hits, hit.owner = owner ∧ hit.count ≤ limit) :
    owners.card ≤ limit := by
  classical
  have covered : owners ⊆
      ((hits.filter fun hit => hit.count ≤ limit).map Hit.owner).toFinset := by
    intro owner member
    rcases admitted owner member with ⟨hit, hitMember, owned, below⟩
    rw [List.mem_toFinset]
    refine List.mem_map.mpr ⟨hit, List.mem_filter.mpr ⟨hitMember, ?_⟩, owned⟩
    exact decide_eq_true below
  calc owners.card
      ≤ ((hits.filter fun hit => hit.count ≤ limit).map Hit.owner).toFinset.card :=
        Finset.card_le_card covered
    _ ≤ ((hits.filter fun hit => hit.count ≤ limit).map Hit.owner).length :=
        List.toFinset_card_le _
    _ ≤ limit := by
        rw [List.length_map]
        exact numbered.length_filter_le

variable [DecidableEq Key] {hit : Hit Key Owner}

theorem Justified.count_le (justified : Justified hits) (member : hit ∈ hits) :
    hit.count ≤ (hits.filter fun other => other.key = hit.key).length := by
  induction hits with
  | nil => cases member
  | cons newest earlier induction =>
      rcases List.mem_cons.mp member with rfl | member
      · exact justified.2.2
      · exact (induction justified.1 member).trans
          ((List.sublist_cons_self _ _).filter _).length_le

/-- Where no owner hits a key twice, a hit has at most as many owners before it as its number
says. -/
theorem Justified.exists_owners (justified : Justified hits) (member : hit ∈ hits)
    (once : (hits.map fun hit => (hit.key, hit.owner)).Nodup) :
    ∃ owners : Finset Owner, hit.count ≤ owners.card ∧
      ∀ owner ∈ owners, ∃ other ∈ hits, other.owner = owner ∧ other.key = hit.key := by
  classical
  have distinct : ((hits.filter fun other => other.key = hit.key).map Hit.owner).Nodup := by
    refine (List.nodup_map_iff_inj_on ?_).mpr fun first firstMember second secondMember same => ?_
    · exact (List.Nodup.of_map _ once).filter _
    · have keys := (of_decide_eq_true (List.mem_filter.mp firstMember).2).trans
        (of_decide_eq_true (List.mem_filter.mp secondMember).2).symm
      exact List.inj_on_of_nodup_map once (List.mem_filter.mp firstMember).1
        (List.mem_filter.mp secondMember).1 (Prod.ext keys same)
  refine ⟨((hits.filter fun other => other.key = hit.key).map Hit.owner).toFinset, ?_, ?_⟩
  · rw [List.toFinset_card_of_nodup distinct, List.length_map]
    exact justified.count_le member
  · intro owner ownerMember
    rcases List.mem_map.mp (List.mem_toFinset.mp ownerMember) with ⟨other, otherMember, owned⟩
    have parts := List.mem_filter.mp otherMember
    exact ⟨other, parts.1, owned, of_decide_eq_true parts.2⟩

end Bounds

end BankingBackend.Foundation.FixedWindow
