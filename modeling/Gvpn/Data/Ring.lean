import Mathlib.Data.List.Sort
import Mathlib.Order.Interval.Finset.Nat

/-! Rings, whose slots hold the last values, and medians of them. -/

namespace Gvpn

variable {α : Type} {size : Nat}

def RingHolds (ring : Vector α size) (values : Nat → α) (count : Nat) : Prop :=
  ∀ turn < count, count ≤ turn + size → ring[turn % size]? = some (values turn)

def lastValues (values : Nat → α) (size count : Nat) : List α :=
  (List.range' (count - size) size).map values

theorem RingHolds.start (ring : Vector α size) (values : Nat → α) : RingHolds ring values 0 :=
  nofun

theorem RingHolds.write {ring : Vector α size} {values : Nat → α} {count slot : Nat}
    (holds : RingHolds ring values count) (inside : slot < size) (turn : slot = count % size) :
    RingHolds (ring.set slot (values count) inside) values (count + 1) := by
  intro earlier written recent
  rw [Vector.getElem?_set]
  by_cases newest : earlier = count
  · rw [if_pos (by rw [newest, turn]), newest]
  · -- Turns that share a slot lie a whole round apart.
    have apart_ : slot ≠ earlier % size := by
      rw [turn]
      intro same
      have whole : (count - earlier) % size = 0 :=
        Nat.sub_mod_eq_zero_of_mod_eq same
      rw [Nat.mod_eq_of_lt (by omega)] at whole
      omega
    rw [if_neg apart_]
    exact holds earlier (by omega) (by omega)

theorem range'_mod_perm (first size : Nat) :
    ((List.range' first size).map (· % size)).Perm (List.range size) := by
  have slots := Nat.multiset_Ico_map_mod first size
  have turns : Multiset.Ico first (first + size) = (List.range' first size : Multiset Nat) := by
    show (List.range' first (first + size - first) : Multiset Nat) = _
    rw [Nat.add_sub_cancel_left]
  rw [turns] at slots
  exact Multiset.coe_eq_coe.mp slots

theorem RingHolds.perm {ring : Vector α size} {values : Nat → α} {count : Nat}
    (holds : RingHolds ring values count) (full : size ≤ count) :
    ring.toList.Perm (lastValues values size count) := by
  have slots : ring.toList.map some = (List.range size).map fun slot => ring[slot]? := by
    apply List.ext_getElem?
    intro slot
    rcases Nat.lt_or_ge slot size with inside | outside
    · simp [inside]
    · simp [outside]
  have turns : (List.range' (count - size) size).map (fun turn => ring[turn % size]?) =
      (lastValues values size count).map some := by
    rw [lastValues, List.map_map]
    apply List.map_congr_left
    intro turn member
    obtain ⟨lower, upper⟩ := List.mem_range'_1.mp member
    exact holds turn (by omega) (by omega)
  apply (List.map_perm_map_iff (Option.some_injective α)).mp
  rw [slots, ← turns]
  have round := (range'_mod_perm (count - size) size).map fun slot => ring[slot]?
  rw [List.map_map] at round
  exact round.symm

def upperMedian (values : List Nat) : Nat :=
  (values.insertionSort (· ≤ ·)).getD (values.length / 2) 0

theorem upperMedian_perm {values others : List Nat} (same : values.Perm others) :
    upperMedian values = upperMedian others := by
  have sorted : values.insertionSort (· ≤ ·) = others.insertionSort (· ≤ ·) := by
    apply List.Perm.eq_of_sortedLE (List.sortedLE_insertionSort) (List.sortedLE_insertionSort)
    exact (List.perm_insertionSort _ _).trans (same.trans (List.perm_insertionSort _ _).symm)
  rw [upperMedian, upperMedian, sorted, same.length_eq]

end Gvpn
