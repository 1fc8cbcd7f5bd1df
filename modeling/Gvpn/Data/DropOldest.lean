import Mathlib.Data.List.DropRight

/-! Queues of limited length that drop their oldest item to make room. -/

namespace Gvpn

variable {α : Type}

def pushDropOldest (limit : Nat) (queue : List α) (item : α) : List α :=
  (if limit ≤ queue.length then queue.tail else queue) ++ [item]

@[simp] theorem length_rtake (limit : Nat) (items : List α) :
    (items.rtake limit).length = min limit items.length := by
  rw [List.rtake, List.length_drop]
  omega

theorem pushDropOldest_rtake {limit : Nat} (positive : 0 < limit) (items : List α) (item : α) :
    pushDropOldest limit (items.rtake limit) item = (items ++ [item]).rtake limit := by
  obtain ⟨less, rfl⟩ := Nat.exists_eq_succ_of_ne_zero (Nat.ne_of_gt positive)
  rw [List.rtake_concat_succ]
  unfold pushDropOldest
  congr 1
  by_cases full : less.succ ≤ items.length
  · -- A full queue starts one item later, which is where the shorter tail starts.
    have room : less.succ ≤ (items.rtake less.succ).length := by
      rw [length_rtake]
      omega
    rw [if_pos room, List.rtake, List.rtake, List.tail_drop]
    congr 1
    omega
  · -- A queue with room holds the whole list.
    have room : ¬ less.succ ≤ (items.rtake less.succ).length := by
      rw [length_rtake]
      omega
    rw [if_neg room, List.rtake, List.rtake]
    congr 1
    omega

theorem length_pushDropOldest {limit : Nat} (positive : 0 < limit) (queue : List α) (item : α) :
    (pushDropOldest limit queue item).length + (if limit ≤ queue.length then 1 else 0) =
      queue.length + 1 := by
  unfold pushDropOldest
  by_cases full : limit ≤ queue.length
  · simp only [if_pos full, List.length_append, List.length_tail, List.length_singleton]
    omega
  · simp [if_neg full]

end Gvpn
