import Gvpn.Data.Slots
import Mathlib.Data.List.Nodup

/-! What numbered calls have taken from a shared stream, in their order. -/

namespace Gvpn

variable {σ β : Type}

/-- What the call with a number has taken. -/
def takenBy (taken : σ → Option (List β)) (calls : List σ) (id : Nat) : Option (List β) :=
  calls[id]?.bind taken

/-- All that was taken, in the order of the calls that took it. -/
def handed (order : List Nat) (taken : Nat → Option (List β)) : List β :=
  (order.map fun id => (taken id).getD []).flatten

section

variable {taken : σ → Option (List β)} {calls : List σ} {id : Nat} {old new : σ}

theorem takenBy_concat (nothing : taken new = none) :
    takenBy taken (calls ++ [new]) = takenBy taken calls := by
  funext id
  unfold takenBy
  rcases Nat.lt_trichotomy id calls.length with inside | rfl | beyond
  · rw [List.getElem?_append_left inside]
  · simp [nothing]
  · rw [List.getElem?_eq_none (by simp; omega), List.getElem?_eq_none (by omega)]

theorem takenBy_set (found : calls[id]? = some old) (new : σ) (other : Nat) :
    takenBy taken (calls.set id new) other =
      if other = id then taken new else takenBy taken calls other := by
  unfold takenBy
  rw [getElem?_set_of_some found]
  split <;> rfl

theorem takenBy_set_of_eq (found : calls[id]? = some old) (same : taken new = taken old) :
    takenBy taken (calls.set id new) = takenBy taken calls := by
  funext other
  rw [takenBy_set found]
  split
  · rename_i here
    rw [here, takenBy, found, same]
    rfl
  · rfl

end

section

variable {order : List Nat} {before after : Nat → Option (List β)} {id : Nat} {data : List β}
  (taken : ∀ other, after other = if other = id then some data else before other)

include taken

theorem handed_concat (fresh : id ∉ order) :
    handed (order ++ [id]) after = handed order before ++ data := by
  have earlier : ∀ other ∈ order, (after other).getD [] = (before other).getD [] := by
    intro other member
    have differs : other ≠ id := fun same => fresh (same ▸ member)
    rw [taken, if_neg differs]
  unfold handed
  rw [List.map_append, List.flatten_append, List.map_congr_left earlier]
  simp [taken]

theorem mem_concat_iff_isSome (ran : ∀ id, id ∈ order ↔ (before id).isSome) (other : Nat) :
    other ∈ order ++ [id] ↔ (after other).isSome := by
  rw [List.mem_append, List.mem_singleton, taken, ran]
  by_cases same : other = id
  · simp [same]
  · simp [same]

end

end Gvpn
