import Mathlib.Data.Finset.Card

/-! Histories in which keys are recorded at rising times, and what is recent in them. -/

namespace Gvpn

open List

variable {κ : Type}

def Chronological (history : List (κ × Nat)) : Prop :=
  history.Pairwise fun earlier later => earlier.2 < later.2

structure LastRecord (history : List (κ × Nat)) (key : κ) (time : Nat)
    (since : List (κ × Nat)) : Prop where
  split : ∃ before, history = before ++ (key, time) :: since
  last : ∀ record ∈ since, record.1 ≠ key

def distinctKeys [DecidableEq κ] (history : List (κ × Nat)) : Nat :=
  (history.map Prod.fst).toFinset.card

theorem distinctKeys_le_append [DecidableEq κ] (history more : List (κ × Nat)) :
    distinctKeys history ≤ distinctKeys (history ++ more) := by
  apply Finset.card_le_card
  rw [map_append, toFinset_append]
  exact Finset.subset_union_left

theorem Chronological.append {history : List (κ × Nat)} (ordered : Chronological history)
    {key : κ} {time : Nat} (later : ∀ record ∈ history, record.2 < time) :
    Chronological (history ++ [(key, time)]) := by
  apply List.pairwise_append.mpr
  refine ⟨ordered, pairwise_singleton _ _, ?_⟩
  intro record old new added
  rw [List.mem_singleton.mp added]
  exact later record old

namespace LastRecord

variable {history since : List (κ × Nat)} {key : κ} {time : Nat}

theorem mem (found : LastRecord history key time since) : (key, time) ∈ history := by
  obtain ⟨before, rfl⟩ := found.split
  exact mem_append_right _ mem_cons_self

theorem appended (history : List (κ × Nat)) (key : κ) (time : Nat) :
    LastRecord (history ++ [(key, time)]) key time [] :=
  ⟨⟨history, rfl⟩, fun _ none_ => absurd none_ not_mem_nil⟩

variable {other : κ}

theorem append_other (found : LastRecord history key time since) (moment : Nat)
    (differ : other ≠ key) :
    LastRecord (history ++ [(other, moment)]) key time (since ++ [(other, moment)]) := by
  obtain ⟨before, rfl⟩ := found.split
  refine ⟨⟨before, by simp⟩, ?_⟩
  intro record member
  rcases List.mem_append.mp member with old | new
  · exact found.last record old
  · rw [List.mem_singleton.mp new]
    exact differ

variable {moment : Nat}

theorem of_append (found : LastRecord (history ++ [(other, moment)]) key time since) :
    (key = other ∧ time = moment ∧ since = []) ∨
      ∃ rest, since = rest ++ [(other, moment)] ∧ LastRecord history key time rest := by
  obtain ⟨before, joined⟩ := found.split
  rcases eq_nil_or_concat since with rfl | ⟨rest, final, rfl⟩
  · obtain ⟨-, same⟩ := append_inj' joined rfl
    rw [cons.injEq, Prod.mk.injEq] at same
    exact .inl ⟨same.1.1.symm, same.1.2.symm, rfl⟩
  · rw [concat_eq_append, ← cons_append, ← append_assoc] at joined
    obtain ⟨front, same⟩ := append_inj' joined rfl
    rw [cons.injEq] at same
    refine .inr ⟨rest, by rw [concat_eq_append, same.1], ⟨before, front⟩, ?_⟩
    intro record member
    apply found.last record
    rw [concat_eq_append]
    exact mem_append_left _ member

theorem time_unique {rest : List (κ × Nat)}
    (found : LastRecord history key time since) (again : LastRecord history key moment rest) :
    time = moment := by
  induction history using List.reverseRecOn generalizing since rest with
  | nil => exact absurd found.mem not_mem_nil
  | append_singleton front record ih =>
    have fresh : ∀ {at_ : Nat} {behind : List (κ × Nat)},
        LastRecord (front ++ [record]) record.1 at_ (behind ++ [record]) → False :=
      fun stale => stale.last record (mem_append_right _ mem_cons_self) rfl
    rcases of_append found with ⟨rfl, rfl, rfl⟩ | ⟨_, rfl, earlier⟩
    · rcases of_append again with ⟨-, same, -⟩ | ⟨_, rfl, -⟩
      · exact same.symm
      · exact (fresh again).elim
    · rcases of_append again with ⟨rfl, -, rfl⟩ | ⟨_, rfl, earlier'⟩
      · exact (fresh found).elim
      · exact ih earlier earlier'

theorem mem_since (found : LastRecord history key time since) (ordered : Chronological history)
    (recorded : (other, moment) ∈ history) (differ : other ≠ key)
    (later : time ≤ moment) : (other, moment) ∈ since := by
  obtain ⟨before, rfl⟩ := found.split
  obtain ⟨-, -, rises⟩ := List.pairwise_append.mp ordered
  rcases List.mem_append.mp recorded with old | new
  · -- The records before were made earlier.
    have earlier := rises _ old _ mem_cons_self
    omega
  · rcases List.mem_cons.mp new with same | member
    · exact absurd (congrArg Prod.fst same) differ
    · exact member

end LastRecord

end Gvpn
