import Mathlib.Algebra.GroupWithZero.Nat
import Mathlib.Data.List.Basic

/-! Pieces of a list between two positions, and ranges without a gap. -/

namespace Gvpn

open List

variable {α : Type}

def slice (items : List α) (range : Nat × Nat) : List α :=
  (items.drop range.1).take (range.2 + 1 - range.1)

theorem slice_length {items : List α} {range : Nat × Nat} (inside : range.2 < items.length) :
    (slice items range).length = range.2 + 1 - range.1 := by
  simp only [slice, length_take, length_drop]
  omega

inductive Consecutive : Nat → Nat → List (Nat × Nat) → Prop
  -- Nothing is left to cover.
  | done (here : Nat) : Consecutive here here []
  | range {first last stop : Nat} {rest : List (Nat × Nat)} (ordered : first ≤ last)
      (later : Consecutive (last + 1) stop rest) : Consecutive first stop ((first, last) :: rest)

namespace Consecutive

variable {start stop : Nat} {ranges : List (Nat × Nat)}

theorem le (covers : Consecutive start stop ranges) : start ≤ stop := by
  induction covers with
  | done => exact Nat.le_refl _
  | range ordered _ ih => omega

theorem flatten_slices (covers : Consecutive start stop ranges) (items : List α) :
    (ranges.map (slice items)).flatten = (items.drop start).take (stop - start) := by
  induction covers with
  | done => simp
  | @range first last stop rest ordered later ih =>
    have forward := later.le
    have lengths : stop - first = (last + 1 - first) + (stop - (last + 1)) := by omega
    have behind : first + (last + 1 - first) = last + 1 := by omega
    rw [map_cons, flatten_cons, ih, lengths, take_add, drop_drop, behind]
    rfl

theorem split {front back : List (Nat × Nat)} (covers : Consecutive start stop (front ++ back)) :
    ∃ middle, Consecutive start middle front ∧ Consecutive middle stop back := by
  induction front generalizing start with
  | nil => exact ⟨start, .done start, covers⟩
  | cons first rest ih =>
    cases covers with
    | range ordered later =>
      obtain ⟨middle, before, behind⟩ := ih later
      exact ⟨middle, .range ordered before, behind⟩

theorem lt {first : Nat × Nat} {rest : List (Nat × Nat)}
    (covers : Consecutive start stop (first :: rest)) : start < stop := by
  cases covers with
  | range ordered later =>
    have forward := later.le
    omega

theorem sum_lengths (covers : Consecutive start stop ranges) :
    (ranges.map fun range => range.2 + 1 - range.1).sum = stop - start := by
  induction covers with
  | done => simp
  | @range first last stop rest ordered later ih =>
    have forward := later.le
    rw [map_cons, sum_cons, ih]
    omega

theorem mem_iff (covers : Consecutive start stop ranges) (position : Nat) :
    (∃ range ∈ ranges, range.1 ≤ position ∧ position ≤ range.2) ↔
      start ≤ position ∧ position < stop := by
  induction covers with
  | done => simp
  | @range first last stop rest ordered later ih =>
    have forward := later.le
    rw [exists_mem_cons_iff, ih]
    omega

theorem pairwise (covers : Consecutive start stop ranges) :
    ranges.Pairwise fun earlier later => earlier.2 < later.1 := by
  induction covers with
  | done => exact .nil
  | @range first last stop rest ordered later ih =>
    refine List.pairwise_cons.mpr ⟨?_, ih⟩
    intro range member
    obtain ⟨front, back, rfl⟩ := append_of_mem member
    obtain ⟨middle, before, behind⟩ := later.split
    have reached := before.le
    cases behind with
    | range _ _ => exact reached

end Consecutive

theorem totals_agree_iff (first second : α → Nat) (items : List α) :
    (∀ done, done <+: items → (done.map first).sum = (done.map second).sum) ↔
      ∀ item ∈ items, first item = second item := by
  constructor
  · intro agree item member
    obtain ⟨before, after, rfl⟩ := append_of_mem member
    have upTo := agree before (prefix_append before (item :: after))
    have behind := agree (before ++ [item]) ⟨after, by simp⟩
    simp only [map_append, map_cons, map_nil, sum_append, sum_cons,
      sum_nil] at behind
    omega
  · intro same done begins
    exact congrArg List.sum (map_congr_left fun item member =>
      same item (begins.subset member))

end Gvpn
