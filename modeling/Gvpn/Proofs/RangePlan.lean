import Gvpn.Proofs.Streaming

/-! The plan of the ranges behind a probe, up to the largest numbers of 64 bits. -/

namespace Gvpn

variable {left right : Nat}

theorem divCeil_sub (positive : 0 < left) (divisor : 0 < right) :
    divCeil left right = divCeil (left - right) right + 1 := by
  unfold divCeil
  by_cases below : left < right
  · -- A smaller number is one incomplete divisor.
    have nothing : left - right = 0 := by omega
    rw [nothing, Nat.mod_eq_of_lt below, Nat.div_eq_of_lt below, if_pos positive]
    simp
  · have large : right ≤ left := by omega
    rw [Nat.mod_eq_sub_mod large, Nat.div_eq_sub_div divisor large]
    split <;> rfl

theorem divCeil_eq (divisor : 0 < right) :
    divCeil left right = (left + right - 1) / right := by
  induction left using Nat.strongRecOn with
  | _ left ih =>
    by_cases positive : 0 < left
    · rw [divCeil_sub positive divisor, ih (left - right) (by omega)]
      by_cases below : left < right
      · have nothing : left - right + right - 1 = right - 1 := by omega
        have once : left + right - 1 = left - 1 + right := by omega
        rw [nothing, Nat.div_eq_of_lt (show right - 1 < right by omega), once,
          Nat.add_div_right _ divisor, Nat.div_eq_of_lt (show left - 1 < right by omega)]
      · have once : left + right - 1 = left - right + right - 1 + right := by omega
        rw [once, Nat.add_div_right _ divisor]
    · have zero : left = 0 := by omega
      subst zero
      rw [Nat.zero_add, Nat.div_eq_of_lt (show right - 1 < right by omega)]
      simp [divCeil]

def plannedRange (total chunkSize start number : Nat) : Nat × Nat :=
  (start + number * chunkSize, min (start + (number + 1) * chunkSize - 1) (total - 1))

theorem plannedRange_succ (total chunkSize start number : Nat) :
    plannedRange total chunkSize start (number + 1) =
      plannedRange total chunkSize (start + chunkSize) number := by
  simp only [plannedRange, Nat.succ_mul, Prod.mk.injEq]
  omega

variable {total chunkSize : Nat}

theorem nextRange_eq {start : Nat} (fits : total ≤ u64Max) (inside : start < total) :
    nextRange total chunkSize start = some (plannedRange total chunkSize start 0) := by
  have last : min (saturatingAdd start chunkSize - 1) (total - 1) =
      min (start + chunkSize - 1) (total - 1) := by
    unfold saturatingAdd
    omega
  unfold nextRange plannedRange
  rw [if_neg (by omega), last]
  simp

theorem planFrom_eq (size : 0 < chunkSize) (fits : total ≤ u64Max)
    (count : Nat) : ∀ {start : Nat}, start ≤ total → total - start ≤ count →
      planFrom total chunkSize count start =
        (List.range (divCeil (total - start) chunkSize)).map
          (plannedRange total chunkSize start) := by
  induction count with
  | zero =>
    intro start inside enough
    have nothing : total - start = 0 := by omega
    simp [planFrom, nothing, divCeil]
  | succ count ih =>
    intro start inside enough
    by_cases ended : total ≤ start
    · have nothing : total - start = 0 := by omega
      simp [planFrom, nextRange, ended, nothing, divCeil]
    · have planned := @nextRange_eq total chunkSize start fits (Nat.lt_of_not_le ended)
      have next : saturatingAdd (plannedRange total chunkSize start 0).2 1 =
          min (start + chunkSize) total := by
        unfold plannedRange saturatingAdd
        omega
      have one : divCeil (total - start) chunkSize =
          divCeil (total - start - chunkSize) chunkSize + 1 := divCeil_sub (by omega) size
      rw [planFrom, planned]
      simp only [next]
      rw [ih (by omega) (by omega), one, List.range_succ_eq_map, List.map_cons, List.map_map]
      congr 1
      by_cases further : start + chunkSize ≤ total
      · rw [Nat.min_eq_left further, Nat.sub_add_eq]
        exact List.map_congr_left fun number _ =>
          (plannedRange_succ total chunkSize start number).symm
      · have here : total - min (start + chunkSize) total = 0 := by omega
        have behind : total - start - chunkSize = 0 := by omega
        rw [here, behind]
        simp [divCeil]

theorem plannedRange_length {start number : Nat} (size : 0 < chunkSize)
    (inside : start + number * chunkSize < total) :
    (plannedRange total chunkSize start number).1 ≤ (plannedRange total chunkSize start number).2 ∧
      (plannedRange total chunkSize start number).2 -
        (plannedRange total chunkSize start number).1 + 1 ≤ chunkSize := by
  simp only [plannedRange, Nat.succ_mul]
  omega

theorem lt_of_lt_divCeil {number : Nat} (divisor : 0 < right)
    (below : number < divCeil left right) : number * right < left := by
  rw [divCeil_eq divisor, Nat.lt_div_iff_mul_lt divisor] at below
  omega

/--
The plan cuts what is behind the probe into chunks in order, without gaps, for all numbers of 64
bits; it ends, and is the one of arithmetic without bounds.
-/
theorem planRemainingRanges_partition {probeEnd total chunkSize : Nat} (inside : probeEnd < total)
    (fits : total ≤ u64Max) (size : 1 ≤ chunkSize) :
    let plan := planRemainingRanges probeEnd total chunkSize
    (∀ count, total ≤ count →
        planFrom total chunkSize count (saturatingAdd probeEnd 1) = plan) ∧
      (∀ range ∈ plan, range.1 ≤ range.2 ∧ range.2 - range.1 + 1 ≤ chunkSize) ∧
      plan.Pairwise (fun earlier later => earlier.2 < later.1) ∧
      Consecutive (probeEnd + 1) total plan ∧
      (∀ position, (∃ range ∈ plan, range.1 ≤ position ∧ position ≤ range.2) ↔
        probeEnd + 1 ≤ position ∧ position ≤ total - 1) ∧
      plan.length = (total - probeEnd - 1 + chunkSize - 1) / chunkSize ∧
      plan.length = expectedChunks probeEnd total chunkSize ∧
      plan = (List.range (expectedChunks probeEnd total chunkSize)).map
        (plannedRange total chunkSize (probeEnd + 1)) := by
  have next : saturatingAdd probeEnd 1 = probeEnd + 1 := by
    unfold saturatingAdd
    omega
  have exact_ : ∀ count, total ≤ count →
      planFrom total chunkSize count (saturatingAdd probeEnd 1) =
        (List.range (expectedChunks probeEnd total chunkSize)).map
          (plannedRange total chunkSize (probeEnd + 1)) := by
    intro count enough
    rw [next, planFrom_eq size fits count (by omega) (by omega), Nat.sub_add_eq]
    rfl
  have covers := planRemainingRanges_consecutive size fits inside
  have whole : planRemainingRanges probeEnd total chunkSize = _ := exact_ total (Nat.le_refl total)
  have count : (planRemainingRanges probeEnd total chunkSize).length =
      expectedChunks probeEnd total chunkSize := by
    rw [whole, List.length_map, List.length_range]
  refine ⟨?_, ?_, covers.pairwise, covers, ?_, ?_, count, whole⟩
  · intro rounds enough
    rw [exact_ rounds enough, whole]
  · intro range member
    rw [whole] at member
    obtain ⟨number, below, rfl⟩ := List.mem_map.mp member
    have started := lt_of_lt_divCeil size (List.mem_range.mp below)
    exact plannedRange_length size (by omega)
  · intro position
    rw [covers.mem_iff]
    omega
  · rw [count, expectedChunks, divCeil_eq size]

theorem planRemainingRanges_partition_largest :
    0 < u64Max ∧ (planRemainingRanges 0 u64Max u64Max).length = 1 ∧
      Consecutive 1 u64Max (planRemainingRanges 0 u64Max u64Max) := by
  have inside : 0 < u64Max := by decide
  obtain ⟨-, -, -, covers, -, -, count, -⟩ :=
    planRemainingRanges_partition inside (Nat.le_refl u64Max) inside
  refine ⟨inside, ?_, covers⟩
  decide

end Gvpn
