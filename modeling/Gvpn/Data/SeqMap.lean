import Mathlib.Data.List.Sort
import Mathlib.Data.Finset.Basic

/-! Ordered maps keyed by sequence numbers, and the in-order writer on one. -/

namespace Gvpn

open List

structure SeqMap (α : Type) where
  entries : List (Nat × α)
  increasing : (entries.map Prod.fst).Pairwise (· < ·)

namespace SeqMap

variable {α : Type}

def empty : SeqMap α := ⟨[], List.Pairwise.nil⟩

instance : Inhabited (SeqMap α) := ⟨empty⟩

@[ext] theorem ext {left right : SeqMap α} (same : left.entries = right.entries) :
    left = right := by
  cases left
  simp_all

def insertEntry (key : Nat) (item : α) : List (Nat × α) → List (Nat × α)
  | [] => [(key, item)]
  | (at_, stored) :: rest =>
    if key < at_ then (key, item) :: (at_, stored) :: rest
    else if key = at_ then (key, item) :: rest
    else (at_, stored) :: insertEntry key item rest

variable {entries : List (Nat × α)} {pair : Nat × α}

theorem mem_insertEntry {key : Nat} {item : α}
    (increasing : (entries.map Prod.fst).Pairwise (· < ·)) :
    pair ∈ insertEntry key item entries ↔
      pair = (key, item) ∨ (pair ∈ entries ∧ pair.1 ≠ key) := by
  induction entries with
  | nil => simp [insertEntry]
  | cons entry rest ih =>
    obtain ⟨at_, stored⟩ := entry
    obtain ⟨above, tail⟩ := List.pairwise_cons.mp increasing
    have later : ∀ other ∈ rest, at_ < other.1 := fun other member =>
      above other.1 (mem_map_of_mem member)
    unfold insertEntry
    split
    · rename_i smaller
      have fresh : pair ∈ (at_, stored) :: rest → pair.1 ≠ key := by
        intro member
        rcases List.mem_cons.mp member with rfl | member
        · exact Nat.ne_of_gt smaller
        · exact Nat.ne_of_gt (Nat.lt_trans smaller (later pair member))
      rw [mem_cons, and_iff_left_of_imp fresh]
    · split
      · rename_i notSmaller same
        subst same
        have fresh : pair ∈ rest → pair.1 ≠ key := fun member => Nat.ne_of_gt (later pair member)
        have replaced : ¬ (pair = (key, stored) ∧ pair.1 ≠ key) := by
          rintro ⟨rfl, differs⟩
          exact differs rfl
        rw [mem_cons, mem_cons, or_and_right, and_iff_left_of_imp fresh, or_iff_right replaced]
      · rename_i notSmaller notSame
        have other : pair = (at_, stored) → pair.1 ≠ key := by
          rintro rfl
          exact Ne.symm notSame
        rw [mem_cons, ih tail, mem_cons, or_and_right, and_iff_left_of_imp other, or_left_comm]

theorem insertEntry_increasing (key : Nat) (item : α)
    (increasing : (entries.map Prod.fst).Pairwise (· < ·)) :
    ((insertEntry key item entries).map Prod.fst).Pairwise (· < ·) := by
  induction entries with
  | nil => simp [insertEntry]
  | cons entry rest ih =>
    obtain ⟨at_, stored⟩ := entry
    obtain ⟨above, tail⟩ := List.pairwise_cons.mp increasing
    unfold insertEntry
    split
    · rename_i smaller
      refine List.pairwise_cons.mpr ⟨?_, increasing⟩
      intro other member
      rcases List.mem_cons.mp member with rfl | member
      · exact smaller
      · exact Nat.lt_trans smaller (above other member)
    · split
      · rename_i notSmaller same
        subst same
        exact increasing
      · refine List.pairwise_cons.mpr ⟨?_, ih tail⟩
        intro other member
        obtain ⟨pair, pairMember, rfl⟩ := List.mem_map.mp member
        rcases (mem_insertEntry tail).mp pairMember with rfl | ⟨pairMember, -⟩
        · show at_ < key
          omega
        · exact above pair.1 (mem_map_of_mem pairMember)

def insert (map : SeqMap α) (key : Nat) (item : α) : SeqMap α :=
  ⟨insertEntry key item map.entries, insertEntry_increasing key item map.increasing⟩

theorem mem_insert {map : SeqMap α} {key : Nat} {item : α} :
    pair ∈ (map.insert key item).entries ↔
      pair = (key, item) ∨ (pair ∈ map.entries ∧ pair.1 ≠ key) :=
  mem_insertEntry map.increasing

def runLength (expected : Nat) : List (Nat × α) → Nat
  | [] => 0
  | (key, _) :: rest => if key = expected then runLength (expected + 1) rest + 1 else 0

def dropFirst (map : SeqMap α) (count : Nat) : SeqMap α :=
  ⟨map.entries.drop count, by
    rw [map_drop]
    exact map.increasing.sublist (drop_sublist _ _)⟩

def popRun (map : SeqMap α) (expected : Nat) : List α × Nat × SeqMap α :=
  let count := runLength expected map.entries
  ((map.entries.take count).map Prod.snd, expected + count, map.dropFirst count)

theorem take_runLength_keys (expected : Nat) (entries : List (Nat × α)) :
    (entries.take (runLength expected entries)).map Prod.fst =
      List.range' expected (runLength expected entries) := by
  induction entries generalizing expected with
  | nil => simp [runLength]
  | cons entry rest ih =>
    unfold runLength
    split
    · rename_i same
      subst same
      simp [range'_succ, ih]
    · simp

variable {expected : Nat}

theorem lt_of_mem_take_runLength (taken : pair ∈ entries.take (runLength expected entries)) :
    expected ≤ pair.1 ∧ pair.1 < expected + runLength expected entries := by
  have inRange : pair.1 ∈ (entries.take (runLength expected entries)).map Prod.fst :=
    mem_map_of_mem taken
  rw [take_runLength_keys] at inRange
  exact List.mem_range'_1.mp inRange

theorem lt_of_mem_drop_runLength (increasing : (entries.map Prod.fst).Pairwise (· < ·))
    (bounded : ∀ pair ∈ entries, expected ≤ pair.1) :
    ∀ pair ∈ entries.drop (runLength expected entries),
      expected + runLength expected entries < pair.1 := by
  induction entries generalizing expected with
  | nil => simp
  | cons entry rest ih =>
    obtain ⟨key, item⟩ := entry
    obtain ⟨above, tail⟩ := List.pairwise_cons.mp increasing
    have later : ∀ pair ∈ rest, key < pair.1 := fun pair member =>
      above pair.1 (mem_map_of_mem member)
    unfold runLength
    split
    · -- The first entry is popped, and the claim is the one about the rest.
      rename_i same
      subst same
      intro pair member
      have bound : ∀ other ∈ rest, key + 1 ≤ other.1 := fun other otherMember =>
        later other otherMember
      have := ih tail bound pair member
      omega
    · -- Nothing is popped, so the first key is already past the expected number.
      have first : expected ≤ key := bounded (key, item) mem_cons_self
      intro pair member
      rcases List.mem_cons.mp member with rfl | member
      · show expected + 0 < key
        omega
      · have := later pair member
        omega

theorem mem_drop_runLength_iff (increasing : (entries.map Prod.fst).Pairwise (· < ·))
    (bounded : ∀ pair ∈ entries, expected ≤ pair.1) :
    pair ∈ entries.drop (runLength expected entries) ↔
      pair ∈ entries ∧ expected + runLength expected entries ≤ pair.1 := by
  constructor
  · intro left
    exact ⟨mem_of_mem_drop left, (lt_of_mem_drop_runLength increasing bounded pair left).le⟩
  · rintro ⟨member, past⟩
    rw [← take_append_drop (runLength expected entries) entries, mem_append] at member
    refine member.resolve_left fun taken => ?_
    have inside := (lt_of_mem_take_runLength taken).2
    omega

end SeqMap

end Gvpn
