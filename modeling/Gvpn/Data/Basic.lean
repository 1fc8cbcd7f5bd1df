import Mathlib.Algebra.GroupWithZero.Nat
import Mathlib.Data.List.Sort

/-! Byte strings, texts, and the orders of concurrent steps. -/

namespace Gvpn

open List

abbrev Bytes := List UInt8

abbrev Text := List Char

instance : LawfulBEq Text := inferInstanceAs (LawfulBEq (List Char))

@[irreducible] def lit (literal : String) : Text := literal.toList

def second : Nat := 1000000000

variable {α : Type}

@[simp]
theorem ok_bind {ε β : Type} (value : α) (next : α → Except ε β) :
    (Except.ok value >>= next) = next value := rfl

@[simp]
theorem error_bind {ε β : Type} (reason : ε) (next : α → Except ε β) :
    (Except.error reason >>= next) = .error reason := rfl

theorem bind_eq_ok_iff {ε β : Type} {outcome : Except ε α} {next : α → Except ε β} {value : β} :
    outcome >>= next = .ok value ↔ ∃ result, outcome = .ok result ∧ next result = .ok value := by
  cases outcome <;> simp

@[simp]
theorem pure_eq_ok {ε : Type} (value : α) : (pure value : Except ε α) = .ok value := rfl

theorem foldl_eq_some {β : Type} {step : Option β → α → Option β} {through : β → α → β}
    {items : List α}
    (each : ∀ item ∈ items, ∀ value, step (some value) item = some (through value item))
    (start : β) : items.foldl step (some start) = some (items.foldl through start) := by
  induction items generalizing start with
  | nil => rfl
  | cons item others ih =>
    obtain ⟨here, later⟩ := List.forall_mem_cons.mp each
    rw [foldl_cons, foldl_cons, here, ih later]

theorem length_le_length_flatMap {β : Type} {write : α → List β} (items : List α)
    (something : ∀ item ∈ items, write item ≠ []) :
    items.length ≤ (items.flatMap write).length := by
  induction items with
  | nil => simp
  | cons item others ih =>
    obtain ⟨here, later⟩ := List.forall_mem_cons.mp something
    have positive := length_pos_of_ne_nil here
    have rest := ih later
    rw [flatMap_cons, length_append, length_cons]
    omega

inductive Interleaved {α : Type} : List (List α) → List α → Prop
  | done {tasks : List (List α)} (finished : ∀ task ∈ tasks, task = []) : Interleaved tasks []
  | step {front back : List (List α)} {task order : List α} {head : α}
      (rest : Interleaved (front ++ task :: back) order) :
      Interleaved (front ++ (head :: task) :: back) (head :: order)

theorem Interleaved.perm {tasks : List (List α)} {order : List α}
    (interleaved : Interleaved tasks order) : order.Perm tasks.flatten := by
  induction interleaved with
  | done finished => rw [List.flatten_eq_nil_iff.mpr finished]
  | @step front back task order head rest ih =>
    have moved : (front ++ (head :: task) :: back).flatten.Perm
        (head :: (front ++ task :: back).flatten) := by
      simp only [flatten_append, flatten_cons, cons_append]
      exact perm_middle
    exact (ih.cons head).trans moved.symm

theorem getElem?_insertionSort_fst {pairs : List (Nat × α)} {count : Nat}
    (numbered : (pairs.map Prod.fst).Perm (List.range count)) {i : Nat} (inside : i < count) :
    ∃ item, (i, item) ∈ pairs ∧
      ((pairs.insertionSort fun left right => left.1 ≤ right.1).map Prod.snd)[i]? = some item := by
  set sorted := pairs.insertionSort fun left right => left.1 ≤ right.1 with sortedIs
  have firsts : sorted.map Prod.fst = List.range count := by
    have commutes : sorted.map Prod.fst = (pairs.map Prod.fst).insertionSort (· ≤ ·) :=
      map_insertionSort _ _ _ _ fun _ _ _ _ => Iff.rfl
    rw [commutes]
    exact Perm.eq_of_sortedLE sortedLE_insertionSort
      (List.pairwise_le_range.sortedLE) ((perm_insertionSort _ _).trans numbered)
  have length : sorted.length = count := by
    have := congrArg List.length firsts
    simpa using this
  have bound : i < sorted.length := by omega
  have first : (sorted[i]).1 = i := by
    have at_ : (sorted.map Prod.fst)[i]? = (List.range count)[i]? := by rw [firsts]
    simpa [getElem?_eq_getElem bound, getElem?_range, inside] using at_
  refine ⟨(sorted[i]).2, ?_, by simp [getElem?_eq_getElem bound]⟩
  have member : sorted[i] ∈ pairs :=
    (perm_insertionSort _ _).subset (getElem_mem bound)
  have pair : sorted[i] = (i, (sorted[i]).2) := Prod.ext first rfl
  rwa [← pair]

end Gvpn
