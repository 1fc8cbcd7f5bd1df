import Mathlib.Data.List.Infix

/-! Cutting a list at the first place a pattern occurs in it. -/

namespace Gvpn

open List Option

variable {α : Type} [DecidableEq α]

def cut (pattern : List α) : List α → Option (List α × List α)
  | [] => if pattern = [] then some ([], []) else none
  | head :: tail =>
    if pattern.isPrefixOf (head :: tail) then some ([], (head :: tail).drop pattern.length)
    else (cut pattern tail).map fun (before, after) => (head :: before, after)

theorem cut_append_self (pattern rest : List α) :
    cut pattern (pattern ++ rest) = some ([], rest) := by
  cases joined : pattern ++ rest with
  | nil =>
    obtain ⟨rfl, rfl⟩ := List.append_eq_nil_iff.mp joined
    simp [cut]
  | cons head tail =>
    have opens : pattern.isPrefixOf (head :: tail) = true := by
      rw [List.isPrefixOf_iff_prefix, ← joined]
      exact prefix_append _ _
    rw [cut, if_pos opens, ← joined, drop_left]

variable {pattern : List α}

theorem cut_cons_elsewhere {head : α} {tail : List α} (elsewhere : ¬ pattern <+: head :: tail) :
    cut pattern (head :: tail) =
      (cut pattern tail).map fun parts => (head :: parts.1, parts.2) := by
  have opens : ¬ pattern.isPrefixOf (head :: tail) = true := by
    rwa [List.isPrefixOf_iff_prefix]
  rw [cut, if_neg opens]

variable {text before after : List α}

theorem eq_append_of_cut
    (found : cut pattern text = some (before, after)) : text = before ++ pattern ++ after := by
  induction text generalizing before with
  | nil =>
    unfold cut at found
    split at found
    · rename_i empty
      simp only [some.injEq, Prod.mk.injEq] at found
      simp [← found.1, ← found.2, empty]
    · simp at found
  | cons head tail ih =>
    unfold cut at found
    split at found
    · -- The pattern stands at the front.
      rename_i opens
      simp only [some.injEq, Prod.mk.injEq] at found
      obtain ⟨rest, restIs⟩ := List.isPrefixOf_iff_prefix.mp opens
      rw [← found.1, ← found.2, ← restIs]
      simp
    · obtain ⟨⟨front, back⟩, foundTail, parts⟩ := Option.map_eq_some_iff.mp found
      obtain ⟨rfl, rfl⟩ := parts
      rw [ih foundTail]
      simp

variable {front back : List α}

theorem exists_cut_of_eq_append (occurs : text = front ++ pattern ++ back) :
    ∃ before after, cut pattern text = some (before, after) ∧ before.length ≤ front.length := by
  induction front generalizing text with
  | nil =>
    rw [nil_append] at occurs
    exact ⟨[], back, by rw [occurs, cut_append_self], Nat.le_refl _⟩
  | cons head tail ih =>
    rw [occurs, cons_append, cons_append]
    by_cases opens : pattern <+: head :: (tail ++ pattern ++ back)
    · -- There is an even earlier occurrence.
      obtain ⟨rest, restIs⟩ := opens
      exact ⟨[], rest, by rw [← restIs, cut_append_self], Nat.zero_le _⟩
    · obtain ⟨before, after, found, earlier⟩ := ih rfl
      exact ⟨head :: before, after, by rw [cut_cons_elsewhere opens, found]; rfl,
        Nat.succ_le_succ earlier⟩

theorem cut_eq_none (absent : ¬ pattern <:+: text) :
    cut pattern text = none := by
  cases found : cut pattern text with
  | none => rfl
  | some parts =>
    have whole := eq_append_of_cut found
    exact absurd ⟨parts.1, parts.2, whole.symm⟩ absent

theorem suffix_of_cut
    (occurs : text = front ++ pattern ++ back) (found : cut pattern text = some (before, after)) :
    back <:+ after := by
  obtain ⟨first, rest, foundFirst, earlier⟩ := exists_cut_of_eq_append occurs
  rw [found, some.injEq, Prod.mk.injEq] at foundFirst
  have whole := eq_append_of_cut found
  have ends : back <:+ text := ⟨front ++ pattern, occurs.symm⟩
  have endsFirst : after <:+ text := ⟨before ++ pattern, whole.symm⟩
  refine suffix_of_suffix_length_le ends endsFirst ?_
  have length := congrArg List.length whole
  rw [occurs] at length
  simp only [length_append] at length
  rw [← foundFirst.1] at earlier
  omega

theorem cut_eq_some (first : ∀ before after, front ++ pattern ++ back = before ++ pattern ++ after →
      front.length ≤ before.length) :
    cut pattern (front ++ pattern ++ back) = some (front, back) := by
  obtain ⟨before, after, found, earlier⟩ := exists_cut_of_eq_append
    (rfl : front ++ pattern ++ back = front ++ pattern ++ back)
  have whole := eq_append_of_cut found
  have length : front.length = before.length :=
    Nat.le_antisymm (first before after whole) earlier
  rw [append_assoc, append_assoc] at whole
  obtain ⟨frontIs, rest⟩ := append_inj whole length
  have backIs := append_cancel_left rest
  rw [found, frontIs, backIs]

theorem cut_append (found : cut pattern text = some (before, after)) (more : List α) :
    cut pattern (text ++ more) = some (before, after ++ more) := by
  have whole := eq_append_of_cut found
  have joined : text ++ more = before ++ pattern ++ (after ++ more) := by
    rw [whole]
    simp
  rw [joined]
  refine cut_eq_some ?_
  intro front back other
  by_contra earlier
  have inside : front ++ pattern <+: text := by
    have first : front ++ pattern <+: text ++ more := ⟨back, by rw [joined, other]⟩
    have second : text <+: text ++ more := prefix_append _ _
    refine prefix_of_prefix_length_le first second ?_
    rw [whole]
    simp only [length_append]
    omega
  obtain ⟨rest, restIs⟩ := inside
  obtain ⟨first, last, foundFirst, small⟩ := exists_cut_of_eq_append restIs.symm
  rw [found, some.injEq, Prod.mk.injEq] at foundFirst
  rw [← foundFirst.1] at small
  omega

theorem cut_shorter (begins : front <+: text)
    (shorter : front.length < text.length) (found : cut pattern text = some (before, [])) :
    cut pattern front = none := by
  cases early : cut pattern front with
  | none => rfl
  | some parts =>
    obtain ⟨rest, rfl⟩ := begins
    rw [cut_append early rest, some.injEq, Prod.mk.injEq] at found
    have nothing := (List.append_eq_nil_iff.mp found.2).2
    simp [nothing] at shorter

theorem cut_skip {first : α} {line : List α} (free : first ∉ line) (rest : List α) :
    cut (first :: pattern) (line ++ rest) =
      (cut (first :: pattern) rest).map fun parts => (line ++ parts.1, parts.2) := by
  induction line with
  | nil => simp
  | cons head tail ih =>
    have elsewhere : ¬ first :: pattern <+: head :: (tail ++ rest) := by
      intro opens
      have same := (List.cons_prefix_cons.mp opens).1
      simp [same] at free
    have further : first ∉ tail := fun member => free (by simp [member])
    rw [cons_append, cut_cons_elsewhere elsewhere, ih further, Option.map_map]
    rfl

end Gvpn
