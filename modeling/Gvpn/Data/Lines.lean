import Gvpn.Data.Search
import Gvpn.Data.Text
import Gvpn.Data.Utf8

/-! Lines that end with a pair of marks, and the empty line behind them. -/

namespace Gvpn

open List

section Marks

variable {α : Type} {cr lf : α}

def Unbroken (cr lf : α) (line : List α) : Prop := ¬ [cr, lf] <:+: line

variable {line : List α}

theorem unbroken_of_not_mem {mark : α} (isMark : mark ∈ [cr, lf])
    (free : mark ∉ line) : Unbroken cr lf line := by
  intro inside
  exact free (inside.subset isMark)

theorem Unbroken.tail {first : α} (unbroken : Unbroken cr lf (first :: line)) :
    Unbroken cr lf line := by
  intro inside
  exact unbroken (inside.trans (suffix_cons first line).isInfix)

theorem Unbroken.not_opened (differ : cr ≠ lf) {first : α}
    (unbroken : Unbroken cr lf (first :: line)) (rest : List α) :
    ¬ [cr, lf] <+: first :: (line ++ cr :: rest) := by
  intro opens
  rw [cons_prefix_cons] at opens
  obtain ⟨isReturn, next⟩ := opens
  cases line with
  | nil => exact differ (List.cons_prefix_cons.mp next).1.symm
  | cons second more =>
    have isFeed := (List.cons_prefix_cons.mp next).1
    refine unbroken ⟨[], more, ?_⟩
    rw [isReturn, isFeed]
    rfl

variable [DecidableEq α]

theorem cut_first_end (differ : cr ≠ lf) (unbroken : Unbroken cr lf line)
    (rest : List α) : cut [cr, lf] (line ++ [cr, lf] ++ rest) = some (line, rest) := by
  induction line with
  | nil => exact cut_append_self [cr, lf] rest
  | cons first line ih =>
    have shape : line ++ [cr, lf] ++ rest = line ++ cr :: lf :: rest := by simp
    have elsewhere := unbroken.not_opened differ (lf :: rest)
    rw [← shape] at elsewhere
    rw [cons_append, cons_append, cut_cons_elsewhere elsewhere, ih unbroken.tail]
    rfl

theorem cut_unbroken (differ : cr ≠ lf) (unbroken : Unbroken cr lf line) (rest : List α) :
    cut [cr, lf, cr, lf] (line ++ cr :: rest) =
      (cut [cr, lf, cr, lf] (cr :: rest)).map fun parts => (line ++ parts.1, parts.2) := by
  induction line with
  | nil => simp
  | cons first line ih =>
    have elsewhere : ¬ [cr, lf, cr, lf] <+: first :: (line ++ cr :: rest) := by
      intro opens
      have shorter : [cr, lf] <+: [cr, lf, cr, lf] := ⟨[cr, lf], rfl⟩
      exact unbroken.not_opened differ rest (shorter.trans opens)
    rw [cons_append, cut_cons_elsewhere elsewhere, ih unbroken.tail, Option.map_map]
    rfl

theorem cut_line_end (differ : cr ≠ lf) {rest : List α} (unbroken : Unbroken cr lf line)
    (further : ¬ [cr, lf] <+: rest) :
    cut [cr, lf, cr, lf] (line ++ cr :: lf :: rest) =
      (cut [cr, lf, cr, lf] rest).map fun parts => (line ++ cr :: lf :: parts.1, parts.2) := by
  have notHere : ¬ [cr, lf, cr, lf] <+: cr :: lf :: rest := by
    rw [cons_prefix_cons, cons_prefix_cons]
    exact fun opens => further opens.2.2
  have notNext : ¬ [cr, lf, cr, lf] <+: lf :: rest := by
    rw [cons_prefix_cons]
    exact fun opens => differ opens.1
  rw [cut_unbroken differ unbroken, cut_cons_elsewhere notHere, cut_cons_elsewhere notNext,
    Option.map_map, Option.map_map]
  rfl

theorem cut_empty_line (differ : cr ≠ lf) (unbroken : Unbroken cr lf line) (rest : List α) :
    cut [cr, lf, cr, lf] (line ++ [cr, lf, cr, lf] ++ rest) = some (line, rest) := by
  have here := cut_append_self [cr, lf, cr, lf] rest
  rw [append_assoc, cons_append, cut_unbroken differ unbroken, ← cons_append, here]
  simp

theorem cut_lines (differ : cr ≠ lf) {lines : List (List α)} {last : List α}
    (unbroken : ∀ line ∈ lines ++ [last], Unbroken cr lf line)
    (solid : ∀ line ∈ (lines ++ [last]).tail, line ≠ []) (rest : List α) :
    cut [cr, lf, cr, lf] (lines.flatMap (· ++ [cr, lf]) ++ last ++ [cr, lf, cr, lf] ++ rest) =
      some (lines.flatMap (· ++ [cr, lf]) ++ last, rest) := by
  induction lines with
  | nil => exact cut_empty_line differ (unbroken last (by simp)) rest
  | cons first lines ih =>
    obtain ⟨here, later⟩ := List.forall_mem_cons.mp unbroken
    have found := ih later fun line member => solid line (mem_of_mem_tail member)
    have further : ¬ [cr, lf] <+:
        lines.flatMap (· ++ [cr, lf]) ++ last ++ [cr, lf, cr, lf] ++ rest := by
      cases lines with
      | nil =>
        cases last with
        | nil => exact absurd rfl (solid [] (by simp))
        | cons first line =>
          have apart := (later (first :: line) (by simp)).not_opened differ
            (lf :: cr :: lf :: rest)
          simpa using apart
      | cons next others =>
        cases next with
        | nil => exact absurd rfl (solid [] (by simp))
        | cons first line =>
          have apart := (later (first :: line) (by simp)).not_opened differ
            (lf :: (others.flatMap (· ++ [cr, lf]) ++ last ++ [cr, lf, cr, lf] ++ rest))
          simpa using apart
    have cutHere := cut_line_end differ here further
    rw [found] at cutHere
    simpa using cutHere

end Marks

section Texts

variable {line : Text}

theorem splitCrlf_line (unbroken : Unbroken '\r' '\n' line) (rest : Text) :
    splitCrlf (line ++ '\r' :: '\n' :: rest) = line :: splitCrlf rest := by
  induction line with
  | nil => rw [nil_append, splitCrlf]
  | cons first line ih =>
    rw [cons_append, splitCrlf, ih unbroken.tail]
    intro tail isReturn isFeed
    have apart := unbroken.not_opened (by decide) ('\n' :: rest)
    rw [isReturn, isFeed] at apart
    exact apart ⟨tail, rfl⟩

theorem splitCrlf_of_unbroken (unbroken : Unbroken '\r' '\n' line) :
    splitCrlf line = [line] := by
  induction line with
  | nil => rfl
  | cons first line ih =>
    rw [splitCrlf, ih unbroken.tail]
    intro tail isReturn isFeed
    exact unbroken ⟨[], tail, by rw [isReturn, isFeed]; rfl⟩

theorem splitCrlf_lines {lines : List Text} (unbroken : ∀ line ∈ lines, Unbroken '\r' '\n' line)
    (rest : Text) :
    splitCrlf (lines.flatMap (· ++ ['\r', '\n']) ++ rest) = lines ++ splitCrlf rest := by
  induction lines with
  | nil => rfl
  | cons line lines ih =>
    obtain ⟨here, later⟩ := List.forall_mem_cons.mp unbroken
    have split := splitCrlf_line here (lines.flatMap (· ++ ['\r', '\n']) ++ rest)
    rw [ih later] at split
    simpa using split

theorem flatMap_splitCrlf (text : Text) :
    (splitCrlf text).flatMap (· ++ ['\r', '\n']) = text ++ ['\r', '\n'] := by
  fun_induction splitCrlf text with
  | case1 => rfl
  | case2 rest ih => simp [ih]
  | case3 c rest notEnd nothing ih =>
    rw [nothing] at ih
    simp at ih
  | case4 c rest notEnd line lines parts ih =>
    rw [parts] at ih
    simpa using ih

theorem splitCrlf_ne_nil (text : Text) : splitCrlf text ≠ [] := by
  intro nothing
  have whole := flatMap_splitCrlf text
  rw [nothing] at whole
  simp at whole

variable {text : Text}

theorem unbroken_of_mem_splitCrlf (member : line ∈ splitCrlf text) :
    Unbroken '\r' '\n' line := by
  fun_induction splitCrlf text generalizing line with
  | case1 =>
    rw [mem_singleton] at member
    simp [member, Unbroken]
  | case2 rest ih =>
    rcases List.mem_cons.mp member with rfl | later
    · simp [Unbroken]
    · exact ih later
  | case3 c rest notEnd nothing ih => exact absurd nothing (splitCrlf_ne_nil rest)
  | case4 c rest notEnd first lines parts ih =>
    rcases List.mem_cons.mp member with rfl | later
    · intro inside
      rcases List.infix_cons_iff.mp inside with opens | further
      · -- The line would open with its end, and so would the text.
        rw [cons_prefix_cons] at opens
        obtain ⟨isReturn, tail, firstIs⟩ := opens
        have whole := flatMap_splitCrlf rest
        rw [parts, ← firstIs] at whole
        cases rest with
        | nil => simp at whole
        | cons second more =>
          simp only [flatMap_cons, cons_append, cons.injEq] at whole
          exact notEnd more isReturn.symm (by rw [← whole.1])
      · exact ih (by rw [parts]; exact mem_cons_self) further
    · exact ih (by rw [parts]; exact mem_cons_of_mem _ later)

theorem exists_doubled_of_mem_tail (empty : [] ∈ (splitCrlf text).tail) :
    ∃ front back, text ++ ['\r', '\n'] = front ++ ['\r', '\n', '\r', '\n'] ++ back := by
  obtain ⟨first, lines, parts⟩ := exists_cons_of_ne_nil (splitCrlf_ne_nil text)
  rw [parts, tail_cons] at empty
  obtain ⟨before, after, rfl⟩ := append_of_mem empty
  obtain ⟨others, last, beforeIs⟩ : ∃ others last, first :: before = others ++ [last] := by
    rcases eq_nil_or_concat (first :: before) with nothing | ⟨others, last, joined⟩
    · simp at nothing
    · exact ⟨others, last, by simpa using joined⟩
  refine ⟨others.flatMap (· ++ ['\r', '\n']) ++ last, after.flatMap (· ++ ['\r', '\n']), ?_⟩
  rw [← flatMap_splitCrlf, parts, ← cons_append, beforeIs]
  simp

theorem Unbroken.toUtf8 (unbroken : Unbroken '\r' '\n' line) :
    Unbroken 13 10 (toUtf8 line) := by
  rintro ⟨front, back, whole⟩
  have split : Gvpn.toUtf8 line = front ++ UInt8.ofNat '\r'.toNat :: 10 :: back := by
    rw [← whole]
    simp
  obtain ⟨left, right, rfl, -, rightIs⟩ := exists_of_toUtf8_eq_append (by decide) split
  have second : Gvpn.toUtf8 right = [] ++ UInt8.ofNat '\n'.toNat :: back := by
    rw [rightIs]
    rfl
  obtain ⟨between, rest, rfl, nothing, -⟩ := exists_of_toUtf8_eq_append (by decide) second
  have short := length_le_length_toUtf8 between
  rw [nothing, length_nil, Nat.le_zero, length_eq_zero_iff] at short
  exact unbroken ⟨left, rest, by simp [short]⟩

theorem toUtf8_lines (lines : List Text) :
    toUtf8 (lines.flatMap (· ++ ['\r', '\n'])) = (lines.map toUtf8).flatMap (· ++ [13, 10]) := by
  have marks : toUtf8 ['\r', '\n'] = [13, 10] := by decide
  induction lines with
  | nil => rfl
  | cons line rest ih =>
    rw [flatMap_cons, map_cons, flatMap_cons, toUtf8_append, toUtf8_append, ih, marks]

theorem toUtf8_ne_nil (solid : text ≠ []) : toUtf8 text ≠ [] := by
  intro nothing
  have short := length_le_length_toUtf8 text
  rw [nothing, length_nil, Nat.le_zero, length_eq_zero_iff] at short
  exact solid short

theorem cut_toUtf8_lines {lines : List Text} {last : Text}
    (unbroken : ∀ line ∈ lines ++ [last], Unbroken '\r' '\n' line)
    (solid : ∀ line ∈ (lines ++ [last]).tail, line ≠ []) (rest : Bytes) :
    cut [13, 10, 13, 10]
        (toUtf8 (lines.flatMap (· ++ ['\r', '\n']) ++ last) ++ [13, 10, 13, 10] ++ rest) =
      some (toUtf8 (lines.flatMap (· ++ ['\r', '\n']) ++ last), rest) := by
  have mapped : lines.map toUtf8 ++ [toUtf8 last] = (lines ++ [last]).map toUtf8 := by simp
  rw [toUtf8_append, toUtf8_lines]
  apply cut_lines (by decide)
  · intro line member
    rw [mapped] at member
    obtain ⟨text, inside, rfl⟩ := List.mem_map.mp member
    exact (unbroken text inside).toUtf8
  · intro line member
    rw [mapped, ← map_tail] at member
    obtain ⟨text, inside, rfl⟩ := List.mem_map.mp member
    exact toUtf8_ne_nil (solid text inside)

end Texts

theorem not_mem_of_mem_splitOn {α : Type} [BEq α] [LawfulBEq α] {items part : List α}
    {separator : α} (member : part ∈ items.splitOn separator) : separator ∉ part := by
  induction items generalizing part with
  | nil =>
    simp only [splitOn_nil, mem_singleton] at member
    simp [member]
  | cons first rest ih =>
    by_cases same : first = separator
    · subst same
      have parts : (first :: rest).splitOn first = [] :: rest.splitOn first := by
        have split := @splitOnP_append_cons _ (fun item => item == first) [] rest first
          (by simp)
        simpa [List.splitOn] using split
      rw [parts, mem_cons] at member
      rcases member with rfl | later
      · simp
      · exact ih later
    · simp only [List.splitOn, splitOnP_cons_eq_if_modifyHead, beq_iff_eq, same, if_false] at member
      cases parts : rest.splitOn separator with
      | nil =>
        simp only [List.splitOn] at parts
        simp [parts] at member
      | cons head others =>
        have each := fun part inside => @ih part inside
        rw [parts] at each
        simp only [List.splitOn] at parts
        rw [parts, modifyHead_cons, mem_cons] at member
        rcases member with rfl | later
        · rw [mem_cons, not_or]
          exact ⟨fun reversed => same reversed.symm, each head mem_cons_self⟩
        · exact each part (mem_cons_of_mem _ later)

end Gvpn
