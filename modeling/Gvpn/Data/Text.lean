import Gvpn.Data.Basic
import Mathlib.Data.Nat.Digits.Lemmas

/-! Texts: case, blanks, splitting, and numbers in decimal. -/

namespace Gvpn

open List

def lower (text : Text) : Text := text.map Char.toLower

def eqIgnoreCase (left right : Text) : Bool := lower left = lower right

def isBlank (c : Char) : Bool :=
  let code := c.toNat
  (0x09 ≤ code ∧ code ≤ 0x0D) ∨ code = 0x20 ∨ code = 0x85 ∨ code = 0xA0 ∨ code = 0x1680 ∨
    (0x2000 ≤ code ∧ code ≤ 0x200A) ∨ code = 0x2028 ∨ code = 0x2029 ∨ code = 0x202F ∨
    code = 0x205F ∨ code = 0x3000

def trimStart (text : Text) : Text := text.dropWhile isBlank

def trimEndMatches (kind : Char → Bool) (text : Text) : Text :=
  (text.reverse.dropWhile kind).reverse

def trimEnd (text : Text) : Text := trimEndMatches isBlank text

def trim (text : Text) : Text := trimEnd (trimStart text)

def splitOnce (separator : Char) : Text → Option (Text × Text)
  | [] => none
  | c :: rest =>
    if c = separator then some ([], rest)
    else (splitOnce separator rest).map fun (before, after) => (c :: before, after)

def rsplitOnce (separator : Char) (text : Text) : Option (Text × Text) :=
  (splitOnce separator text.reverse).map fun parts => (parts.2.reverse, parts.1.reverse)

def splitCrlf : Text → List Text
  | [] => [[]]
  | '\r' :: '\n' :: rest => [] :: splitCrlf rest
  | c :: rest =>
    match splitCrlf rest with
    | [] => [[c]]
    | line :: lines => (c :: line) :: lines

def stripStart (start text : Text) : Option Text :=
  if start.isPrefixOf text then some (text.drop start.length) else none

def digitChar (digit : Nat) : Char := Char.ofNat (digit + 48)

def digitValue (c : Char) : Nat := c.toNat - 48

def decimal (n : Nat) : Text :=
  if n = 0 then ['0'] else ((Nat.digits 10 n).map digitChar).reverse

def readDigits (text : Text) : Nat := Nat.ofDigits 10 (text.reverse.map digitValue)

def dropPlus : Text → Text
  | '+' :: rest => rest
  | text => text

def parseUnsigned (bound : Nat) (text : Text) : Option Nat :=
  let digits := dropPlus text
  if digits ≠ [] ∧ digits.all Char.isDigit ∧ readDigits digits < bound then some (readDigits digits)
  else none

theorem toNat_toLower (c : Char) :
    c.toLower.toNat = if 65 ≤ c.toNat ∧ c.toNat ≤ 90 then c.toNat + 32 else c.toNat := by
  have range : ('A'.val ≤ c.val ∧ c.val ≤ 'Z'.val) ↔ (65 ≤ c.toNat ∧ c.toNat ≤ 90) := by
    rfl
  unfold Char.toLower
  split
  · rename_i capital
    have codes := range.mp capital
    have shifted : (c.val + ('a'.val - 'A'.val)).toNat = (c.toNat + 32) % 2 ^ 32 :=
      UInt32.toNat_add _ _
    rw [if_pos codes]
    change (c.val + ('a'.val - 'A'.val)).toNat = _
    omega
  · rename_i other
    rw [if_neg fun capital => other (range.mpr capital)]

theorem toLower_toLower (c : Char) : c.toLower.toLower = c.toLower := by
  apply Char.toNat_inj.mp
  rw [toNat_toLower, toNat_toLower]
  grind

variable {c : Char}

theorem toLower_eq_iff {mark : Char}
    (other : ¬ (65 ≤ mark.toNat ∧ mark.toNat ≤ 90) ∧ ¬ (97 ≤ mark.toNat ∧ mark.toNat ≤ 122)) :
    c.toLower = mark ↔ c = mark := by
  rw [← Char.toNat_inj, toNat_toLower, ← Char.toNat_inj]
  split <;> omega

@[simp] theorem lower_lower (text : Text) : lower (lower text) = lower text := by
  simp only [lower, map_map]
  exact map_congr_left fun c _ => toLower_toLower c

variable {text : Text}

theorem dropPlus_eq (free : '+' ∉ text) : dropPlus text = text := by
  unfold dropPlus
  split
  · simp at free
  · rfl

theorem parseUnsigned_digits {bound : Nat} {digits : Text} (some_ : digits ≠ [])
    (each : digits.all Char.isDigit = true) (small : readDigits digits < bound) :
    parseUnsigned bound digits = some (readDigits digits) := by
  have unsigned : dropPlus digits = digits := by
    refine dropPlus_eq ?_
    intro plus
    have digit := List.all_eq_true.mp each '+' plus
    exact absurd digit (by decide)
  simp [parseUnsigned, unsigned, some_, each, small]

theorem digitValue_digitChar {digit : Nat} (small : digit < 10) :
    digitValue (digitChar digit) = digit := by
  have all : ∀ value, value < 10 → digitValue (digitChar value) = value := by decide
  exact all digit small

theorem digitChar_isDigit {digit : Nat} (small : digit < 10) :
    (digitChar digit).isDigit = true := by
  have all : ∀ value, value < 10 → (digitChar value).isDigit = true := by decide
  exact all digit small

theorem decimal_ne_nil (n : Nat) : decimal n ≠ [] := by
  unfold decimal
  split
  · simp
  · rename_i positive
    simpa [Nat.digits_eq_nil_iff_eq_zero] using positive

variable {n : Nat}

theorem isDigit_of_mem_decimal (member : c ∈ decimal n) :
    c.isDigit = true := by
  unfold decimal at member
  split at member
  · simp only [mem_singleton] at member
    rw [member]
    decide
  · rw [mem_reverse, mem_map] at member
    obtain ⟨digit, inside, rfl⟩ := member
    exact digitChar_isDigit (Nat.digits_lt_base (by omega) inside)

@[simp] theorem readDigits_decimal (n : Nat) : readDigits (decimal n) = n := by
  unfold readDigits decimal
  split
  · rename_i zero
    rw [zero]
    decide
  · -- Writing reverses the digits and reading reverses them back.
    rw [reverse_reverse, map_map]
    have values : (Nat.digits 10 n).map (digitValue ∘ digitChar) = Nat.digits 10 n := by
      conv => rhs; rw [← map_id (Nat.digits 10 n)]
      apply map_congr_left
      intro digit inside
      exact digitValue_digitChar (Nat.digits_lt_base (by omega) inside)
    rw [values, Nat.ofDigits_digits]

theorem all_isDigit_decimal (n : Nat) : (decimal n).all Char.isDigit = true := by
  rw [all_eq_true]
  exact fun c member => isDigit_of_mem_decimal member

theorem parseUnsigned_decimal {bound : Nat} (small : n < bound) :
    parseUnsigned bound (decimal n) = some n := by
  rw [parseUnsigned_digits (decimal_ne_nil n) (all_isDigit_decimal n)
    (by rwa [readDigits_decimal]), readDigits_decimal]

theorem decimal_head (positive : n ≠ 0) : (decimal n).head? ≠ some '0' := by
  unfold decimal
  rw [if_neg positive, head?_reverse]
  have present : Nat.digits 10 n ≠ [] := Nat.digits_ne_nil_iff_ne_zero.mpr positive
  have leading := Nat.getLast_digit_ne_zero 10 positive
  have small : (Nat.digits 10 n).getLast present < 10 :=
    Nat.digits_lt_base (by omega) (getLast_mem present)
  rw [getLast?_map, getLast?_eq_some_getLast present, Option.map_some]
  intro same
  have value := digitValue_digitChar small
  rw [Option.some.inj same] at value
  exact leading value.symm

variable {kind : Char → Bool} {last : Char}

theorem trimEndMatches_append (kept : kind last = false) (front back : Text) :
    trimEndMatches kind (front ++ last :: back) =
      front ++ last :: trimEndMatches kind back := by
  simp only [trimEndMatches, reverse_append, reverse_cons, append_assoc]
  rw [dropWhile_append]
  split
  · rename_i nothing
    rw [List.isEmpty_iff] at nothing
    simp [nothing, kept]
  · simp

theorem kept_of_getLast?_trimEndMatches
    (ends : (trimEndMatches kind text).getLast? = some last) : kind last = false := by
  rw [trimEndMatches, getLast?_reverse] at ends
  have first := head?_dropWhile_not kind text.reverse
  rw [ends] at first
  simpa using first

theorem trimEndMatches_of_getLast? (kept : ∀ last, text.getLast? = some last → kind last = false) :
    trimEndMatches kind text = text := by
  rcases eq_nil_or_concat text with rfl | ⟨front, last, rfl⟩
  · rfl
  · rw [concat_eq_append] at kept ⊢
    have solid := kept last (by simp)
    rw [trimEndMatches_append solid]
    rfl

theorem lower_trimEndMatches {mark : Char}
    (other : ¬ (65 ≤ mark.toNat ∧ mark.toNat ≤ 90) ∧ ¬ (97 ≤ mark.toNat ∧ mark.toNat ≤ 122))
    (text : Text) :
    lower (trimEndMatches (· = mark) text) = trimEndMatches (· = mark) (lower text) := by
  have same : ((fun c : Char => decide (c = mark)) ∘ Char.toLower) = fun c => decide (c = mark) := by
    funext c
    simp [toLower_eq_iff other]
  unfold trimEndMatches lower
  rw [← map_reverse, dropWhile_map, map_reverse, same]

theorem trimStart_cons {first : Char} (solid : isBlank first = false) (rest : Text) :
    trimStart (first :: rest) = first :: rest := by
  simp [trimStart, solid]

theorem trim_enclosed {first : Char} (opens : isBlank first = false)
    (closes : isBlank last = false) (middle : Text) :
    trim (first :: (middle ++ [last])) = first :: (middle ++ [last]) := by
  rw [trim, trimStart_cons opens, trimEnd, trimEndMatches]
  simp [closes]

theorem isBlank_of_isDigit (digit : c.isDigit = true) : isBlank c = false := by
  have range := Char.isDigit_iff_toNat.mp digit
  have zero : '0'.toNat = 48 := rfl
  have nine : '9'.toNat = 57 := rfl
  simp only [isBlank, decide_eq_false_iff_not]
  omega

theorem trim_eq (solid : ∀ c ∈ text, isBlank c = false) : trim text = text := by
  have start : trimStart text = text := by
    cases text with
    | nil => rfl
    | cons first rest => exact trimStart_cons (solid first (by simp)) rest
  rw [trim, start, trimEnd, trimEndMatches]
  have back : text.reverse.dropWhile isBlank = text.reverse := by
    cases reversed : text.reverse with
    | nil => rfl
    | cons last rest =>
      have member : last ∈ text := by
        rw [← mem_reverse, reversed]
        simp
      simp [solid last member]
  rw [back, reverse_reverse]

theorem trim_decimal (n : Nat) : trim (decimal n) = decimal n :=
  trim_eq fun _ member => isBlank_of_isDigit (isDigit_of_mem_decimal member)

theorem splitOnce_append {separator : Char} {front : Text} (free : separator ∉ front)
    (back : Text) : splitOnce separator (front ++ separator :: back) = some (front, back) := by
  induction front with
  | nil => simp [splitOnce]
  | cons first rest ih =>
    have other : first ≠ separator := fun same => free (by simp [same])
    have further : separator ∉ rest := fun member => free (by simp [member])
    simp [splitOnce, other, ih further]

theorem trimEndMatches_concat (dropped : kind last = true)
    (front : Text) : trimEndMatches kind (front ++ [last]) = trimEndMatches kind front := by
  simp [trimEndMatches, dropped]

theorem mem_of_mem_trim (member : c ∈ trim text) : c ∈ text := by
  unfold trim trimEnd trimEndMatches trimStart at member
  rw [mem_reverse] at member
  have reversed := (dropWhile_sublist _).subset member
  rw [mem_reverse] at reversed
  exact (dropWhile_sublist _).subset reversed

theorem dropWhile_dropWhile (kind : Char → Bool) (text : Text) :
    (text.dropWhile kind).dropWhile kind = text.dropWhile kind := by
  induction text with
  | nil => rfl
  | cons c rest ih =>
    by_cases dropped : kind c = true
    · simp only [dropWhile_cons_of_pos dropped, ih]
    · simp only [dropWhile_cons_of_neg dropped]

theorem kind_eq_false_of_dropWhile {rest : Text}
    (kept : (c :: rest).dropWhile kind = c :: rest) : kind c = false := by
  by_contra dropped
  have drops : kind c = true := by simpa using dropped
  rw [dropWhile_cons_of_pos drops] at kept
  have shorter := (dropWhile_sublist (l := rest) kind).length_le
  rw [kept, length_cons] at shorter
  omega

theorem trimStart_trimEnd (start : trimStart text = text) :
    trimStart (trimEnd text) = trimEnd text := by
  cases ended : trimEnd text with
  | nil => rfl
  | cons c rest =>
    have opens : trimEnd text <+: text := by
      unfold trimEnd trimEndMatches
      rw [← reverse_suffix, reverse_reverse]
      exact dropWhile_suffix _
    rw [ended] at opens
    obtain ⟨behind, whole⟩ := opens
    rw [← whole, cons_append] at start
    exact trimStart_cons (kind_eq_false_of_dropWhile start) rest

theorem trim_trim (text : Text) : trim (trim text) = trim text := by
  have start : trimStart (trim text) = trim text :=
    trimStart_trimEnd (dropWhile_dropWhile isBlank text)
  rw [trim, start]
  unfold trim trimEnd trimEndMatches
  rw [reverse_reverse, dropWhile_dropWhile]

theorem trimEndMatches_of_trim (trimmed : trim text = text) :
    trimEndMatches (· = '\r') text = text := by
  have backwards : text.reverse.dropWhile isBlank = text.reverse := by
    rw [← trimmed, trim, trimEnd, trimEndMatches, reverse_reverse, dropWhile_dropWhile]
  unfold trimEndMatches
  cases reversed : text.reverse with
  | nil => simp [List.reverse_eq_nil_iff.mp reversed]
  | cons last front =>
    rw [reversed] at backwards
    have solid := kind_eq_false_of_dropWhile backwards
    have kept : ¬ last = '\r' := by
      rintro rfl
      exact absurd solid (by decide)
    rw [dropWhile_cons_of_neg (by simp [kept]), ← reversed, reverse_reverse]

theorem stripStart_eq_some_iff {start rest : Text} :
    stripStart start text = some rest ↔ text = start ++ rest := by
  rw [stripStart, Option.ite_none_right_eq_some, List.isPrefixOf_iff_prefix, Option.some.injEq]
  constructor
  · rintro ⟨⟨more, rfl⟩, rfl⟩
    simp
  · rintro rfl
    simp

theorem stripStart_schemes (rest : Text) :
    stripStart (lit "https://") (lit "http://" ++ rest) = none ∧
      stripStart (lit "http://") (lit "https://" ++ rest) = none := by
  have first : lit "http://" = ['h', 't', 't', 'p', ':', '/', '/'] := by with_unfolding_all rfl
  have second : lit "https://" = ['h', 't', 't', 'p', 's', ':', '/', '/'] := by
    with_unfolding_all rfl
  simp [stripStart, first, second]

theorem eq_append_of_splitOnce {separator : Char} {front back : Text}
    (split : splitOnce separator text = some (front, back)) :
    text = front ++ separator :: back ∧ separator ∉ front := by
  induction text generalizing front with
  | nil => simp [splitOnce] at split
  | cons c rest ih =>
    unfold splitOnce at split
    split at split
    · rename_i here
      simp only [Option.some.injEq, Prod.mk.injEq] at split
      simp [← split.1, ← split.2, here]
    · rename_i elsewhere
      obtain ⟨⟨before, after⟩, found, parts⟩ := Option.map_eq_some_iff.mp split
      simp only [Prod.mk.injEq] at parts
      obtain ⟨whole, absent⟩ := ih (parts.2 ▸ found)
      rw [← parts.1, whole]
      refine ⟨rfl, ?_⟩
      rw [mem_cons, not_or]
      exact ⟨fun same => elsewhere same.symm, absent⟩

end Gvpn
