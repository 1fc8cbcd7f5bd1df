import Gvpn.Data.Json
import Mathlib.Data.List.TakeWhile

/-! Written JSON values read back as themselves. -/

namespace Gvpn

open List Option

namespace Json

inductive WellFormed : Json → Prop
  | null : WellFormed .null
  | bool (value : Bool) : WellFormed (.bool value)
  | num {literal : Text} (chars : literal.all isNumberChar = true)
      (valid : validNumber literal = true) : WellFormed (.num literal)
  | str (text : Text) : WellFormed (.str text)
  | arr {items : List Json} (each : ∀ item ∈ items, WellFormed item) : WellFormed (.arr items)
  | obj {members : List (Text × Json)} (each : ∀ member ∈ members, WellFormed member.2) :
      WellFormed (.obj members)

/-- A value of whole numbers of 64 bits and texts, nested at most so deep. -/
inductive Small : Nat → Json → Prop
  | num {room : Nat} {literal : Text} (digits : literal.all Char.isDigit = true)
      (fits : readDigits literal < 2 ^ 64) : Small room (.num literal)
  | str {room : Nat} (text : Text) : Small room (.str text)
  | arr {room : Nat} {items : List Json} (each : ∀ item ∈ items, Small room item) :
      Small (room + 1) (.arr items)
  | obj {room : Nat} {members : List (Text × Json)} (each : ∀ member ∈ members, Small room member.2) :
      Small (room + 1) (.obj members)

section Equations

variable (literal text : Text)

theorem write_null : write .null = "null".toList := rfl

theorem write_true : write (.bool true) = "true".toList := rfl

theorem write_false : write (.bool false) = "false".toList := rfl

theorem write_num : write (.num literal) = literal := rfl

theorem write_str : write (.str text) = writeString text := rfl

theorem write_arr_nil : write (.arr []) = ['[', ']'] := rfl

theorem write_arr_cons (item : Json) (items : List Json) :
    write (.arr (item :: items)) = '[' :: (write item ++ writeItems items) := rfl

theorem write_obj_nil : write (.obj []) = ['{', '}'] := rfl

theorem write_obj_cons (member : Text × Json) (members : List (Text × Json)) :
    write (.obj (member :: members)) = '{' :: (writeMember member ++ writeMembers members) := rfl

theorem writeItems_nil : writeItems [] = [']'] := rfl

theorem writeItems_cons (item : Json) (items : List Json) :
    writeItems (item :: items) = ',' :: (write item ++ writeItems items) := rfl

theorem writeMembers_nil : writeMembers [] = ['}'] := rfl

theorem writeMembers_cons (member : Text × Json) (members : List (Text × Json)) :
    writeMembers (member :: members) = ',' :: (writeMember member ++ writeMembers members) := rfl

theorem writeMember_mk (key : Text) (value : Json) :
    writeMember (key, value) = writeString key ++ ':' :: write value := rfl

end Equations

/-- A number of 64 bits is small. -/
theorem small_decimal {n : Nat} (fits : n < 2 ^ 64) (room : Nat) :
    Small room (.num (decimal n)) :=
  .num (all_isDigit_decimal n) (by rwa [readDigits_decimal])

theorem wellFormed_decimal (n : Nat) : WellFormed (.num (decimal n)) := by
  have digits : ∀ c ∈ decimal n, c.isDigit = true := fun c member => isDigit_of_mem_decimal member
  have unsigned : dropSign (decimal n) = decimal n := by
    unfold dropSign
    split
    · -- A sign is not a digit.
      rename_i rest same
      have minus := digits '-' (by simp [same])
      exact absurd minus (by decide)
    · rfl
  have whole : (decimal n).takeWhile Char.isDigit = decimal n :=
    List.takeWhile_eq_self_iff.mpr digits
  have nothing : (decimal n).dropWhile Char.isDigit = [] :=
    List.dropWhile_eq_nil_iff.mpr digits
  refine .num ?_ ?_
  · rw [List.all_eq_true]
    intro c member
    simp [isNumberChar, digits c member]
  · -- Only zero itself starts with a zero.
    have leading : (decimal n).head? = some '0' → (decimal n).length = 1 := by
      intro zeroFirst
      by_cases zero : n = 0
      · simp [decimal, zero]
      · exact absurd zeroFirst (decimal_head zero)
    rw [imp_iff_not_or] at leading
    simp only [validNumber, unsigned, whole, nothing, validFraction, validExponent]
    simpa [decimal_ne_nil n] using leading

theorem hexValue_hexChar {digit : Nat} (small : digit < 16) :
    hexValue (hexChar digit) = some digit := by
  have all : ∀ value, value < 16 → hexValue (hexChar value) = some value := by decide
  exact all digit small

theorem readString_bind (fuel : Nat) (c : Char) (more : Text) :
    (do
      let (text, rest) ← readString fuel more
      some (c :: text, rest)) =
      (readString fuel more).map fun parts => (c :: parts.1, parts.2) := by
  cases readString fuel more with
  | none => rfl
  | some parts => rfl

variable {c : Char} {value : Json}

theorem readString_letter (fuel : Nat) {letter : Char} (more : Text) (code : letter ≠ 'u')
    (named : escapeLetter letter = some c) :
    readString (fuel + 1) ('\\' :: letter :: more) =
      (readString fuel more).map fun parts => (c :: parts.1, parts.2) := by
  have notQuote : ¬ '\\' = '"' := by decide
  rw [← readString_bind]
  simp only [readString, notQuote, if_false, if_true, code, named, map_some,
    bind_eq_bind, bind_some]

theorem readUnicode_control (control : c.toNat < 32) (more : Text) :
    readUnicode ('0' :: '0' :: hexChar (c.toNat / 16) :: hexChar (c.toNat % 16) :: more) =
      some (c, more) := by
  have high : hexValue (hexChar (c.toNat / 16)) = some (c.toNat / 16) :=
    hexValue_hexChar (by omega)
  have low : hexValue (hexChar (c.toNat % 16)) = some (c.toNat % 16) :=
    hexValue_hexChar (by omega)
  have zero : hexValue '0' = some 0 := by decide
  have code : c.toNat / 16 * 16 + c.toNat % 16 = c.toNat := by omega
  -- It is no half of a surrogate pair.
  have notLow : ¬ (0xDC00 ≤ c.toNat ∧ c.toNat ≤ 0xDFFF) := by omega
  have notHigh : ¬ (0xD800 ≤ c.toNat ∧ c.toNat ≤ 0xDBFF) := by omega
  have read4 : readHex4 ('0' :: '0' :: hexChar (c.toNat / 16) :: hexChar (c.toNat % 16) :: more) =
      some (c.toNat, more) := by
    simp [readHex4, zero, high, low, code]
  simp [readUnicode, read4, notLow, notHigh, Char.ofNat_toNat]

theorem escapeChar_cases (c : Char) :
    (escapeChar c = [c] ∧ c ≠ '"' ∧ c ≠ '\\' ∧ ¬ c.toNat < 32) ∨
      (∃ letter ∈ ['"', '\\', 'b', 'f', 'n', 'r', 't'],
        escapeChar c = ['\\', letter] ∧ escapeLetter letter = some c) ∨
      c.toNat < 32 ∧
        escapeChar c = ['\\', 'u', '0', '0', hexChar (c.toNat / 16), hexChar (c.toNat % 16)] := by
  unfold escapeChar
  split_ifs with quote slash _ _ _ _ _ control
  all_goals try exact .inr (.inl ⟨_, by decide, rfl, by simp [escapeLetter, *]⟩)
  · exact .inr (.inr ⟨control, rfl⟩)
  · exact .inl ⟨rfl, quote, slash, control⟩

theorem readString_escapeChar (fuel : Nat) (c : Char) (more : Text) :
    readString (fuel + 1) (escapeChar c ++ more) =
      (readString fuel more).map fun parts => (c :: parts.1, parts.2) := by
  rcases escapeChar_cases c with ⟨written, notQuote, notSlash, printable⟩ |
    ⟨letter, known, written, named⟩ | ⟨control, written⟩
  all_goals rw [written]
  · simpa [readString, notQuote, notSlash, printable] using readString_bind fuel c more
  · exact readString_letter fuel more (by rintro rfl; simp at known) named
  · simpa [readString, readUnicode_control control] using readString_bind fuel c more

theorem readString_escape {fuel : Nat} {text : Text} (rest : Text) (enough : text.length < fuel) :
    readString fuel (text.flatMap escapeChar ++ '"' :: rest) = some (text, rest) := by
  induction text generalizing fuel with
  | nil =>
    obtain ⟨fuel, rfl⟩ := Nat.exists_eq_succ_of_ne_zero (by omega : fuel ≠ 0)
    simp [readString]
  | cons c text ih =>
    rw [length_cons] at enough
    obtain ⟨fuel, rfl⟩ := Nat.exists_eq_succ_of_ne_zero (by omega : fuel ≠ 0)
    rw [flatMap_cons, append_assoc, readString_escapeChar, ih (by omega)]
    rfl

variable (text : Text)

theorem length_le_length_escape : text.length ≤ (text.flatMap escapeChar).length := by
  apply length_le_length_flatMap
  intro c _
  unfold escapeChar
  repeat' split
  all_goals simp

theorem readString_write (rest : Text) :
    readString ((text.flatMap escapeChar ++ '"' :: rest).length + 1)
      (text.flatMap escapeChar ++ '"' :: rest) = some (text, rest) := by
  apply readString_escape
  have := length_le_length_escape text
  rw [length_append]
  omega

def Delimited (rest : Text) : Prop :=
  ∀ c tail, rest = c :: tail → c = ',' ∨ c = ']' ∨ c = '}'

theorem skipSpace_cons (rest : Text) (solid : isSpace c = false) :
    skipSpace (c :: rest) = c :: rest := by
  simp [skipSpace, solid]

structure Opens (c : Char) : Prop where
  solid : isSpace c = false
  noBracket : c ≠ ']'
  noBrace : c ≠ '}'

theorem isNumberChar_facts (number : isNumberChar c = true) :
    Opens c ∧ c ≠ '"' ∧ c ≠ '[' ∧ c ≠ '{' ∧ c ≠ 'n' ∧ c ≠ 't' ∧ c ≠ 'f' ∧ c ≠ ',' := by
  have differs : ∀ other : Char, isNumberChar other = false → c ≠ other := by
    intro other refused same
    rw [same, refused] at number
    simp at number
  have solid : isSpace c = false := by
    by_contra blank
    simp only [isSpace, Bool.not_eq_false, decide_eq_true_eq] at blank
    rcases blank with same | same | same | same
    all_goals exact differs _ (by decide) same
  exact ⟨⟨solid, differs _ (by decide), differs _ (by decide)⟩, differs _ (by decide),
    differs _ (by decide), differs _ (by decide), differs _ (by decide), differs _ (by decide),
    differs _ (by decide), differs _ (by decide)⟩

theorem write_opens (wellFormed : WellFormed value) :
    ∃ c rest, write value = c :: rest ∧ Opens c := by
  cases wellFormed with
  | null => exact ⟨'n', "ull".toList, rfl, by decide, by decide, by decide⟩
  | bool flag =>
    cases flag with
    | true => exact ⟨'t', "rue".toList, rfl, by decide, by decide, by decide⟩
    | false => exact ⟨'f', "alse".toList, rfl, by decide, by decide, by decide⟩
  | @num literal chars valid =>
    cases literal with
    | nil => simp [validNumber, dropSign] at valid
    | cons c rest =>
      rw [all_cons, Bool.and_eq_true] at chars
      exact ⟨c, rest, write_num _, (isNumberChar_facts chars.1).1⟩
  | str text =>
    exact ⟨'"', text.flatMap escapeChar ++ ['"'], write_str text, by decide, by decide,
      by decide⟩
  | @arr items each =>
    cases items with
    | nil => exact ⟨'[', [']'], write_arr_nil, by decide, by decide, by decide⟩
    | cons item rest =>
      exact ⟨'[', write item ++ writeItems rest, write_arr_cons item rest, by decide, by decide,
        by decide⟩
  | @obj members each =>
    cases members with
    | nil => exact ⟨'{', ['}'], write_obj_nil, by decide, by decide, by decide⟩
    | cons member rest =>
      exact ⟨'{', writeMember member ++ writeMembers rest, write_obj_cons member rest, by decide,
        by decide, by decide⟩

def ReadsBack (value : Json) : Prop :=
  ∀ fuel rest, (write value).length ≤ fuel → Delimited rest →
    readValue fuel (write value ++ rest) = some (value, rest)

theorem delimited_writeItems (items : List Json) (rest : Text) :
    Delimited (writeItems items ++ rest) := by
  intro c tail same
  cases items with
  | nil =>
    simp only [writeItems_nil, cons_append, cons.injEq] at same
    exact .inr (.inl same.1.symm)
  | cons item others =>
    simp only [writeItems_cons, cons_append, cons.injEq] at same
    exact .inl same.1.symm

theorem delimited_writeMembers (members : List (Text × Json)) (rest : Text) :
    Delimited (writeMembers members ++ rest) := by
  intro c tail same
  cases members with
  | nil =>
    simp only [writeMembers_nil, cons_append, cons.injEq] at same
    exact .inr (.inr same.1.symm)
  | cons member others =>
    simp only [writeMembers_cons, cons_append, cons.injEq] at same
    exact .inl same.1.symm

theorem readItems_write {first : Json} {items : List Json} (readsFirst : ReadsBack first)
    (reads : ∀ item ∈ items, ReadsBack item) {fuel : Nat} (rest : Text)
    (enough : (write first ++ writeItems items).length ≤ fuel) :
    readItems fuel (write first ++ (writeItems items ++ rest)) = some (first :: items, rest) := by
  induction items generalizing first fuel with
  | nil =>
    rw [length_append] at enough
    have closing : (writeItems []).length = 1 := rfl
    obtain ⟨fuel, rfl⟩ := Nat.exists_eq_succ_of_ne_zero (by omega : fuel ≠ 0)
    have value := readsFirst fuel (writeItems [] ++ rest) (by omega) (delimited_writeItems [] rest)
    have stop : skipSpace (writeItems [] ++ rest) = ']' :: rest := skipSpace_cons rest (by decide)
    simp [readItems, value, stop]
  | cons item items ih =>
    simp only [length_append, writeItems_cons, length_cons] at enough
    obtain ⟨fuel, rfl⟩ := Nat.exists_eq_succ_of_ne_zero (by omega : fuel ≠ 0)
    have value := readsFirst fuel (writeItems (item :: items) ++ rest) (by omega)
      (delimited_writeItems (item :: items) rest)
    have goOn : skipSpace (writeItems (item :: items) ++ rest) =
        ',' :: (write item ++ (writeItems items ++ rest)) := by
      rw [writeItems_cons, cons_append, append_assoc]
      exact skipSpace_cons _ (by decide)
    have others := ih (reads item mem_cons_self)
      (fun other member => reads other (mem_cons_of_mem _ member))
      (by rw [length_append]; omega : (write item ++ writeItems items).length ≤ fuel)
    simp [readItems, value, goOn, others]

theorem skipSpace_writeMember (key : Text) (value : Json) (behind : Text) :
    skipSpace (writeMember (key, value) ++ behind) =
        '"' :: (key.flatMap escapeChar ++ '"' :: (':' :: (write value ++ behind))) ∧
      skipSpace (':' :: (write value ++ behind)) = ':' :: (write value ++ behind) := by
  constructor
  · simp [writeMember_mk, writeString, skipSpace, isSpace]
  · exact skipSpace_cons _ (by decide)

theorem readMembers_write {first : Text × Json} {members : List (Text × Json)}
    (readsFirst : ReadsBack first.2) (reads : ∀ member ∈ members, ReadsBack member.2) {fuel : Nat}
    (rest : Text) (enough : (writeMember first ++ writeMembers members).length ≤ fuel) :
    readMembers fuel (writeMember first ++ (writeMembers members ++ rest)) =
      some (first :: members, rest) := by
  induction members generalizing first fuel with
  | nil =>
    obtain ⟨key, value⟩ := first
    have readsValue : ReadsBack value := readsFirst
    simp only [length_append, writeMember_mk, length_cons, writeMembers_nil] at enough
    obtain ⟨fuel, rfl⟩ := Nat.exists_eq_succ_of_ne_zero (by omega : fuel ≠ 0)
    obtain ⟨quote, colon⟩ := skipSpace_writeMember key value (writeMembers [] ++ rest)
    have item := readsValue fuel _ (by omega) (delimited_writeMembers [] rest)
    have stop : skipSpace (writeMembers [] ++ rest) = '}' :: rest :=
      skipSpace_cons rest (by decide)
    simp only [readMembers, quote, readString_write, bind_eq_bind, bind_some, colon,
      item, stop]
  | cons member members ih =>
    obtain ⟨key, value⟩ := first
    have readsValue : ReadsBack value := readsFirst
    simp only [length_append, writeMember_mk, length_cons, writeMembers_cons] at enough
    obtain ⟨fuel, rfl⟩ := Nat.exists_eq_succ_of_ne_zero (by omega : fuel ≠ 0)
    obtain ⟨quote, colon⟩ := skipSpace_writeMember key value
      (writeMembers (member :: members) ++ rest)
    have item := readsValue fuel _ (by omega) (delimited_writeMembers (member :: members) rest)
    have goOn : skipSpace (writeMembers (member :: members) ++ rest) =
        ',' :: (writeMember member ++ (writeMembers members ++ rest)) := by
      rw [writeMembers_cons, cons_append, append_assoc]
      exact skipSpace_cons _ (by decide)
    have others := ih (reads member mem_cons_self)
      (fun other inside => reads other (mem_cons_of_mem _ inside))
      (by rw [length_append]; omega : (writeMember member ++ writeMembers members).length ≤ fuel)
    simp only [readMembers, quote, readString_write, bind_eq_bind, bind_some, colon,
      item, goOn, others]

theorem readsBack_num {literal : Text} (chars : literal.all isNumberChar = true)
    (valid : validNumber literal = true) : ReadsBack (.num literal) := by
  intro fuel rest enough delimited
  have allChars : ∀ c ∈ literal, isNumberChar c = true := List.all_eq_true.mp chars
  have stops : rest.takeWhile isNumberChar = [] ∧ rest.dropWhile isNumberChar = rest := by
    cases rest with
    | nil => simp
    | cons c tail =>
      have outside : isNumberChar c = false := by
        rcases delimited c tail rfl with same | same | same
        all_goals
          rw [same]
          decide
      simp [outside]
  have run : (literal ++ rest).takeWhile isNumberChar = literal := by
    rw [takeWhile_append_of_pos allChars, stops.1, append_nil]
  have left : (literal ++ rest).dropWhile isNumberChar = rest := by
    rw [dropWhile_append_of_pos allChars, stops.2]
  cases literal with
  | nil => simp [validNumber, dropSign] at valid
  | cons c tail =>
    obtain ⟨opens, h1, h2, h3, h4, h5, h6, -⟩ := isNumberChar_facts (allChars c mem_cons_self)
    simp only [write_num, length_cons] at enough
    obtain ⟨fuel, rfl⟩ := Nat.exists_eq_succ_of_ne_zero (by omega : fuel ≠ 0)
    rw [cons_append] at run left
    simp only [write_num, cons_append, readValue, skipSpace_cons _ opens.solid, h1, h2, h3, h4, h5,
      h6, if_false, run, valid, if_true, left]

theorem readsBack_word (word : value = .null ∨ ∃ flag, value = .bool flag) : ReadsBack value := by
  intro fuel rest enough _
  have some_ : 0 < (write value).length := by
    rcases word with rfl | ⟨_ | _, rfl⟩ <;> simp [write_null, write_true, write_false]
  obtain ⟨fuel, rfl⟩ := Nat.exists_eq_succ_of_ne_zero (by omega : fuel ≠ 0)
  rcases word with rfl | ⟨_ | _, rfl⟩ <;>
    simp [write_null, write_true, write_false, readValue, skipSpace, isSpace, readWord, stripStart]

theorem readsBack_str : ReadsBack (.str text) := by
  intro fuel rest enough _
  simp only [write_str, writeString, length_cons] at enough
  obtain ⟨fuel, rfl⟩ := Nat.exists_eq_succ_of_ne_zero (by omega : fuel ≠ 0)
  have quote : skipSpace (write (.str text) ++ rest) =
      '"' :: (text.flatMap escapeChar ++ '"' :: rest) := by
    simp [write_str, writeString, skipSpace, isSpace]
  simp only [readValue, quote, if_true, readString_write, map_some]

theorem readsBack_arr {items : List Json} (each : ∀ item ∈ items, WellFormed item)
    (reads : ∀ item ∈ items, ReadsBack item) : ReadsBack (.arr items) := by
  intro fuel rest enough _
  cases items with
  | nil =>
    simp only [write_arr_nil, length_cons] at enough
    obtain ⟨fuel, rfl⟩ := Nat.exists_eq_succ_of_ne_zero (by omega : fuel ≠ 0)
    simp [write_arr_nil, readValue, skipSpace, isSpace]
  | cons item items =>
    simp only [write_arr_cons, length_cons] at enough
    obtain ⟨fuel, rfl⟩ := Nat.exists_eq_succ_of_ne_zero (by omega : fuel ≠ 0)
    have inner := readItems_write (reads item mem_cons_self)
      (fun other member => reads other (mem_cons_of_mem _ member)) rest
      (by omega : (write item ++ writeItems items).length ≤ fuel)
    obtain ⟨c, tail, writeIs, opens⟩ := write_opens (each item mem_cons_self)
    have notClosed : ∀ more,
        skipSpace (write item ++ (writeItems items ++ rest)) ≠ ']' :: more := by
      intro more same
      rw [writeIs, cons_append, skipSpace_cons _ opens.solid] at same
      exact opens.noBracket (cons.inj same).1
    have bracket : skipSpace (write (.arr (item :: items)) ++ rest) =
        '[' :: (write item ++ (writeItems items ++ rest)) := by
      simp [write_arr_cons, skipSpace, isSpace]
    have notQuote : ¬ '[' = '"' := by decide
    simp only [readValue, bracket, notQuote, if_false, if_true]
    rw [inner]
    rfl

theorem readsBack_obj {members : List (Text × Json)}
    (reads : ∀ member ∈ members, ReadsBack member.2) : ReadsBack (.obj members) := by
  intro fuel rest enough _
  cases members with
  | nil =>
    simp only [write_obj_nil, length_cons] at enough
    obtain ⟨fuel, rfl⟩ := Nat.exists_eq_succ_of_ne_zero (by omega : fuel ≠ 0)
    simp [write_obj_nil, readValue, skipSpace, isSpace]
  | cons member members =>
    simp only [write_obj_cons, length_cons] at enough
    obtain ⟨fuel, rfl⟩ := Nat.exists_eq_succ_of_ne_zero (by omega : fuel ≠ 0)
    have inner := readMembers_write (reads member mem_cons_self)
      (fun other inside => reads other (mem_cons_of_mem _ inside)) rest
      (by omega : (writeMember member ++ writeMembers members).length ≤ fuel)
    have brace : skipSpace (write (.obj (member :: members)) ++ rest) =
        '{' :: (writeMember member ++ (writeMembers members ++ rest)) := by
      simp [write_obj_cons, skipSpace, isSpace]
    have notClosed : ∀ more, skipSpace (writeMember member ++ (writeMembers members ++ rest)) ≠
        '}' :: more := by
      intro more
      obtain ⟨key, value⟩ := member
      simp [writeMember_mk, writeString, skipSpace, isSpace]
    have notQuote : ¬ '{' = '"' := by decide
    have notBracket : ¬ '{' = '[' := by decide
    simp only [readValue, brace, notQuote, notBracket, if_false, if_true]
    rw [inner]
    rfl

theorem readsBack (wellFormed : WellFormed value) : ReadsBack value := by
  induction wellFormed with
  | num chars valid => exact readsBack_num chars valid
  | null => exact readsBack_word (.inl rfl)
  | bool flag => exact readsBack_word (.inr ⟨flag, rfl⟩)
  | str text => exact readsBack_str text
  | arr each ih => exact readsBack_arr each ih
  | obj each ih => exact readsBack_obj ih

@[simp] theorem read_write (wellFormed : WellFormed value) : read (write value) = some value := by
  have delimited : Delimited [] := by
    intro c tail same
    simp at same
  have back := readsBack wellFormed ((write value).length + 1) [] (by omega) delimited
  rw [append_nil] at back
  simp [read, back, skipSpace]

structure Spelled (P : Text → Prop) : Prop where
  nil : P []
  words : P "null".toList ∧ P "true".toList ∧ P "false".toList
  num : ∀ {literal : Text}, literal.all isNumberChar = true → P literal
  str : ∀ text, P (writeString text)
  mark : ∀ {c rest}, c ∈ ['[', ']', '{', '}', ',', ':'] → P rest → P (c :: rest)
  append : ∀ {front rest}, P front → P rest → rest.head? ≠ some '"' → P (front ++ rest)

section Spelled

variable {P : Text → Prop} (spelled : Spelled P)

include spelled

theorem Spelled.items {items : List Json} (each : ∀ item ∈ items, P (write item)) :
    P (writeItems items) ∧ (writeItems items).head? ≠ some '"' := by
  induction items with
  | nil => exact ⟨spelled.mark (by simp) spelled.nil, by simp [writeItems_nil]⟩
  | cons item items ih =>
    obtain ⟨here, later⟩ := List.forall_mem_cons.mp each
    obtain ⟨rest, opens⟩ := ih later
    rw [writeItems_cons]
    exact ⟨spelled.mark (by simp) (spelled.append here rest opens), by simp⟩

theorem Spelled.member {member : Text × Json} (value : P (write member.2)) :
    P (writeMember member) := by
  rw [← Prod.eta member, writeMember_mk]
  exact spelled.append (spelled.str _) (spelled.mark (by simp) value) (by simp)

theorem Spelled.members {members : List (Text × Json)}
    (each : ∀ member ∈ members, P (write member.2)) :
    P (writeMembers members) ∧ (writeMembers members).head? ≠ some '"' := by
  induction members with
  | nil => exact ⟨spelled.mark (by simp) spelled.nil, by simp [writeMembers_nil]⟩
  | cons member members ih =>
    obtain ⟨here, later⟩ := List.forall_mem_cons.mp each
    obtain ⟨rest, opens⟩ := ih later
    rw [writeMembers_cons]
    exact ⟨spelled.mark (by simp) (spelled.append (spelled.member here) rest opens), by simp⟩

theorem Spelled.written {value : Json} (wellFormed : WellFormed value) : P (write value) := by
  induction wellFormed with
  | null => exact spelled.words.1
  | bool flag =>
    cases flag with
    | true => exact spelled.words.2.1
    | false => exact spelled.words.2.2
  | num chars valid => exact spelled.num chars
  | str text => exact spelled.str text
  | @arr items each ih =>
    cases items with
    | nil => exact spelled.mark (by simp) (spelled.mark (by simp) spelled.nil)
    | cons item rest =>
      obtain ⟨here, later⟩ := List.forall_mem_cons.mp ih
      obtain ⟨others, opens⟩ := spelled.items later
      exact spelled.mark (by simp) (spelled.append here others opens)
  | @obj members each ih =>
    cases members with
    | nil => exact spelled.mark (by simp) (spelled.mark (by simp) spelled.nil)
    | cons member rest =>
      obtain ⟨here, later⟩ := List.forall_mem_cons.mp ih
      obtain ⟨others, opens⟩ := spelled.members later
      exact spelled.mark (by simp) (spelled.append (spelled.member here) others opens)

end Spelled

def Printable (text : Text) : Prop := ∀ c ∈ text, 32 ≤ c.toNat

theorem escapeChar_printable (c : Char) : Printable (escapeChar c) := by
  rcases escapeChar_cases c with ⟨written, -, -, printable⟩ | ⟨letter, known, written, -⟩ |
    ⟨control, written⟩
  all_goals rw [written]
  · simpa [Printable] using printable
  · have all : ∀ letter ∈ ['"', '\\', 'b', 'f', 'n', 'r', 't'], 32 ≤ letter.toNat := by simp
    simp [Printable, all letter known]
  · have all : ∀ digit, digit < 16 → 32 ≤ (hexChar digit).toNat := by decide
    simp [Printable, all (c.toNat / 16) (by omega), all (c.toNat % 16) (by omega)]

theorem write_printable (wellFormed : WellFormed value) : Printable (write value) := by
  refine Spelled.written ?_ wellFormed
  constructor
  · simp [Printable]
  · simp [Printable]
  · intro literal chars c member
    by_contra small
    have none_ : ∀ code, code < 32 → isNumberChar (Char.ofNat code) = false := by decide
    have refused := none_ c.toNat (by omega)
    rw [Char.ofNat_toNat, List.all_eq_true.mp chars c member] at refused
    simp at refused
  · intro text c member
    simp only [writeString, mem_cons, mem_append, mem_flatMap, not_mem_nil, or_false] at member
    rcases member with rfl | ⟨source, -, inside⟩ | rfl
    · decide
    · exact escapeChar_printable source c inside
    · decide
  · intro c rest mark printable
    have all : ∀ mark ∈ ['[', ']', '{', '}', ',', ':'], 32 ≤ mark.toNat := by simp
    exact List.forall_mem_cons.mpr ⟨all c mark, printable⟩
  · intro front rest first second _
    exact List.forall_mem_append.mpr ⟨first, second⟩

def Quiet (text : Text) : Prop := ¬ [' ', '"', '"'] <:+: text

theorem Quiet.append_left {front rest : Text} (solid : ' ' ∉ front) (quiet : Quiet rest) :
    Quiet (front ++ rest) := by
  induction front with
  | nil => exact quiet
  | cons c front ih =>
    rw [mem_cons, not_or] at solid
    intro occurs
    rcases List.infix_cons_iff.mp occurs with opens | inside
    · exact solid.1 (List.cons_prefix_cons.mp opens).1
    · exact ih solid.2 inside

theorem Quiet.of_solid {text : Text} (solid : ' ' ∉ text) : Quiet text := by
  rw [← append_nil text]
  exact Quiet.append_left solid (by simp [Quiet])

theorem Quiet.cons {rest : Text} (solid : ' ' ≠ c) (quiet : Quiet rest) : Quiet (c :: rest) :=
  @Quiet.append_left [c] rest (by simpa using solid) quiet

theorem Quiet.append {left right : Text} (first : Quiet left) (second : Quiet right)
    (opens : right.head? ≠ some '"') : Quiet (left ++ right) := by
  induction left with
  | nil => exact second
  | cons c left ih =>
    have later : Quiet left := fun inside => first (inside.trans (suffix_cons c left).isInfix)
    intro occurs
    rcases List.infix_cons_iff.mp occurs with here | inside
    · -- The quotes behind the blank lie in the first text, or one of them opens the second one.
      obtain ⟨rfl, quotes⟩ := List.cons_prefix_cons.mp here
      cases left with
      | nil =>
        obtain ⟨rest, rfl⟩ := quotes
        simp at opens
      | cons d left =>
        obtain ⟨rfl, quote⟩ := List.cons_prefix_cons.mp quotes
        cases left with
        | nil =>
          obtain ⟨rest, rfl⟩ := quote
          simp at opens
        | cons e left =>
          obtain ⟨rfl, -⟩ := List.cons_prefix_cons.mp quote
          exact first ⟨[], left, rfl⟩
    · exact ih later inside

theorem escapeChar_quiet (c : Char) :
    (escapeChar c = [c] ∧ c ≠ '"') ∨ ∃ rest, escapeChar c = '\\' :: rest ∧ ' ' ∉ rest := by
  rcases escapeChar_cases c with ⟨written, notQuote, -⟩ | ⟨letter, known, written, -⟩ |
    ⟨control, written⟩
  · exact .inl ⟨written, notQuote⟩
  · refine .inr ⟨_, written, ?_⟩
    rintro (_ | ⟨_, ⟨⟩⟩)
    simp at known
  · have all : ∀ digit, digit < 16 → ' ' ≠ hexChar digit := by decide
    refine .inr ⟨_, written, ?_⟩
    simp [all (c.toNat / 16) (by omega), all (c.toNat % 16) (by omega)]

theorem writeString_quiet : Quiet (writeString text) := by
  refine Quiet.cons (by decide) ?_
  induction text with
  | nil => exact .of_solid (by decide)
  | cons c text ih =>
    rw [flatMap_cons, append_assoc]
    rcases escapeChar_quiet c with ⟨itself, -⟩ | ⟨rest, escaped, solid⟩
    · rw [itself]
      intro occurs
      rcases List.infix_cons_iff.mp occurs with here | inside
      · -- Behind a blank there is another character of the string, or the quote that ends it.
        have quotes := (List.cons_prefix_cons.mp here).2
        cases text with
        | nil => simp at quotes
        | cons d text =>
          rw [flatMap_cons] at quotes
          rcases escapeChar_quiet d with ⟨same, other⟩ | ⟨more, behind, -⟩
          · rw [same] at quotes
            exact other (List.cons_prefix_cons.mp quotes).1.symm
          · rw [behind] at quotes
            exact absurd (List.cons_prefix_cons.mp quotes).1 (by decide)
      · exact ih inside
    · rw [escaped]
      exact .cons (by decide) (ih.append_left solid)

theorem write_quiet (wellFormed : WellFormed value) : Quiet (write value) := by
  refine Spelled.written ?_ wellFormed
  constructor
  · exact .of_solid (by decide)
  · exact ⟨.of_solid (by decide), .of_solid (by decide), .of_solid (by decide)⟩
  · intro literal chars
    exact .of_solid fun member => absurd (List.all_eq_true.mp chars ' ' member) (by decide)
  · exact writeString_quiet
  · intro c rest mark quiet
    exact quiet.cons (by rintro rfl; simp at mark)
  · intro front rest first second opens
    exact first.append second opens

end Json

end Gvpn
