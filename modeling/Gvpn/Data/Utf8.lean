import Gvpn.Data.Basic

/-! Texts as bytes, in UTF-8. -/

namespace Gvpn

open List Option

def toUtf8 (text : Text) : Bytes := text.flatMap String.utf8EncodeChar

def fromUtf8 (bytes : Bytes) : Option Text :=
  (ByteArray.utf8Decode? ⟨bytes.toArray⟩).map Array.toList

@[simp] theorem fromUtf8_toUtf8 (text : Text) : fromUtf8 (toUtf8 text) = some text := by
  have encoded : (⟨(toUtf8 text).toArray⟩ : ByteArray) = text.utf8Encode := by
    apply ByteArray.ext
    simp [toUtf8, List.utf8Encode]
  rw [fromUtf8, encoded, utf8Decode?_utf8Encode]
  simp

variable {text : Text}

theorem toUtf8_of_fromUtf8 {bytes : Bytes} (decoded : fromUtf8 bytes = some text) :
    toUtf8 text = bytes := by
  obtain ⟨chars, found, rfl⟩ := Option.map_eq_some_iff.mp decoded
  have valid : (⟨bytes.toArray⟩ : ByteArray).IsValidUTF8 :=
    ByteArray.isSome_utf8Decode?_iff.mp (by rw [found]; rfl)
  obtain ⟨written, encodes⟩ := valid
  rw [encodes, utf8Decode?_utf8Encode, some.injEq] at found
  have same : bytes = toUtf8 written := by
    have arrays := congrArg (fun array : ByteArray => array.data.toList) encodes
    simpa [toUtf8, List.utf8Encode] using arrays
  rw [← found, same]

@[simp] theorem toUtf8_append (left right : Text) :
    toUtf8 (left ++ right) = toUtf8 left ++ toUtf8 right := by simp [toUtf8]

theorem toUtf8_cons (c : Char) (rest : Text) :
    toUtf8 (c :: rest) = String.utf8EncodeChar c ++ toUtf8 rest := by simp [toUtf8]

variable {c : Char}

theorem utf8EncodeChar_ascii (ascii : c.toNat < 128) :
    String.utf8EncodeChar c = [UInt8.ofNat c.toNat] := by
  have small : c.val.toNat ≤ 0x7f := by
    have : c.val.toNat = c.toNat := rfl
    omega
  unfold String.utf8EncodeChar
  simp only [if_pos small]
  rfl

theorem toNat_eq_of_mem_utf8EncodeChar {byte : UInt8}
    (member : byte ∈ String.utf8EncodeChar c) (ascii : byte.toNat < 128) :
    c.toNat = byte.toNat := by
  have same : c.val.toNat = c.toNat := rfl
  unfold String.utf8EncodeChar at member
  simp only at member
  split at member
  · simp only [mem_singleton] at member
    rw [member, UInt8.toNat_ofNat']
    omega
  · -- Every byte of a longer encoding has its top bit set.
    split at member
    · simp only [mem_cons, not_mem_nil, or_false] at member
      rcases member with rfl | rfl
      all_goals
        rw [UInt8.toNat_ofNat'] at ascii
        omega
    · split at member
      · simp only [mem_cons, not_mem_nil, or_false] at member
        rcases member with rfl | rfl | rfl
        all_goals
          rw [UInt8.toNat_ofNat'] at ascii
          omega
      · simp only [mem_cons, not_mem_nil, or_false] at member
        rcases member with rfl | rfl | rfl | rfl
        all_goals
          rw [UInt8.toNat_ofNat'] at ascii
          omega

theorem mem_of_mem_toUtf8 {byte : UInt8} (member : byte ∈ toUtf8 text)
    (ascii : byte.toNat < 128) : Char.ofNat byte.toNat ∈ text := by
  obtain ⟨c, inside, encoded⟩ := List.mem_flatMap.mp member
  rw [← toNat_eq_of_mem_utf8EncodeChar encoded ascii, Char.ofNat_toNat]
  exact inside

theorem mem_toUtf8_of_mem (member : c ∈ text) (ascii : c.toNat < 128) :
    UInt8.ofNat c.toNat ∈ toUtf8 text :=
  List.mem_flatMap.mpr ⟨c, member, by simp [utf8EncodeChar_ascii ascii]⟩

theorem toUtf8_injective {left right : Text} (same : toUtf8 left = toUtf8 right) : left = right := by
  have decoded := congrArg fromUtf8 same
  simpa using decoded

theorem exists_of_toUtf8_eq_append {mark : Char} {front back : Bytes}
    (ascii : mark.toNat < 128) (split : toUtf8 text = front ++ UInt8.ofNat mark.toNat :: back) :
    ∃ left right, text = left ++ mark :: right ∧ toUtf8 left = front ∧ toUtf8 right = back := by
  have code : (UInt8.ofNat mark.toNat).toNat = mark.toNat := by
    rw [UInt8.toNat_ofNat']
    omega
  induction text generalizing front with
  | nil => simp [toUtf8] at split
  | cons c rest ih =>
    rw [toUtf8_cons] at split
    rcases List.append_eq_append_iff.mp split with ⟨more, frontIs, restIs⟩ | ⟨more, encodedIs, backIs⟩
    · -- The byte lies behind the first character.
      obtain ⟨left, right, rfl, rfl, rfl⟩ := ih restIs
      exact ⟨c :: left, right, rfl, by rw [toUtf8_cons, frontIs], rfl⟩
    · cases more with
      | nil =>
        have restIs : toUtf8 rest = [] ++ UInt8.ofNat mark.toNat :: back := by
          simpa using backIs.symm
        obtain ⟨left, right, rfl, nothing, rfl⟩ := ih restIs
        refine ⟨c :: left, right, rfl, ?_, rfl⟩
        rw [toUtf8_cons, nothing, append_nil, encodedIs, append_nil]
      | cons byte others =>
        rw [cons_append, cons.injEq] at backIs
        have inside : UInt8.ofNat mark.toNat ∈ String.utf8EncodeChar c := by
          rw [encodedIs, backIs.1]
          simp
        have same : c = mark := by
          apply Char.toNat_inj.mp
          rw [toNat_eq_of_mem_utf8EncodeChar inside (by omega), code]
        subst same
        rw [utf8EncodeChar_ascii ascii] at encodedIs
        have one := congrArg List.length encodedIs
        simp only [length_append, length_cons, length_nil] at one
        obtain rfl : front = [] := List.length_eq_zero_iff.mp (by omega)
        obtain rfl : others = [] := List.length_eq_zero_iff.mp (by omega)
        exact ⟨[], rest, rfl, rfl, by simpa using backIs.2.symm⟩

theorem length_le_length_toUtf8 (text : Text) : text.length ≤ (toUtf8 text).length := by
  induction text with
  | nil => simp [toUtf8]
  | cons c rest ih =>
    have some_ : 0 < (String.utf8EncodeChar c).length := by
      rw [String.length_utf8EncodeChar]
      exact Char.utf8Size_pos c
    rw [toUtf8_cons, length_append, length_cons]
    omega

theorem length_toUtf8_le (text : Text) : (toUtf8 text).length ≤ 4 * text.length := by
  induction text with
  | nil => simp [toUtf8]
  | cons c rest ih =>
    have few : (String.utf8EncodeChar c).length ≤ 4 := by
      rw [String.length_utf8EncodeChar]
      exact Char.utf8Size_le_four c
    rw [toUtf8_cons, length_append, length_cons]
    omega

def isContinuation (byte : UInt8) : Bool := 0x80 ≤ byte && byte ≤ 0xBF

def isSecondByte (first second : UInt8) : Bool :=
  if first = 0xE0 then 0xA0 ≤ second && second ≤ 0xBF
  else if first = 0xED then 0x80 ≤ second && second ≤ 0x9F
  else if first = 0xF0 then 0x90 ≤ second && second ≤ 0xBF
  else if first = 0xF4 then 0x80 ≤ second && second ≤ 0x8F
  else 0xE0 ≤ first && first ≤ 0xF4 && isContinuation second

def brokenLength : Bytes → Nat
  | first :: second :: third :: _ =>
    if isSecondByte first second then
      if 0xF0 ≤ first && isContinuation third then 3 else 2
    else 1
  | [first, second] => if isSecondByte first second then 2 else 1
  | _ => 1

def lossyLoop : Nat → Bytes → Text
  | 0, _ => []
  | _ + 1, [] => []
  | fuel + 1, bytes =>
    match ByteArray.utf8DecodeChar? ⟨bytes.toArray⟩ 0 with
    | some c => c :: lossyLoop fuel (bytes.drop c.utf8Size)
    | none => '\uFFFD' :: lossyLoop fuel (bytes.drop (brokenLength bytes))

def fromUtf8Lossy (bytes : Bytes) : Text := lossyLoop bytes.length bytes

variable (bytes : Bytes)

theorem brokenLength_pos : 0 < brokenLength bytes := by
  unfold brokenLength
  grind

theorem lossyLoop_eq {fuel : Nat} {bytes : Bytes} (enough : bytes.length ≤ fuel) :
    lossyLoop fuel bytes = fromUtf8Lossy bytes := by
  suffices agree : ∀ (left right : Nat) (bytes : Bytes), bytes.length ≤ left →
      bytes.length ≤ right → lossyLoop left bytes = lossyLoop right bytes from
    agree fuel bytes.length bytes enough le_rfl
  intro left
  induction left with
  | zero =>
    intro right bytes short _
    obtain rfl := List.length_eq_zero_iff.mp (Nat.le_zero.mp short)
    cases right <;> rfl
  | succ left ih =>
    intro right bytes within fits
    match bytes, right with
    | [], 0 => rfl
    | [], right + 1 => rfl
    | first :: rest, 0 => simp at fits
    | first :: rest, right + 1 =>
      simp only [length_cons, Nat.add_le_add_iff_right] at within fits
      have shorter : ∀ count, 0 < count → lossyLoop left ((first :: rest).drop count) =
          lossyLoop right ((first :: rest).drop count) := by
        intro count some_
        apply ih <;> simp only [length_drop, length_cons] <;> omega
      unfold lossyLoop
      cases ByteArray.utf8DecodeChar? ⟨(first :: rest).toArray⟩ 0 with
      | none => exact congrArg _ (shorter _ (brokenLength_pos _))
      | some c => exact congrArg _ (shorter _ (Char.utf8Size_pos c))

theorem fromUtf8Lossy_encode (c : Char) (rest : Bytes) :
    fromUtf8Lossy (String.utf8EncodeChar c ++ rest) = c :: fromUtf8Lossy rest := by
  have size : (String.utf8EncodeChar c).length = c.utf8Size := String.length_utf8EncodeChar c
  have some_ : 0 < c.utf8Size := Char.utf8Size_pos c
  have decoded : ByteArray.utf8DecodeChar?
      ⟨(String.utf8EncodeChar c ++ rest).toArray⟩ 0 = some c := by
    have joined : (⟨(String.utf8EncodeChar c ++ rest).toArray⟩ : ByteArray) =
        (String.utf8EncodeChar c).toByteArray ++ ⟨rest.toArray⟩ := by
      apply ByteArray.ext
      simp
    rw [joined, ByteArray.utf8DecodeChar?_utf8EncodeChar_append]
  have shape : ∃ first more, String.utf8EncodeChar c ++ rest = first :: more := by
    cases bytes : String.utf8EncodeChar c ++ rest with
    | nil =>
      have := congrArg List.length bytes
      simp only [length_append, length_nil] at this
      omega
    | cons first more => exact ⟨first, more, rfl⟩
  have behind : (String.utf8EncodeChar c ++ rest).drop c.utf8Size = rest := by
    rw [← size, drop_left]
  obtain ⟨first, more, bytes⟩ := shape
  have length : more.length + 1 = c.utf8Size + rest.length := by
    have := congrArg List.length bytes
    simp only [length_append, length_cons, size] at this
    omega
  rw [bytes] at decoded behind ⊢
  rw [fromUtf8Lossy, length_cons]
  unfold lossyLoop
  simp only [decoded, behind]
  rw [lossyLoop_eq (by omega)]

theorem fromUtf8Lossy_append (text : Text) (rest : Bytes) :
    fromUtf8Lossy (toUtf8 text ++ rest) = text ++ fromUtf8Lossy rest := by
  induction text with
  | nil => simp [toUtf8]
  | cons c more ih =>
    rw [toUtf8_cons, append_assoc, fromUtf8Lossy_encode, ih, cons_append]

@[simp] theorem fromUtf8Lossy_toUtf8 (text : Text) : fromUtf8Lossy (toUtf8 text) = text := by
  have read := fromUtf8Lossy_append text []
  rwa [append_nil, show fromUtf8Lossy [] = [] from rfl, append_nil] at read

theorem length_fromUtf8Lossy_le : (fromUtf8Lossy bytes).length ≤ bytes.length := by
  suffices bounded : ∀ (fuel : Nat) (bytes : Bytes), (lossyLoop fuel bytes).length ≤ fuel from
    bounded _ _
  intro fuel
  induction fuel with
  | zero => simp [lossyLoop]
  | succ fuel ih =>
    intro bytes
    cases bytes with
    | nil => simp [lossyLoop]
    | cons first rest =>
      unfold lossyLoop
      split
      all_goals
        rw [length_cons]
        exact Nat.succ_le_succ (ih _)

theorem fromUtf8Lossy_take_ne {count : Nat} (missing : count + 16 < (toUtf8 text).length) :
    fromUtf8Lossy ((toUtf8 text).take count) ≠ text := by
  suffices fewer : (fromUtf8Lossy ((toUtf8 text).take count)).length < text.length from
    fun same => absurd (congrArg List.length same) (by omega)
  induction text generalizing count with
  | nil => simp [toUtf8] at missing
  | cons c rest ih =>
    have size : (String.utf8EncodeChar c).length ≤ 4 := by
      rw [String.length_utf8EncodeChar]
      exact Char.utf8Size_le_four c
    rw [toUtf8_cons, length_append] at missing
    rw [toUtf8_cons, take_append]
    by_cases whole : (String.utf8EncodeChar c).length ≤ count
    · rw [take_of_length_le whole, fromUtf8Lossy_encode, length_cons, length_cons]
      exact Nat.succ_lt_succ (ih (by omega))
    · have within := length_fromUtf8Lossy_le ((String.utf8EncodeChar c).take count ++
        (toUtf8 rest).take (count - (String.utf8EncodeChar c).length))
      have chars := length_toUtf8_le rest
      simp only [length_append, length_take] at within
      rw [length_cons]
      omega

theorem fromUtf8_append (text : Text) :
    fromUtf8 (toUtf8 text ++ bytes) = (fromUtf8 bytes).map (text ++ ·) := by
  cases decoded : fromUtf8 bytes with
  | some rest => rw [← toUtf8_of_fromUtf8 decoded, ← toUtf8_append, fromUtf8_toUtf8, map_some]
  | none =>
    cases whole : fromUtf8 (toUtf8 text ++ bytes) with
    | none => rfl
    | some read =>
      have encoded := toUtf8_of_fromUtf8 whole
      have parts : read = text ++ fromUtf8Lossy bytes := by
        rw [← fromUtf8Lossy_toUtf8 read, encoded, fromUtf8Lossy_append]
      rw [parts, toUtf8_append, append_cancel_left_eq] at encoded
      rw [← encoded, fromUtf8_toUtf8] at decoded
      cases decoded

def EndsInside (text : Text) (count : Nat) : Prop :=
  ∃ front c back, text = front ++ c :: back ∧ (toUtf8 front).length < count ∧
    count < (toUtf8 (front ++ [c])).length

theorem fromUtf8_take_encode {count : Nat} (some_ : 0 < count)
    (short : count < (String.utf8EncodeChar c).length) :
    fromUtf8 ((String.utf8EncodeChar c).take count) = none := by
  cases decoded : fromUtf8 ((String.utf8EncodeChar c).take count) with
  | none => rfl
  | some read =>
    have encoded := toUtf8_of_fromUtf8 decoded
    have single : toUtf8 [c] = String.utf8EncodeChar c := by simp [toUtf8]
    have whole : read ++ fromUtf8Lossy ((String.utf8EncodeChar c).drop count) = [c] := by
      rw [← fromUtf8Lossy_append, encoded, take_append_drop, ← single, fromUtf8Lossy_toUtf8]
    have length : (toUtf8 read).length = count := by
      rw [encoded, length_take]
      omega
    cases read with
    | nil =>
      simp only [toUtf8, flatMap_nil, length_nil] at length
      omega
    | cons first rest =>
      rw [cons_append, cons.injEq] at whole
      rw [whole.1, (List.append_eq_nil_iff.mp whole.2).1, single] at length
      omega

theorem fromUtf8_take_eq_none_iff (text : Text) (count : Nat) :
    fromUtf8 ((toUtf8 text).take count) = none ↔ EndsInside text count := by
  unfold EndsInside
  induction text generalizing count with
  | nil => simp [toUtf8, show fromUtf8 [] = some [] from fromUtf8_toUtf8 []]
  | cons c rest ih =>
    have single : toUtf8 [c] = String.utf8EncodeChar c := by simp [toUtf8]
    by_cases whole : (String.utf8EncodeChar c).length ≤ count
    · have split : (toUtf8 (c :: rest)).take count =
          toUtf8 [c] ++ (toUtf8 rest).take (count - (String.utf8EncodeChar c).length) := by
        rw [toUtf8_cons, take_append, take_of_length_le whole, single]
      rw [split, fromUtf8_append, map_eq_none_iff, ih]
      constructor
      · rintro ⟨front, inside, back, rfl, before, behind⟩
        refine ⟨c :: front, inside, back, rfl, ?_, ?_⟩
        · rw [toUtf8_cons, length_append]
          omega
        · rw [cons_append, toUtf8_cons, length_append]
          omega
      · rintro ⟨front, inside, back, same, before, behind⟩
        cases front with
        | nil =>
          rw [nil_append, cons.injEq] at same
          rw [nil_append, ← same.1, single] at behind
          omega
        | cons first others =>
          obtain ⟨rfl, rfl⟩ := same
          rw [toUtf8_cons, length_append] at before
          rw [cons_append, toUtf8_cons, length_append] at behind
          exact ⟨others, inside, back, rfl, by omega, by omega⟩
    · have short : count < (String.utf8EncodeChar c).length := by omega
      rw [toUtf8_cons, take_append_of_le_length (Nat.le_of_lt short)]
      by_cases some_ : 0 < count
      · refine iff_of_true (fromUtf8_take_encode some_ short) ⟨[], c, rest, rfl, some_, ?_⟩
        rwa [nil_append, single]
      · have nothing : count = 0 := by omega
        subst nothing
        simp [show fromUtf8 [] = some [] from fromUtf8_toUtf8 []]

end Gvpn
