import Gvpn.AppsScript.Dns
import Gvpn.Data.JsonLaws

/-! Which queries share an answer in the cache of a script. -/

namespace Gvpn

open List Option

def wireLabels (labels : List Bytes) : Bytes :=
  labels.flatMap fun label => UInt8.ofNat label.length :: label

def Asks (query : Bytes) (labels : List Bytes) (qtype qclass : Nat) : Prop :=
  (∀ label ∈ labels, label ≠ [] ∧ label.length ≤ 63) ∧
    ∃ rest, query.drop 12 = wireLabels labels ++ 0 :: rest ∧ 4 ≤ rest.length ∧
      wordAt rest 0 = qtype ∧ wordAt rest 2 = qclass

def smallLetters (label : Bytes) : Text := labelText label 0 label.length

def dottedName (labels : List Bytes) : Text := (lit ".").intercalate (labels.map smallLetters)

variable {bytes : Bytes}

theorem drop_eq_byteAt_cons {off : Nat} (inside : off < bytes.length) :
    bytes.drop off = UInt8.ofNat (byteAt bytes off) :: bytes.drop (off + 1) := by
  rw [drop_eq_getElem_cons inside, byteAt, getElem?_eq_getElem inside, map_some,
    getD_some, UInt8.ofNat_toNat]

theorem questionName_eq {fuel off nameLen behind : Nat} {labels found : List Text}
    (enough : bytes.length ≤ off + fuel)
    (read : questionName bytes fuel off labels nameLen = some (behind, found))
    (more : behind < bytes.length) :
    ∃ name : List Bytes, found = labels ++ name.map smallLetters ∧
      (∀ label ∈ name, label ≠ [] ∧ label.length ≤ 63) ∧
      bytes.drop off = wireLabels name ++ 0 :: bytes.drop behind := by
  induction fuel generalizing off labels nameLen with
  | zero =>
    cases read
    omega
  | succ fuel ih =>
    rw [questionName] at read
    split at read
    · rename_i inside
      have first := drop_eq_byteAt_cons inside
      dsimp only at read
      split at read
      · rename_i zero
        cases read
        exact ⟨[], by simp, by simp, by rw [first, zero]; rfl⟩
      · obtain ⟨-, read⟩ := Option.ite_none_left_eq_some.mp read
        obtain ⟨short, read⟩ := Option.ite_none_left_eq_some.mp read
        obtain ⟨fits, read⟩ := Option.ite_none_left_eq_some.mp read
        obtain ⟨-, read⟩ := Option.ite_none_left_eq_some.mp read
        obtain ⟨name, rfl, sizes, wire⟩ := ih (by omega) read
        have length : ((bytes.drop (off + 1)).take (byteAt bytes off)).length =
            byteAt bytes off := by
          rw [length_take, length_drop]
          omega
        refine ⟨(bytes.drop (off + 1)).take (byteAt bytes off) :: name, ?_, ?_, ?_⟩
        · simp [smallLetters, labelText, length]
        · refine List.forall_mem_cons.mpr ⟨⟨?_, by omega⟩, sizes⟩
          intro empty
          simp only [empty, length_nil] at length
          omega
        · have joined := take_append_drop (byteAt bytes off) (bytes.drop (off + 1))
          rw [drop_drop] at joined
          rw [first, wireLabels, flatMap_cons, length, cons_append, cons_append,
            append_assoc, ← wireLabels, ← wire, joined]
    · cases read
      omega

theorem wordAt_drop (bytes : Bytes) (off i : Nat) :
    wordAt (bytes.drop off) i = wordAt bytes (off + i) := by
  simp only [wordAt, byteAt, getElem?_drop, Nat.add_assoc]

theorem asks_of_dnsParseQuestion {question : Question}
    (parsed : dnsParseQuestion bytes = some question) :
    ∃ labels qclass, Asks bytes labels question.qtype qclass ∧
      question.qname = dottedName labels := by
  obtain ⟨whole, parsed⟩ := Option.ite_none_left_eq_some.mp parsed
  obtain ⟨-, parsed⟩ := Option.ite_none_left_eq_some.mp parsed
  split at parsed
  · contradiction
  · rename_i off found read
    obtain ⟨room, parsed⟩ := Option.ite_none_left_eq_some.mp parsed
    cases parsed
    obtain ⟨labels, rfl, sizes, wire⟩ := questionName_eq (by omega) read (by omega)
    refine ⟨labels, _, ⟨sizes, bytes.drop off, wire, ?_, wordAt_drop bytes off 0, rfl⟩, rfl⟩
    rw [length_drop]
    omega

theorem asks_of_edgeDnsPrepare {engine : Engine} {sha256 : Text → Bytes} {d : Json}
    {prep : Prepared} (prepared : edgeDnsPrepare engine sha256 d = some prep) :
    ∃ labels qclass, Asks prep.bytes labels prep.question.qtype qclass ∧
      prep.key = edgeDnsKey sha256 prep.question.qtype (dottedName labels) := by
  unfold edgeDnsPrepare at prepared
  split at prepared
  · contradiction
  · obtain ⟨-, prepared⟩ := Option.ite_none_left_eq_some.mp prepared
    split at prepared
    · contradiction
    · rename_i question parsed
      obtain ⟨-, prepared⟩ := Option.ite_none_left_eq_some.mp prepared
      cases prepared
      obtain ⟨labels, qclass, asks, name⟩ := asks_of_dnsParseQuestion parsed
      exact ⟨labels, qclass, asks, by rw [← name]⟩

theorem decimal_colon_inj {m n : Nat} {left right : Text}
    (same : decimal m ++ ':' :: left = decimal n ++ ':' :: right) : m = n ∧ left = right := by
  have free (k : Nat) : ':' ∉ decimal k := fun member =>
    absurd (isDigit_of_mem_decimal member) (by decide)
  have split := congrArg (splitOnce ':') same
  rw [splitOnce_append (free m), splitOnce_append (free n), some.injEq, Prod.mk.injEq] at split
  have numbers := congrArg readDigits split.1
  rw [readDigits_decimal, readDigits_decimal] at numbers
  exact ⟨numbers, split.2⟩

theorem hexText_injective : Function.Injective hexText := by
  have digit {m n : Nat} (small : m < 16 ∧ n < 16) (same : Json.hexChar m = Json.hexChar n) :
      m = n := by
    have values := congrArg Json.hexValue same
    rw [Json.hexValue_hexChar small.1, Json.hexValue_hexChar small.2] at values
    exact some.inj values
  intro left right same
  induction left generalizing right with
  | nil => cases right with
    | nil => rfl
    | cons byte rest => simp [hexText] at same
  | cons byte rest ih => cases right with
    | nil => simp [hexText] at same
    | cons other others =>
      simp only [hexText, flatMap_cons, cons_append, nil_append, cons.injEq]
        at same
      have bounds := And.intro byte.toNat_lt other.toNat_lt
      have high := digit (by omega) same.1
      have low := digit (by omega) same.2.1
      rw [ih same.2.2, UInt8.toNat_inj.mp (by omega : byte.toNat = other.toNat)]

theorem edgeDnsKey_eq_iff {sha256 : Text → Bytes} (distinct : Function.Injective sha256)
    {m n : Nat} {left right : Text} :
    edgeDnsKey sha256 m left = edgeDnsKey sha256 n right ↔ m = n ∧ left = right := by
  have colon : lit ":" = [':'] := by with_unfolding_all rfl
  have hashed : lit "h:" = ['h', ':'] := by with_unfolding_all rfl
  have apart (k : Nat) (behind other : Text) : decimal k ++ behind ≠ 'h' :: other := by
    intro same
    cases digits : decimal k with
    | nil => exact decimal_ne_nil k digits
    | cons first rest =>
      rw [digits, cons_append, cons.injEq] at same
      have digit : first ∈ decimal k := by simp [digits]
      exact absurd (isDigit_of_mem_decimal digit) (by rw [same.1]; decide)
  constructor
  · intro same
    unfold edgeDnsKey at same
    simp only [colon, hashed, append_assoc, cons_append, nil_append] at same
    split at same
    · split at same
      · simp only [append_cancel_left_eq, cons.injEq, true_and] at same
        obtain ⟨types, digests⟩ := decimal_colon_inj same
        exact ⟨types, distinct (hexText_injective digests)⟩
      · exact absurd (append_cancel_left same).symm (apart n _ _)
    · split at same
      · exact absurd (append_cancel_left same) (apart m _ _)
      · exact decimal_colon_inj (append_cancel_left same)
  · rintro ⟨rfl, rfl⟩
    rfl

/-- The size in front of a label is its length, and no zero. -/
theorem label_size {label : Bytes} (bounds : label ≠ [] ∧ label.length ≤ 63) :
    (UInt8.ofNat label.length).toNat = label.length ∧ UInt8.ofNat label.length ≠ 0 := by
  have length : (UInt8.ofNat label.length).toNat = label.length := by
    rw [UInt8.toNat_ofNat']
    omega
  refine ⟨length, fun zero => ?_⟩
  rw [zero] at length
  exact bounds.1 (List.length_eq_zero_iff.mp length.symm)

/-- Labels with an empty one behind them are told apart by their bytes. -/
theorem wireLabels_inj {left right : List Bytes} {more others : Bytes}
    (sizes : ∀ label ∈ left, label ≠ [] ∧ label.length ≤ 63)
    (sizes' : ∀ label ∈ right, label ≠ [] ∧ label.length ≤ 63)
    (same : wireLabels left ++ 0 :: more = wireLabels right ++ 0 :: others) :
    left = right ∧ more = others := by
  induction left generalizing right with
  | nil => cases right with
    | nil => simpa [wireLabels] using same
    | cons label labels =>
      have zero : UInt8.ofNat label.length = 0 := by simp_all [wireLabels]
      exact absurd zero (label_size (sizes' label mem_cons_self)).2
  | cons first rest ih => cases right with
    | nil =>
      have zero : UInt8.ofNat first.length = 0 := by simp_all [wireLabels]
      exact absurd zero (label_size (sizes first mem_cons_self)).2
    | cons label labels =>
      obtain ⟨here, later⟩ := List.forall_mem_cons.mp sizes
      obtain ⟨here', later'⟩ := List.forall_mem_cons.mp sizes'
      simp only [wireLabels, flatMap_cons, cons_append, append_assoc, cons.injEq] at same
      have lengths : first.length = label.length := by
        rw [← (label_size here).1, same.1, (label_size here').1]
      obtain ⟨rfl, behind⟩ := append_inj same.2 lengths
      obtain ⟨rfl, rest⟩ := ih later later' behind
      exact ⟨rfl, rest⟩

/-- A message asks one question only. -/
theorem Asks.unique {query : Bytes} {labels labels' : List Bytes}
    {qtype qtype' qclass qclass' : Nat} (asks : Asks query labels qtype qclass)
    (asks' : Asks query labels' qtype' qclass') : labels = labels' := by
  obtain ⟨sizes, rest, wire, -⟩ := asks
  obtain ⟨sizes', rest', wire', -⟩ := asks'
  exact (wireLabels_inj sizes sizes' (wire.symm.trans wire')).1

/-- Texts of the same lengths with dots between them are told apart by the whole. -/
theorem eq_of_intercalate {left right : List Text}
    (lengths : left.map length = right.map length)
    (same : (lit ".").intercalate left = (lit ".").intercalate right) : left = right := by
  induction left generalizing right with
  | nil => simpa using lengths.symm
  | cons first rest ih => cases right with
    | nil => simp at lengths
    | cons text texts =>
      rw [map_cons, map_cons, cons.injEq] at lengths
      cases rest with
      | nil =>
        obtain rfl : texts = [] := by simpa using lengths.2.symm
        simpa using same
      | cons second others => cases texts with
        | nil => simp at lengths
        | cons other more =>
          rw [intercalate_cons_cons, intercalate_cons_cons, append_assoc, append_assoc] at same
          obtain ⟨rfl, behind⟩ := append_inj same lengths.1
          rw [ih lengths.2 (append_cancel_left behind)]

/-- Small letters are as many as the bytes of the label. -/
theorem length_smallLetters (label : Bytes) : (smallLetters label).length = label.length := by
  simp [smallLetters, labelText]

/--
A key is shared by queries of one question only, exactly unless the two are of one type and have one
dotted name in small letters, but differ in their class or in where their labels end.
-/
theorem edgeDns_keys_separate_iff (engine : Engine) (sha256 : Text → Bytes)
    (distinct : Function.Injective sha256) {d₁ d₂ : Json} {first second : Prepared}
    (prepared₁ : edgeDnsPrepare engine sha256 d₁ = some first)
    (prepared₂ : edgeDnsPrepare engine sha256 d₂ = some second)
    {labels₁ labels₂ : List Bytes} {qclass₁ qclass₂ : Nat}
    (asks₁ : Asks first.bytes labels₁ first.question.qtype qclass₁)
    (asks₂ : Asks second.bytes labels₂ second.question.qtype qclass₂) :
    (first.key = second.key → labels₁.map smallLetters = labels₂.map smallLetters ∧
        first.question.qtype = second.question.qtype ∧ qclass₁ = qclass₂) ↔
      ¬ (first.question.qtype = second.question.qtype ∧ dottedName labels₁ = dottedName labels₂ ∧
        (qclass₁ ≠ qclass₂ ∨ labels₁.map length ≠ labels₂.map length)) := by
  -- The key of each query is that of its type and its dotted name.
  obtain ⟨read₁, class₁, asked₁, key₁⟩ := asks_of_edgeDnsPrepare prepared₁
  obtain ⟨read₂, class₂, asked₂, key₂⟩ := asks_of_edgeDnsPrepare prepared₂
  obtain rfl := asks₁.unique asked₁
  obtain rfl := asks₂.unique asked₂
  have keys := @edgeDnsKey_eq_iff sha256 distinct first.question.qtype second.question.qtype
    (dottedName labels₁) (dottedName labels₂)
  rw [← key₁, ← key₂] at keys
  have lengths (labels : List Bytes) :
      (labels.map smallLetters).map length = labels.map length := by
    rw [List.map_map]
    exact map_congr_left fun label _ => length_smallLetters label
  rw [keys]
  constructor
  · rintro separates ⟨types, names, differ⟩
    obtain ⟨letters, -, classes⟩ := separates ⟨types, names⟩
    rcases differ with other | other
    · exact other classes
    · exact other (by rw [← lengths, letters, lengths])
  · rintro apart ⟨types, names⟩
    obtain ⟨classes, sizes⟩ : qclass₁ = qclass₂ ∧ labels₁.map length = labels₂.map length := by
      by_contra differ
      exact apart ⟨types, names, by tauto⟩
    exact ⟨eq_of_intercalate (by rw [lengths, lengths, sizes]) names, types, classes⟩

def lookupOf (labels : List Bytes) (qclass : UInt8) : Json :=
  .str (Base64.encode ([0, 7, 1, 0, 0, 1, 0, 0, 0, 0, 0, 0] ++ wireLabels labels ++
    [0, 0, 1, 0, qclass]))

def keyOf (query : Json) : Option Text := (edgeDnsPrepare plainEngine toUtf8 query).map Prepared.key

/-- Two spellings of one name share a key, and ask the same question. -/
theorem edgeDns_keys_separate_iff_spellings :
    keyOf (lookupOf [[65], [98]] 1) = keyOf (lookupOf [[97], [66]] 1) ∧
      [[65], [98]].map smallLetters = [[97], [66]].map smallLetters := by
  let first := (edgeDnsPrepare plainEngine toUtf8 (lookupOf [[65], [98]] 1)).get (by decide)
  let second := (edgeDnsPrepare plainEngine toUtf8 (lookupOf [[97], [66]] 1)).get (by decide)
  have asks₁ : Asks first.bytes [[65], [98]] first.question.qtype 1 :=
    ⟨by decide, [0, 1, 0, 1], by with_unfolding_all decide⟩
  have asks₂ : Asks second.bytes [[97], [66]] second.question.qtype 1 :=
    ⟨by decide, [0, 1, 0, 1], by with_unfolding_all decide⟩
  have separate := edgeDns_keys_separate_iff plainEngine toUtf8 (fun _ _ => toUtf8_injective)
    (Option.some_get _).symm (Option.some_get _).symm asks₁ asks₂
  exact ⟨by with_unfolding_all decide, (separate.mpr (by simp) (by with_unfolding_all decide)).1⟩

/-- The class of a question is not part of its key, and a dot in a label is like one between two. -/
theorem key_shared_by_questions :
    keyOf (lookupOf [[97], [98]] 1) = some (lit "edns:1:a.b") ∧
      keyOf (lookupOf [[97], [98]] 3) = some (lit "edns:1:a.b") ∧
      keyOf (lookupOf [[97, 46, 98]] 1) = some (lit "edns:1:a.b") := by
  with_unfolding_all decide

end Gvpn
