import Gvpn.AppsScript.DnsWalk
import Gvpn.Proofs.DnsKeys
import Gvpn.Proofs.EdgeDns

/-! The walks over a name server's message end, stay inside it, and are exact. -/

namespace Gvpn

inductive NameEnds (bytes : Bytes) : Nat → Nat → Prop
  | root {off : Nat} (inside : off < bytes.length) (zero : byteAt bytes off = 0) :
      NameEnds bytes off (off + 1)
  | pointer {off : Nat} (inside : off + 2 ≤ bytes.length) (mark : 192 ≤ byteAt bytes off) :
      NameEnds bytes off (off + 2)
  | label {off behind : Nat} (inside : off < bytes.length)
      (fits : 0 < byteAt bytes off ∧ byteAt bytes off ≤ 63)
      (rest : NameEnds bytes (off + 1 + byteAt bytes off) behind) : NameEnds bytes off behind

inductive QuestionsEnd (bytes : Bytes) : Nat → Nat → Nat → Prop
  | none {off : Nat} : QuestionsEnd bytes 0 off off
  | next {count off behind last : Nat} (name : NameEnds bytes off behind)
      (room : behind + 4 ≤ bytes.length) (rest : QuestionsEnd bytes count (behind + 4) last) :
      QuestionsEnd bytes (count + 1) off last

inductive RecordsAt (bytes : Bytes) : Nat → Nat → List Nat → Prop
  | none {off : Nat} : RecordsAt bytes 0 off []
  | next {count off behind : Nat} {ttls : List Nat} (name : NameEnds bytes off behind)
      (room : behind + 10 + wordAt bytes (behind + 8) ≤ bytes.length)
      (rest : RecordsAt bytes count (behind + 10 + wordAt bytes (behind + 8)) ttls) :
      RecordsAt bytes (count + 1) off (recordTtl bytes behind :: ttls)

variable {bytes : Bytes}

theorem readByte_eq {i : Nat} (inside : i < bytes.length) :
    readByte bytes i = .ok (byteAt bytes i) := by
  simp [readByte, byteAt, List.getElem?_eq_getElem inside]

theorem readWord_eq {i : Nat} (inside : i + 1 < bytes.length) :
    readWord bytes i = .ok (wordAt bytes i) := by
  rw [readWord, readByte_eq (by omega), readByte_eq inside]
  rfl

theorem readLabel_eq {off len : Nat} (inside : off + len ≤ bytes.length) :
    readLabel bytes off len = .ok (labelText bytes off len) := by
  induction len generalizing off with
  | zero => simp [readLabel, labelText]
  | succ len ih =>
    have first := @drop_eq_byteAt_cons bytes off (by omega)
    have small := byteAt_lt bytes off
    rw [readLabel, readByte_eq (by omega), ih (by omega)]
    simp [labelText, first, Nat.mod_eq_of_lt small]

theorem walkSkipName_eq {fuel off : Nat} (enough : bytes.length ≤ off + fuel) :
    walkSkipName bytes fuel off = .ok (dnsSkipName bytes fuel off) := by
  induction fuel generalizing off with
  | zero => exact if_neg (by omega)
  | succ fuel ih =>
    rw [walkSkipName, dnsSkipName]
    by_cases inside : off < bytes.length
    · -- Both loops make the same checks, in the same order.
      rw [if_pos inside, if_pos inside, readByte_eq inside]
      dsimp only [bind, Except.bind]
      split_ifs
      all_goals first | rfl | exact ih (by omega)
    · rw [if_neg inside, if_neg inside]

theorem walkQuestionName_eq {fuel off nameLen : Nat} {labels : List Text}
    (enough : bytes.length ≤ off + fuel) :
    walkQuestionName bytes fuel off labels nameLen =
      .ok (questionName bytes fuel off labels nameLen) := by
  induction fuel generalizing off labels nameLen with
  | zero => exact if_neg (by omega)
  | succ fuel ih =>
    rw [walkQuestionName, questionName]
    by_cases inside : off < bytes.length
    · rw [if_pos inside, if_pos inside, readByte_eq inside]
      dsimp only [bind, Except.bind]
      by_cases fits : bytes.length < off + 1 + byteAt bytes off
      · split_ifs
        all_goals rfl
      · -- The label is only read where it is inside the message.
        rw [if_neg fits, if_neg fits, readLabel_eq (by omega)]
        split_ifs
        all_goals first | rfl | exact ih (by omega)
    · rw [if_neg inside, if_neg inside]

theorem walkQuestion_eq (bytes : Bytes) : walkQuestion bytes = .ok (dnsParseQuestion bytes) := by
  unfold walkQuestion dnsParseQuestion
  by_cases short : bytes.length < 12
  · rw [if_pos short, if_pos short]
  · rw [if_neg short, if_neg short, readWord_eq (by omega)]
    dsimp only [bind, Except.bind]
    split_ifs with single
    · rfl
    · rw [walkQuestionName_eq (by omega)]
      cases questionName bytes bytes.length 12 [] 0 with
      | none => rfl
      | some found =>
        dsimp only
        split_ifs with room
        · rfl
        · rw [readWord_eq (by omega), readWord_eq (by omega)]
          rfl

theorem walkQuestions_eq (count off : Nat) :
    walkQuestions bytes count off = .ok (dnsSkipQuestions bytes count off) := by
  induction count generalizing off with
  | zero => rfl
  | succ count ih =>
    rw [walkQuestions, dnsSkipQuestions, walkSkipName_eq (by omega)]
    dsimp only [bind, Except.bind]
    cases dnsSkipName bytes bytes.length off with
    | none => rfl
    | some behind =>
      dsimp only
      split_ifs
      · rfl
      · exact ih (behind + 4)

theorem walkRecords_eq (count off : Nat) (least : Option Nat) :
    walkRecords bytes count off least = .ok (leastTtl bytes count off least) := by
  induction count generalizing off least with
  | zero => rfl
  | succ count ih =>
    rw [walkRecords, leastTtl, walkSkipName_eq (by omega)]
    dsimp only [bind, Except.bind]
    cases dnsSkipName bytes bytes.length off with
    | none => rfl
    | some behind =>
      dsimp only
      by_cases short : bytes.length < behind + 10
      · rw [if_pos short, if_pos short]
        rfl
      · -- The fixed part is inside the message, so all its bytes can be read.
        rw [if_neg short, if_neg short, readByte_eq (by omega), readByte_eq (by omega),
          readByte_eq (by omega), readByte_eq (by omega), readWord_eq (by omega)]
        by_cases long : bytes.length < behind + 10 + wordAt bytes (behind + 8)
        · rw [if_pos long]
          exact if_pos long
        · rw [if_neg long]
          exact (if_neg long).trans (ih _ _)

theorem walkMinTtl_eq (bytes : Bytes) : walkMinTtl bytes = .ok (dnsMinTtl bytes) := by
  unfold walkMinTtl dnsMinTtl
  by_cases short : bytes.length < 12
  · rw [if_pos short, if_pos short]
  · rw [if_neg short, if_neg short, readWord_eq (by omega), readWord_eq (by omega),
      readWord_eq (by omega)]
    dsimp only [bind, Except.bind]
    rw [walkQuestions_eq]
    cases dnsSkipQuestions bytes (wordAt bytes 4) 12 with
    | none => rfl
    | some off => exact walkRecords_eq _ off none

theorem length_marks {len : Nat} (small : len < 256) :
    (len &&& 0xC0 = 0xC0 ↔ 192 ≤ len) ∧ (len &&& 0xC0 = 0 ↔ len < 64) := by
  have all : ∀ len : Fin 256, (len.val &&& 0xC0 = 0xC0 ↔ 192 ≤ len.val) ∧
      (len.val &&& 0xC0 = 0 ↔ len.val < 64) := by decide +kernel
  exact all ⟨len, small⟩

theorem dnsSkipName_eq_some_iff {fuel off behind : Nat} (enough : bytes.length ≤ off + fuel) :
    dnsSkipName bytes fuel off = some behind ↔ NameEnds bytes off behind := by
  induction fuel generalizing off with
  | zero =>
    have outside : ¬ NameEnds bytes off behind := by
      intro ends
      cases ends <;> omega
    simp [dnsSkipName, outside]
  | succ fuel ih =>
    obtain ⟨pointer, label⟩ := length_marks (byteAt_lt bytes off)
    rw [dnsSkipName]
    dsimp only
    constructor
    · intro ends
      obtain ⟨inside, ends⟩ := Option.ite_none_right_eq_some.mp ends
      split_ifs at ends with zero mark room some_ long
      · cases ends
        exact .root inside zero
      · cases ends
        exact .pointer (by omega) (pointer.mp mark)
      · exact .label inside (by omega) ((ih (by omega)).mp ends)
    · intro ends
      cases ends with
      | root inside zero => rw [if_pos inside, if_pos zero]
      | pointer inside mark =>
        rw [if_pos (by omega), if_neg (by omega), if_pos (pointer.mpr mark), if_neg (by omega)]
      | label inside fits rest =>
        rw [if_pos inside, if_neg (by omega), if_neg (by omega), if_neg (by omega),
          if_neg (by omega)]
        exact (ih (by omega)).mpr rest

theorem dnsSkipQuestions_eq_some_iff {count off last : Nat} :
    dnsSkipQuestions bytes count off = some last ↔ QuestionsEnd bytes count off last := by
  induction count generalizing off with
  | zero =>
    constructor
    · intro ends
      cases ends
      exact .none
    · intro ends
      cases ends
      rfl
  | succ count ih =>
    rw [dnsSkipQuestions]
    constructor
    · intro ends
      split at ends
      · contradiction
      · rename_i behind name
        obtain ⟨room, ends⟩ := Option.ite_none_left_eq_some.mp ends
        exact .next ((dnsSkipName_eq_some_iff (by omega)).mp name) (by omega) (ih.mp ends)
    · intro ends
      cases ends with
      | next name room rest =>
        rw [(dnsSkipName_eq_some_iff (by omega)).mpr name]
        exact (if_neg (by omega)).trans (ih.mpr rest)

theorem leastTtl_eq_some_iff {count off least : Nat} {known : Option Nat} :
    leastTtl bytes count off known = some least ↔
      ∃ ttls, RecordsAt bytes count off ttls ∧ (known.toList ++ ttls).min? = some least := by
  induction count generalizing off known with
  | zero =>
    constructor
    · intro ends
      cases ends
      exact ⟨[], .none, rfl⟩
    · rintro ⟨ttls, records, is⟩
      cases records
      cases known with
      | none => contradiction
      | some ttl => exact is
  | succ count ih =>
    have taken (ttl : Nat) (ttls : List Nat) :
        ((some (known.elim ttl (min ttl))).toList ++ ttls).min? =
          (known.toList ++ ttl :: ttls).min? := by
      cases known with
      | none => rfl
      | some first => exact congrArg (fun start => some (ttls.foldl min start)) (Nat.min_comm _ _)
    rw [leastTtl]
    constructor
    · intro ends
      split at ends
      · contradiction
      · rename_i behind name
        obtain ⟨-, ends⟩ := Option.ite_none_left_eq_some.mp ends
        obtain ⟨room, ends⟩ := Option.ite_none_left_eq_some.mp ends
        obtain ⟨ttls, records, is⟩ := ih.mp ends
        exact ⟨_, .next ((dnsSkipName_eq_some_iff (by omega)).mp name) (by omega) records,
          taken _ ttls ▸ is⟩
    · rintro ⟨ttls, records, is⟩
      cases records with
      | @next _ _ behind ttls name room rest =>
        rw [(dnsSkipName_eq_some_iff (by omega)).mpr name]
        refine (if_neg (by omega)).trans ((if_neg (by omega)).trans (ih.mpr ⟨ttls, rest, ?_⟩))
        exact (taken _ ttls).trans is

/--
The walks end without a read outside the message, and there is a least lifetime exactly if nothing
counted is broken off or malformed and there is a record.
-/
theorem dns_walks_exact (bytes : Bytes) :
    walkQuestion bytes = .ok (dnsParseQuestion bytes) ∧
      (∀ off, walkSkipName bytes bytes.length off = .ok (dnsSkipName bytes bytes.length off)) ∧
      walkMinTtl bytes = .ok (dnsMinTtl bytes) ∧
      ∀ least, dnsMinTtl bytes = some least ↔
        12 ≤ bytes.length ∧ ∃ off ttls, QuestionsEnd bytes (wordAt bytes 4) 12 off ∧
          RecordsAt bytes (wordAt bytes 6 + wordAt bytes 8) off ttls ∧
          ttls.min? = some least := by
  refine ⟨walkQuestion_eq bytes, fun off => walkSkipName_eq (by omega), walkMinTtl_eq bytes, ?_⟩
  intro least
  unfold dnsMinTtl
  rw [Option.ite_none_left_eq_some, Nat.not_lt]
  refine and_congr_right fun _ => ?_
  constructor
  · intro found
    split at found
    · contradiction
    · rename_i off questions
      obtain ⟨ttls, records, is⟩ := leastTtl_eq_some_iff.mp found
      exact ⟨off, ttls, dnsSkipQuestions_eq_some_iff.mp questions, records, is⟩
  · rintro ⟨off, ttls, questions, records, is⟩
    rw [dnsSkipQuestions_eq_some_iff.mpr questions]
    exact leastTtl_eq_some_iff.mpr ⟨ttls, records, is⟩

end Gvpn
