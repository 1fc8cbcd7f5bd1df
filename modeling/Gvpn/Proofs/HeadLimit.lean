import Gvpn.Proofs.Head

/-! Which heads are refused as too long, by how their bytes arrive. -/

namespace Gvpn

open List Option

inductive HeadVerdict where
  | taken (head : Bytes)
  | refused
  | unfinished
  deriving DecidableEq

def headVerdict : Except IoError (HeadReadResult × Segments) → HeadVerdict
  | .ok (.got head _, _) => .taken head
  | .ok (.oversized, _) => .refused
  | .ok (.closed, _) => .unfinished
  | .error _ => .unfinished

def deservedVerdict (bytes : Bytes) : HeadVerdict :=
  match cut headEnd bytes with
  | some (front, _) =>
    if (front ++ headEnd).length ≤ maxHeaderBytes then .taken (front ++ headEnd) else .refused
  | none => if maxHeaderBytes < bytes.length then .refused else .unfinished

theorem readHttpHeadIo_eq (stream : Segments) : readHttpHeadIo stream = readHttpHead stream := rfl

def EndsWithin (stream : Segments) (head : Bytes) : Prop :=
  ∃ count, maxHeaderBytes < (stream.readTimes headReadSize count).1.length ∧
    (stream.readTimes headReadSize count).1.length < head.length

theorem checkHead_of_long {buffer : Bytes} (long : maxHeaderBytes < buffer.length) :
    checkHead buffer ≠ none := by
  have some_ : buffer ≠ [] := by
    rintro rfl
    simp at long
  unfold checkHead
  rw [if_neg some_]
  split
  · simp
  · simp [long]

variable {stream : Segments} {head payload : Bytes}

theorem headVerdict_of_head (isHead : IsHead head) (bytes : stream.bytes = head ++ payload) :
    (headVerdict (readHttpHead stream) = .refused ∧ EndsWithin stream head) ∨
      (headVerdict (readHttpHead stream) = .taken head ∧ ¬ EndsWithin stream head) := by
  rcases (awaits_checkHead isHead).readUntil (show 0 < headReadSize by decide) bytes with
    ⟨count, done, long, within⟩ | ⟨count, extra, done, takenIs, -, first⟩
  · exact .inl ⟨by simp [readHttpHead, done, headVerdict], count, long, within⟩
  · refine .inr ⟨by simp [readHttpHead, done, headVerdict], ?_⟩
    rintro ⟨other, long, within⟩
    have lengths := first other
    omega

theorem headVerdict_taken (isHead : IsHead head)
    (small : head.length ≤ maxHeaderBytes + 1) (bytes : stream.bytes = head ++ payload) :
    headVerdict (readHttpHead stream) = .taken head := by
  rcases headVerdict_of_head isHead bytes with ⟨-, count, beyond, within⟩ | ⟨taken, -⟩
  · -- No read ends between the limit and the byte behind it.
    omega
  · exact taken

theorem isHead_of_cut {bytes front after : Bytes} (found : cut headEnd bytes = some (front, after)) :
    IsHead (front ++ headEnd) := by
  obtain ⟨first, rest, cutThere, -⟩ := exists_cut_of_eq_append
    (show front ++ headEnd = front ++ headEnd ++ [] by simp)
  have whole := cut_append cutThere after
  rw [← eq_append_of_cut found, found, some.injEq, Prod.mk.injEq] at whole
  have nothing : rest = [] := List.append_left_eq_self.mp whole.2.symm
  exact ⟨first, by rw [cutThere, nothing]⟩

theorem headVerdict_headless (headless : cut headEnd stream.bytes = none) :
    headVerdict (readHttpHead stream) =
      if maxHeaderBytes < stream.bytes.length then .refused else .unfinished := by
  have positive : 0 < headReadSize := by simp [headReadSize]
  cases pumped : stream.readUntil headReadSize (· ++ ·) checkHead [] with
  | done result rest =>
    obtain ⟨count, -, checked, -⟩ := Segments.readUntil_done positive pumped
    rw [nil_append] at checked
    have split := Segments.readTimes_bytes positive count stream
    unfold checkHead at checked
    split at checked
    · simp at checked
    · cases found : cut headEnd (stream.readTimes headReadSize count).1 with
      | some parts =>
        have whole := cut_append found (stream.readTimes headReadSize count).2.bytes
        rw [← split, headless] at whole
        simp at whole
      | none =>
        simp only [found, ite_none_right_eq_some, some.injEq] at checked
        have lengths := congrArg List.length split
        rw [length_append] at lengths
        have long : maxHeaderBytes < stream.bytes.length := by omega
        simp [readHttpHead, pumped, ← checked.2, headVerdict, long]
  | ended collected =>
    obtain ⟨collectedIs, unknown⟩ := Segments.readUntil_ended positive pumped
    subst collectedIs
    have short : ¬ maxHeaderBytes < stream.bytes.length := fun long =>
      checkHead_of_long long unknown
    rw [if_neg short, readHttpHead, pumped]
    cases stream.bytes <;> rfl

def arrivingAtOnce (head payload : Bytes) (long : maxHeaderBytes < head.length) : Segments where
  chunks := head.take maxHeaderBytes :: head.drop maxHeaderBytes ::
    if payload = [] then [] else [payload]
  solid := by
    have limit : 0 < maxHeaderBytes := by simp [maxHeaderBytes]
    intro chunk member
    rw [mem_cons, mem_cons] at member
    rcases member with rfl | rfl | later
    · rw [ne_eq, take_eq_nil_iff, not_or]
      exact ⟨by omega, by rintro rfl; simp at long⟩
    · rw [ne_eq, drop_eq_nil_iff]
      omega
    · split at later
      · simp at later
      · rename_i some_
        rw [List.mem_singleton.mp later]
        exact some_

theorem bytes_arrivingAtOnce (long : maxHeaderBytes < head.length) :
    (arrivingAtOnce head payload long).bytes = head ++ payload := by
  by_cases nothing : payload = []
  · simp [Segments.bytes, arrivingAtOnce, nothing]
  · simp [Segments.bytes, arrivingAtOnce, nothing, ← append_assoc]

theorem not_endsWithin_arrivingAtOnce (long : maxHeaderBytes < head.length)
    (fits : head.length ≤ maxHeaderBytes + headReadSize) :
    ¬ EndsWithin (arrivingAtOnce head payload long) head := by
  rintro ⟨count, beyond, within⟩
  have solid := (arrivingAtOnce head payload long).solid
  have cases_ := @Segments.readTimes_cons headReadSize _ _ solid
    (fun chunk member => solid chunk (mem_cons_of_mem _ member)) count
  change (Segments.readTimes headReadSize count (arrivingAtOnce head payload long)).1 <+: _ ∨
    ∃ further, (Segments.readTimes headReadSize count (arrivingAtOnce head payload long)).1 = _
    at cases_
  rcases cases_ with inside | ⟨further, takenIs⟩
  · have lengths := inside.length_le
    rw [length_take] at lengths
    omega
  · rw [takenIs, length_append, length_take] at beyond within
    cases further with
    | zero =>
      simp only [Segments.readTimes, length_nil] at beyond
      omega
    | succ further =>
      have oneRead : (head.drop maxHeaderBytes).length ≤ headReadSize := by
        rw [length_drop]
        omega
      have opens := Segments.isPrefix_readTimes_succ
        (fun chunk member => solid chunk (mem_cons_of_mem _ member)) oneRead further
      have lengths := opens.length_le
      rw [length_drop] at lengths
      omega

/--
How a head arrives does not matter, exactly unless it is longer than the limit by at most one read.
-/
theorem head_acceptance_iff (bytes : Bytes) :
    (∀ stream : Segments, stream.bytes = bytes →
        headVerdict (readHttpHead stream) = deservedVerdict bytes ∧
          headVerdict (readHttpHeadIo stream) = deservedVerdict bytes) ↔
      ∀ front after, cut headEnd bytes = some (front, after) →
        (front ++ headEnd).length ≤ maxHeaderBytes ∨
          maxHeaderBytes + headReadSize < (front ++ headEnd).length := by
  have positive : 0 < headReadSize := by simp [headReadSize]
  constructor
  · intro deserved front after found
    by_contra between
    rw [not_or, Nat.not_le, Nat.not_lt] at between
    obtain ⟨long, fits⟩ := between
    have whole := eq_append_of_cut found
    have bytesAre : (arrivingAtOnce (front ++ headEnd) after long).bytes = bytes := by
      rw [bytes_arrivingAtOnce long, whole]
    have verdict := (deserved _ bytesAre).1
    have short : ¬ (front ++ headEnd).length ≤ maxHeaderBytes := by omega
    rw [deservedVerdict, found] at verdict
    simp only [short, if_false] at verdict
    rcases headVerdict_of_head (isHead_of_cut found) (bytesAre.trans whole) with
      ⟨-, within⟩ | ⟨taken, -⟩
    · exact not_endsWithin_arrivingAtOnce long fits within
    · rw [taken] at verdict
      simp at verdict
  · intro clear stream bytesAre
    rw [readHttpHeadIo_eq, and_self, deservedVerdict]
    cases found : cut headEnd bytes with
    | none =>
      rw [← bytesAre] at found
      rw [headVerdict_headless found, bytesAre]
    | some parts =>
      obtain ⟨front, after⟩ := parts
      have whole := eq_append_of_cut found
      have streamIs : stream.bytes = front ++ headEnd ++ after := bytesAre.trans whole
      rcases headVerdict_of_head (isHead_of_cut found) streamIs with
        ⟨refused, count, beyond, within⟩ | ⟨taken, through⟩
      · -- Only a head beyond the limit is refused.
        have long : ¬ (front ++ headEnd).length ≤ maxHeaderBytes := by omega
        simp only [refused, long, if_false]
      · rcases clear front after found with small | large
        · simp only [taken, small, if_true]
        · -- Some read ends within one more buffer than the limit.
          have inside : maxHeaderBytes < stream.bytes.length := by
            rw [streamIs, length_append]
            omega
          obtain ⟨count, beyond, close⟩ := Segments.exists_readTimes positive inside
          exact absurd ⟨count, beyond, by omega⟩ through

def arrivingInTwo (bytes : Bytes) (long : maxHeaderBytes + 1 < bytes.length) : Segments where
  chunks := [bytes.take (maxHeaderBytes + 1), bytes.drop (maxHeaderBytes + 1)]
  solid := by
    intro chunk member
    rw [← length_pos_iff]
    rcases List.mem_pair.mp member with first | second
    · rw [first, length_take]
      omega
    · rw [second, length_drop]
      omega

theorem bytes_arrivingInTwo {bytes : Bytes} (long : maxHeaderBytes + 1 < bytes.length) :
    (arrivingInTwo bytes long).bytes = bytes := by
  simp [Segments.bytes, arrivingInTwo]

theorem headVerdict_arrivingInTwo (isHead : IsHead head)
    (longHead : maxHeaderBytes + 1 < head.length)
    (long : maxHeaderBytes + 1 < (head ++ payload).length) :
    headVerdict (readHttpHead (arrivingInTwo (head ++ payload) long)) = .refused := by
  have positive : 0 < headReadSize := by simp [headReadSize]
  obtain ⟨count, takenIs⟩ : ∃ count,
      ((arrivingInTwo (head ++ payload) long).readTimes headReadSize count).1 =
        (head ++ payload).take (maxHeaderBytes + 1) :=
    Segments.exists_readTimes_first positive (arrivingInTwo (head ++ payload) long).solid
  have within : EndsWithin (arrivingInTwo (head ++ payload) long) head := by
    refine ⟨count, ?_⟩
    rw [takenIs, length_take]
    omega
  rcases headVerdict_of_head isHead (bytes_arrivingInTwo long) with ⟨refused, -⟩ | ⟨-, through⟩
  · exact refused
  · exact absurd within through

def plainHead (size : Nat) : Bytes := List.replicate size 65 ++ headEnd

theorem cut_plainHead (size : Nat) :
    cut headEnd (plainHead size) = some (List.replicate size 65, []) := by
  have free : (13 : UInt8) ∉ List.replicate size (65 : UInt8) := by
    rw [mem_replicate]
    rintro ⟨-, same⟩
    exact absurd same (by decide)
  have here : cut headEnd headEnd = some ([], []) := by decide
  rw [plainHead, headEnd, cut_skip free, ← headEnd, here]
  simp

theorem length_plainHead (size : Nat) : (plainHead size).length = size + 4 := by
  simp [plainHead, headEnd]

theorem long_head_taken_or_refused :
    ∃ once twice : Segments, once.bytes = plainHead maxHeaderBytes ∧
      twice.bytes = plainHead maxHeaderBytes ∧
      headVerdict (readHttpHead once) = .taken (plainHead maxHeaderBytes) ∧
      headVerdict (readHttpHead twice) = .refused := by
  have isHead : IsHead (plainHead maxHeaderBytes) := ⟨_, cut_plainHead maxHeaderBytes⟩
  have length := length_plainHead maxHeaderBytes
  have size : 4 ≤ headReadSize := by simp [headReadSize]
  have long : maxHeaderBytes < (plainHead maxHeaderBytes).length := by omega
  have longer : maxHeaderBytes + 1 < (plainHead maxHeaderBytes ++ []).length := by
    rw [append_nil]
    omega
  have once := @bytes_arrivingAtOnce (plainHead maxHeaderBytes) [] long
  have twice := bytes_arrivingInTwo longer
  refine ⟨arrivingAtOnce (plainHead maxHeaderBytes) [] long, arrivingInTwo _ longer, ?_, ?_, ?_, ?_⟩
  · rw [once, append_nil]
  · rw [twice, append_nil]
  · rcases headVerdict_of_head isHead once with ⟨-, within⟩ | ⟨taken, -⟩
    · exact absurd within (not_endsWithin_arrivingAtOnce long (by omega))
    · exact taken
  · exact headVerdict_arrivingInTwo isHead (by omega) longer

end Gvpn
