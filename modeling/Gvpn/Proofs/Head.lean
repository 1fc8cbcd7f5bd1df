import Gvpn.Proxy.Head

/-! Reading a request head from a stream that arrives in any pieces. -/

namespace Gvpn

def IsHead (head : Bytes) : Prop := ∃ front, cut headEnd head = some (front, [])

variable {head : Bytes}

theorem IsHead.eq_append {front : Bytes} (found : cut headEnd head = some (front, [])) :
    head = front ++ headEnd := by
  have whole := eq_append_of_cut found
  rwa [List.append_nil] at whole

theorem IsHead.ne_nil (isHead : IsHead head) : head ≠ [] := by
  obtain ⟨front, found⟩ := isHead
  rw [IsHead.eq_append found]
  simp [headEnd]

theorem checkHead_append (isHead : IsHead head) (extra : Bytes) :
    checkHead (head ++ extra) = some (.got head extra) := by
  have some_ := isHead.ne_nil
  obtain ⟨front, found⟩ := isHead
  have whole := IsHead.eq_append found
  simp only [checkHead, List.append_eq_nil_iff, some_, false_and, if_false, cut_append found,
    List.nil_append, ← whole]

theorem awaits_checkHead (isHead : IsHead head) :
    Segments.Awaits checkHead maxHeaderBytes head (.got head) .oversized where
  complete := checkHead_append isHead
  growing := by
    intro taken begins shorter
    obtain ⟨front, found⟩ := isHead
    unfold checkHead
    rw [cut_shorter begins shorter found]
    by_cases empty : taken = []
    · simp [empty]
    · rw [if_neg empty]

theorem readHttpHead_got {stream rest : Segments} {head payload read leftover : Bytes}
    (isHead : IsHead head) (bytes : stream.bytes = head ++ payload)
    (got : readHttpHead stream = .ok (.got read leftover, rest)) :
    read = head ∧ payload = leftover ++ rest.bytes ∧
      (leftover = [] ↔ ∃ count, (stream.readTimes headReadSize count).1 = head) := by
  rcases (awaits_checkHead isHead).readUntil (show 0 < headReadSize by decide) bytes with
    ⟨count, done, -⟩ | ⟨count, extra, done, takenIs, payloadIs, first⟩
  · simp [readHttpHead, done] at got
  · simp only [readHttpHead, done, Except.ok.injEq, Prod.mk.injEq, HeadReadResult.got.injEq] at got
    obtain ⟨⟨rfl, rfl⟩, rfl⟩ := got
    refine ⟨rfl, payloadIs, ?_⟩
    constructor
    · intro nothing
      exact ⟨count, by rw [takenIs, nothing, List.append_nil]⟩
    · rintro ⟨other, otherIs⟩
      have lengths := first other
      rw [otherIs] at lengths
      exact List.length_eq_zero_iff.mp (by omega)

theorem readHttpHead_of_small {stream : Segments} {payload : Bytes} (isHead : IsHead head)
    (small : head.length ≤ maxHeaderBytes) (bytes : stream.bytes = head ++ payload) :
    ∃ leftover rest, readHttpHead stream = .ok (.got head leftover, rest) ∧
      payload = leftover ++ rest.bytes := by
  rcases (awaits_checkHead isHead).readUntil (show 0 < headReadSize by decide) bytes with
    ⟨count, -, long, within⟩ | ⟨count, extra, done, -, payloadIs, -⟩
  · -- The limit is not passed before the head is complete.
    omega
  · exact ⟨extra, _, by simp [readHttpHead, done], payloadIs⟩

theorem readHttpHead_splits {stream rest : Segments} {payload : Bytes} (isHead : IsHead head)
    (small : head.length ≤ maxHeaderBytes) (splits : stream.Splits (head ++ payload) rest) :
    ∃ leftover left after, readHttpHead stream = .ok (.got head leftover, after) ∧
      leftover ++ left = payload ∧ after.Splits left rest := by
  have positive : 0 < headReadSize := by simp [headReadSize]
  have there : checkHead ([] ++ (head ++ payload)) ≠ none := by
    rw [List.nil_append, checkHead_append isHead]
    simp
  obtain ⟨taken, left, result, after, done, split, checked, behind⟩ :=
    splits.readUntil positive there
  rw [List.nil_append] at checked
  rcases Segments.taken_cases split with ⟨begins, shorter⟩ | ⟨extra, takenIs, payloadIs⟩
  · rw [(awaits_checkHead isHead).growing begins shorter, if_neg (by omega)] at checked
    cases checked
  · rw [takenIs, checkHead_append isHead, Option.some.injEq] at checked
    exact ⟨extra, left, after, by simp [readHttpHead, done, ← checked], payloadIs.symm, behind⟩

end Gvpn
