import Gvpn.Fronter.Download
import Gvpn.Proofs.Streaming

namespace Gvpn

open List

def Truthful (entity raw : Bytes) : Prop :=
  ∀ headers body range, splitResponse raw = some (206, headers, body) →
    parseContentRange headers = some range →
      range.total = entity.length ∧ body = slice entity (range.start, range.last)

theorem Truthful.faithful {entity raw : Bytes} (truthful : Truthful entity raw) :
    Faithful entity raw :=
  fun headers body range split named _ _ => (truthful headers body range split named).2

theorem truthful_partialAnswer {entity : Bytes} {start last : Nat} (ordered : start ≤ last)
    (inside : last < entity.length) (small : entity.length < 2 ^ 64) :
    Truthful entity (partialAnswer entity start last) := by
  obtain ⟨fields, split, named, -⟩ := split_partialAnswer ordered inside small
  intro headers body range other otherNamed
  rw [split] at other
  cases other
  rw [named] at otherNamed
  cases otherNamed
  exact ⟨rfl, rfl⟩

def AsksForRange (asked : RelayRequest) : Prop :=
  (headerGet asked.headers (lit "range")).isSome = true

theorem asksForRange_append {method url : Text} {headers : List (Text × Text)} {body : Bytes}
    (start last : Nat) : AsksForRange ⟨method, url, headers ++ [rangeField start last], body⟩ := by
  have named : eqIgnoreCase (rangeField start last).1 (lit "range") = true := by
    have name : eqIgnoreCase (lit "Range") (lit "range") = true := by decide +kernel
    exact name
  unfold AsksForRange headerGet
  rw [Option.isSome_map, find?_isSome]
  exact ⟨_, mem_append_right _ mem_cons_self, named⟩

theorem asksForRange_probeRequest (request : RelayRequest) : AsksForRange (probeRequest request) :=
  asksForRange_append 0 (rangeParallelChunkBytes - 1)

theorem asksForRange_chunkRequest (url : Text) (headers : List (Text × Text))
    (range : Nat × Nat) : AsksForRange (chunkRequest url headers range) :=
  asksForRange_append range.1 range.2

theorem write_assembleFull200 {headers : List (Text × Text)}
    (clean : ∀ field ∈ headers, CleanField field) (transformHead : Bytes → Bytes) (body : Bytes) :
    writeResponseWithHeadTransform transformHead (assembleFull200 headers body) =
      ⟨[transformHead (assemble200Head headers body.length), body], .ok ()⟩ := by
  obtain ⟨-, front, found, whole⟩ := assemble200Head_split clean body.length body
  simp only [writeResponseWithHeadTransform, assembleFull200, found, whole]

def RangeReply.FromPartial : RangeReply → Prop
  | .assembled _ => True
  | .streamed _ _ _ _ => True
  | _ => False

def DeliversEntity (entity : Bytes) (transformHead : Bytes → Bytes) (written : Written) : Prop :=
  ∃ fields rest,
    written.writes = transformHead (assemble200Head fields entity.length) :: rest ∧
      match written.result with
      | .ok () => rest.flatten = entity
      | .error _ => rest.flatten <+: entity ∧ rest.flatten ≠ entity

def ShortOfSmallEntity (raw : Bytes) : Prop :=
  ∃ headers body range, splitResponse raw = some (206, headers, body) ∧
    parseContentRange headers = some range ∧ range.start = 0 ∧
    range.total ≤ rangeParallelChunkBytes ∧ range.last + 1 < range.total

section

variable {answers : RelayRequest → Bytes} {request : RelayRequest} {entity : Bytes}
  {headers : List (Text × Text)} {body : Bytes} {range : ContentRange}

theorem parallelRangeReply_rangeless (get : request.method = lit "GET")
    (empty : request.body = []) (rangeless : headerGet request.headers (lit "range") = none)
    (streamingAllowed : Bool) :
    parallelRangeReply answers request streamingAllowed =
      probedReply answers request streamingAllowed := by
  simp [parallelRangeReply, get, empty, rangeless]

theorem probedReply_of_short (truthful : Truthful entity (answers (probeRequest request)))
    (split : splitResponse (answers (probeRequest request)) = some (206, headers, body))
    (named : parseContentRange headers = some range) (start : range.start = 0)
    (small : range.total ≤ rangeParallelChunkBytes) (short : range.last + 1 < range.total) :
    probedReply answers request true = .assembled (assembleFull200 headers body) := by
  obtain ⟨sized, part⟩ := truthful headers body range split named
  have ordered := (contentRange_inside named).1
  have matched : contentRangeMatchesBody range body.length = true := by
    rw [contentRangeMatchesBody_iff ordered, part, slice_length (by simp only; omega)]
  have accepted : validateProbeRange 206 headers body (rangeParallelChunkBytes - 1) =
      some range := by
    have fits : ¬ (range.start ≠ 0 ∨ rangeParallelChunkBytes - 1 < range.last) := by omega
    simp only [validateProbeRange, named, ne_eq, not_true_eq_false, if_false, matched, true_or,
      if_true]
    rw [if_neg fits]
  simp only [probedReply, split, ne_eq, not_true_eq_false, if_false, accepted, small, true_or,
    if_true, rewrite206To200]

theorem remainderReply_delivers (truthful : ∀ asked, AsksForRange asked →
      Truthful entity (answers asked)) (clean : ∀ field ∈ headers, CleanField field)
    (named : parseContentRange headers = some range) (start : range.start = 0)
    (sized : range.total = entity.length)
    (part : body = slice entity (range.start, range.last)) (transformHead : Bytes → Bytes)
    (made : (remainderReply answers request headers body range true).FromPartial) :
    DeliversEntity entity transformHead
      ((remainderReply answers request headers body range true).write transformHead) := by
  obtain ⟨ordered, inside, fits⟩ := contentRange_inside named
  have faithful : ∀ planned ∈ planRemainingRanges range.last entity.length
      rangeParallelChunkBytes,
      Faithful entity (answers (chunkRequest request.url request.headers planned)) :=
    fun planned _ => (truthful _ (asksForRange_chunkRequest _ _ planned)).faithful
  revert made
  unfold remainderReply
  dsimp only
  rw [sized]
  split
  · -- The head is written first, and what follows it is the entity or stops short of it.
    intro _
    have outcome := streamed_body ordered (sized ▸ inside) (sized ▸ fits) part faithful
    rw [start, drop_zero] at outcome
    refine ⟨headers, _, rfl, ?_⟩
    simp only [RangeReply.write, streamRangeResponseTo, streamChunksToWriter, flatten_cons]
    rcases outcome with ⟨ended, -, whole⟩ | ⟨reason, stopped, begins, short⟩
    · simp only [ended]
      exact whole
    · simp only [stopped]
      exact ⟨begins, short⟩
  · exact False.elim
  · exact False.elim
  · unfold stitchedReply
    split
    · exact False.elim
    · rename_i rest stitched
      split
      · intro _
        obtain ⟨chunks, usable, rfl⟩ := stitchChunks_eq_some stitched
        have covers := planRemainingRanges_consecutive
          (show 0 < rangeParallelChunkBytes by decide) (sized ▸ fits) (sized ▸ inside)
        have whole : body ++ chunks.flatten = entity := by
          rw [chunks_eq_slices faithful usable.symm, covers.flatten_slices,
            take_of_length_le (by rw [length_drop]), part, start]
          exact take_append_drop _ entity
        rw [RangeReply.write, whole, write_assembleFull200 clean]
        exact ⟨headers, [entity], rfl, by simp⟩
      · exact False.elim

end

theorem relayParallelRangeTo_complete_iff (answers : RelayRequest → Bytes)
    (request : RelayRequest) (transformHead : Bytes → Bytes) (entity : Bytes)
    (get : request.method = lit "GET") (rangeless : headerGet request.headers (lit "range") = none)
    (truthful : ∀ asked, AsksForRange asked → Truthful entity (answers asked)) :
    ((parallelRangeReply answers request true).FromPartial →
      DeliversEntity entity transformHead (relayParallelRangeTo answers request transformHead)) ↔
    (request.body ≠ [] ∨ ¬ ShortOfSmallEntity (answers (probeRequest request))) := by
  have probeTruthful := truthful _ (asksForRange_probeRequest request)
  by_cases empty : request.body = []
  · have reply := @parallelRangeReply_rangeless answers request get empty rangeless true
    simp only [relayParallelRangeTo, reply, empty, ne_eq, not_true_eq_false, false_or]
    constructor
    · rintro delivers ⟨headers, body, range, split, named, start, small, short⟩
      rw [probedReply_of_short probeTruthful split named start small short] at delivers
      obtain ⟨fields, rest, writes, whole⟩ := delivers trivial
      rw [RangeReply.write, write_assembleFull200 (splitResponse_clean split)] at writes whole
      obtain ⟨sized, part⟩ := probeTruthful headers body range split named
      rw [cons.injEq] at writes
      rw [← writes.2] at whole
      have lengths := congrArg List.length whole
      rw [flatten_singleton, part, slice_length (by simp only; omega), start] at lengths
      omega
    · intro long
      unfold probedReply
      dsimp only
      split
      · exact False.elim
      · rename_i status headers body split
        split
        · exact False.elim
        · obtain rfl : status = 206 := by omega
          have clean := splitResponse_clean split
          split
          · exact False.elim
          · rename_i range accepted
            obtain ⟨named, start, -⟩ := validateProbeRange_eq_some accepted
            obtain ⟨sized, part⟩ := probeTruthful headers body range split named
            have inside := (contentRange_inside named).2.1
            split
            · -- The probe holds everything, since it is not short of a small entity.
              have reaches : range.last + 1 = range.total := by
                by_contra misses
                exact long ⟨headers, body, range, split, named, start, by omega, by omega⟩
              have whole : body = entity := by
                rw [part, slice, start, drop_zero, take_of_length_le (by omega)]
              intro _
              simp only [RangeReply.write, rewrite206To200, split, whole,
                write_assembleFull200 clean]
              exact ⟨headers, [entity], rfl, by simp⟩
            · exact remainderReply_delivers truthful clean named start sized part transformHead
  · have reply : parallelRangeReply answers request true = .passed (answers request) := by
      simp [parallelRangeReply, empty]
    simp [reply, RangeReply.FromPartial, empty]

def fileRequest (headers : List (Text × Text)) : RelayRequest :=
  { method := lit "GET", url := lit "https://files.example/notes.txt", headers := headers, body := [] }

theorem relayParallelRangeTo_complete_three :
    ((parallelRangeReply (fun _ => partialAnswer [97, 98, 99] 0 2) (fileRequest []) true).FromPartial →
      DeliversEntity [97, 98, 99] id (relayParallelRangeTo (fun _ => partialAnswer [97, 98, 99] 0 2)
        (fileRequest []) id)) ↔
    ((fileRequest []).body ≠ [] ∨ ¬ ShortOfSmallEntity (partialAnswer [97, 98, 99] 0 2)) :=
  relayParallelRangeTo_complete_iff _ _ _ _ rfl rfl
    fun _ _ => truthful_partialAnswer (by omega) (by decide) (by decide)

theorem relayParallelRangeTo_truncates :
    (∀ asked, AsksForRange asked →
      Truthful [97, 98, 99] ((fun _ => partialAnswer [97, 98, 99] 0 0) asked)) ∧
    ∃ fields, parallelRangeReply (fun _ => partialAnswer [97, 98, 99] 0 0) (fileRequest []) true =
        .assembled (assembleFull200 fields [97]) ∧
      relayParallelRangeTo (fun _ => partialAnswer [97, 98, 99] 0 0) (fileRequest []) id =
        ⟨[assemble200Head fields 1, [97]], .ok ()⟩ ∧
      ¬ DeliversEntity [97, 98, 99] id (relayParallelRangeTo
        (fun _ => partialAnswer [97, 98, 99] 0 0) (fileRequest []) id) := by
  have truthful : Truthful [97, 98, 99] (partialAnswer [97, 98, 99] 0 0) :=
    truthful_partialAnswer (by omega) (by decide) (by decide)
  obtain ⟨fields, split, named, -⟩ :=
    @split_partialAnswer [97, 98, 99] 0 0 (by omega) (by decide) (by decide)
  have reply : parallelRangeReply (fun _ => partialAnswer [97, 98, 99] 0 0) (fileRequest []) true =
      .assembled (assembleFull200 fields [97]) := by
    rw [parallelRangeReply_rangeless rfl rfl rfl]
    exact @probedReply_of_short (fun _ => partialAnswer [97, 98, 99] 0 0) (fileRequest []) _ _ _ _
      truthful split named rfl (by decide) (by decide)
  have written : relayParallelRangeTo (fun _ => partialAnswer [97, 98, 99] 0 0) (fileRequest [])
      id = ⟨[assemble200Head fields 1, [97]], .ok ()⟩ := by
    rw [relayParallelRangeTo, reply]
    exact write_assembleFull200 (splitResponse_clean split) id [97]
  refine ⟨fun _ _ => truthful, fields, reply, written, ?_⟩
  rw [written]
  rintro ⟨others, rest, writes, whole⟩
  rw [cons.injEq] at writes
  rw [← writes.2] at whole
  simp at whole

end Gvpn
