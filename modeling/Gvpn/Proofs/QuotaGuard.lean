import Gvpn.Proofs.RangePlan
import Gvpn.Proofs.Resume

/-! How many bytes are asked for in chunks on behalf of one request. -/

namespace Gvpn

open List Option

def requestedBytes (ranges : List (Nat × Nat)) : Nat :=
  (ranges.map fun range => range.2 + 1 - range.1).sum

variable {total : Nat}

theorem requestedBytes_plan {probeEnd : Nat} (inside : probeEnd < total) (fits : total ≤ u64Max) :
    requestedBytes (planRemainingRanges probeEnd total rangeParallelChunkBytes) =
      total - (probeEnd + 1) :=
  (planRemainingRanges_consecutive (by decide) fits inside).sum_lengths

theorem requestedBytes_streamedRanges_le (ranges : List (Nat × Nat))
    (fetches : List (Except Text Bytes)) :
    requestedBytes (streamedRanges ranges fetches) ≤ requestedBytes ranges := by
  unfold requestedBytes streamedRanges
  have parts := congrArg (fun all => (all.map fun range : Nat × Nat => range.2 + 1 - range.1).sum)
    (take_append_drop (fetches.findIdx (fun fetch => !fetch.isOk) + maxParallel) ranges)
  simp only [map_append, sum_append] at parts
  omega

section

variable (answers : RelayRequest → Bytes) (request : RelayRequest)

theorem requestedBytes_probedRanges_le :
    requestedBytes (probedRanges answers request true) ≤ maxStreamedRangeBytes := by
  unfold probedRanges
  split
  · exact Nat.zero_le _
  · rename_i status headers body _
    split
    · exact Nat.zero_le _
    · rename_i range accepted
      split
      · exact Nat.zero_le _
      · have partly : status = 206 := by
          by_contra other
          simp [validateProbeRange, other] at accepted
        rw [partly] at accepted
        obtain ⟨named, -⟩ := validateProbeRange_eq_some accepted
        obtain ⟨-, inside, fits⟩ := contentRange_inside named
        have planned := requestedBytes_plan inside fits
        have fewer := requestedBytes_streamedRanges_le
          (planRemainingRanges range.last range.total rangeParallelChunkBytes)
          (fetchChunksStream answers request.url request.headers
            (planRemainingRanges range.last range.total rangeParallelChunkBytes) range.total)
        by_cases large : maxStreamedRangeBytes < range.total
        · simp [dispatchRangeResponse, large, requestedBytes]
        · simp only
          split
          · omega
          · omega
          · exact Nat.zero_le _
          · exact Nat.zero_le _

theorem requestedBytes_resumedRanges_le (start : Nat) :
    requestedBytes (resumedRanges answers request start) ≤ u64Max - (start + 1) := by
  unfold resumedRanges
  split
  · exact Nat.zero_le _
  · rename_i status headers body _
    split
    · exact Nat.zero_le _
    · rename_i range accepted
      split
      · exact Nat.zero_le _
      · have partly : status = 206 := by
          by_contra other
          simp [validateProbeRangeAtOffset, other] at accepted
        rw [partly] at accepted
        obtain ⟨named, starts, -⟩ := validateProbeRangeAtOffset_eq_some accepted
        obtain ⟨ordered, inside, fits⟩ := contentRange_inside named
        have planned := requestedBytes_plan inside fits
        refine (requestedBytes_streamedRanges_le _ _).trans ?_
        omega

end

theorem nextRange_of_mem_planFrom {chunkSize : Nat} {range : Nat × Nat} (count : Nat) :
    ∀ {start : Nat}, range ∈ planFrom total chunkSize count start →
      nextRange total chunkSize range.1 = some range := by
  induction count with
  | zero =>
    intro start member
    simp [planFrom] at member
  | succ count ih =>
    intro start member
    rw [planFrom] at member
    cases next : nextRange total chunkSize start with
    | none => simp [next] at member
    | some first =>
      rw [next] at member
      rcases List.mem_cons.mp member with rfl | later
      · have here : range.1 = start := by
          unfold nextRange at next
          split at next
          · cases next
          · cases next
            rfl
        rw [here, next]
      · exact ih later

theorem mem_planRemainingRanges {probeEnd : Nat} (inside : probeEnd < total)
    (fits : total ≤ u64Max) {range : Nat × Nat}
    (planned : range ∈ planRemainingRanges probeEnd total rangeParallelChunkBytes) :
    probeEnd < range.1 ∧ range.1 < total ∧
      range.2 = min (range.1 + rangeParallelChunkBytes - 1) (total - 1) := by
  have covers := planRemainingRanges_consecutive (show 0 < rangeParallelChunkBytes by decide) fits
    inside
  have next := nextRange_of_mem_planFrom _ planned
  have started : range.1 < total := by
    by_contra beyond
    simp [nextRange, Nat.le_of_not_lt beyond] at next
  rw [nextRange_eq fits started, some.injEq] at next
  have last := congrArg Prod.snd next
  simp only [plannedRange, Nat.zero_add, Nat.one_mul] at last
  have first := (covers.mem_iff range.1).mp ⟨range, planned, Nat.le_refl _, by
    unfold rangeParallelChunkBytes at last
    omega⟩
  exact ⟨first.1, started, last.symm⟩

theorem extractExactRangeBody_partialAnswer {entity : Bytes} {start last : Nat}
    (ordered : start ≤ last) (inside : last < entity.length) (small : entity.length < 2 ^ 64) :
    extractExactRangeBody (partialAnswer entity start last) start last entity.length =
      .ok (slice entity (start, last)) := by
  obtain ⟨fields, split, named, -⟩ := split_partialAnswer ordered inside small
  have long : contentRangeMatchesBody ⟨start, last, entity.length⟩
      (slice entity (start, last)).length = true :=
    (contentRangeMatchesBody_iff ordered).mpr (slice_length inside)
  simp [extractExactRangeBody, split, named, long]

def drainingEnd (length start first : Nat) : Nat :=
  if first = start then first else min (first + rangeParallelChunkBytes - 1) (length - 1)

def drainingOrigin (entity : Bytes) (start : Nat) (asked : RelayRequest) : Bytes :=
  match asked.headers.getLast?.bind fun field => parseRangeStart field.2 with
  | some first => partialAnswer entity first (drainingEnd entity.length start first)
  | none => []

section

variable {entity : Bytes} {start : Nat}

theorem drainingOrigin_asked {method url : Text} {headers : List (Text × Text)} {body : Bytes}
    {first last : Nat} (small : first < 2 ^ 64) :
    drainingOrigin entity start ⟨method, url, headers ++ [rangeField first last], body⟩ =
      partialAnswer entity first (drainingEnd entity.length start first) := by
  have read := ByteRange.parseRangeStart_value ⟨decimal first, decimal last, decimal_ne_nil first,
    all_isDigit_decimal first, all_isDigit_decimal last⟩
  simp only [ByteRange.start, readDigits_decimal, small, if_true, ByteRange.value] at read
  simp only [drainingOrigin, rangeField, getLast?_concat, bind_some, read]

theorem requestedBytes_draining (request : RelayRequest) (small : entity.length ≤ u64Max)
    (behind : start + 1 < entity.length) (room : start + rangeParallelChunkBytes < 2 ^ 64) :
    requestedBytes (resumedRanges (drainingOrigin entity start) request start) =
      entity.length - (start + 1) := by
  have below : entity.length < 2 ^ 64 := by
    unfold u64Max at small
    omega
  -- The probe is answered with a single byte.
  have probe : drainingOrigin entity start (offsetProbeRequest request start) =
      partialAnswer entity start start := by
    rw [offsetProbeRequest, drainingOrigin_asked (by omega), drainingEnd, if_pos rfl]
  obtain ⟨fields, split, named, -⟩ :=
    @split_partialAnswer entity start start (Nat.le_refl start) (by omega) below
  have long : contentRangeMatchesBody ⟨start, start, entity.length⟩
      (slice entity (start, start)).length = true :=
    (contentRangeMatchesBody_iff (Nat.le_refl _)).mpr (slice_length (by simp only; omega))
  have ends : start ≤ offsetProbeEnd start := by
    unfold offsetProbeEnd u64Max rangeParallelChunkBytes at *
    omega
  have accepted : validateProbeRangeAtOffset 206 fields (slice entity (start, start)) start
      (offsetProbeEnd start) = some ⟨start, start, entity.length⟩ := by
    simp [validateProbeRangeAtOffset, named, long, ends]
  have used : ∀ fetch ∈ fetchChunksStream (drainingOrigin entity start) request.url
      (withoutRange request.headers)
      (planRemainingRanges start entity.length rangeParallelChunkBytes) entity.length,
      fetch.isOk = true := by
    intro fetch member
    obtain ⟨range, planned, rfl⟩ := List.mem_map.mp member
    obtain ⟨later, inside, last⟩ :=
      mem_planRemainingRanges (show start < entity.length by omega) small planned
    have shape : drainingEnd entity.length start range.1 = range.2 := by
      rw [drainingEnd, if_neg (by omega), last]
    have size : 0 < rangeParallelChunkBytes := by decide
    rw [chunkRequest, drainingOrigin_asked (by omega), shape,
      extractExactRangeBody_partialAnswer (by omega) (by omega) below]
    rfl
  have whole : streamedRanges (planRemainingRanges start entity.length rangeParallelChunkBytes)
      (fetchChunksStream (drainingOrigin entity start) request.url
        (withoutRange request.headers)
        (planRemainingRanges start entity.length rangeParallelChunkBytes) entity.length) =
      planRemainingRanges start entity.length rangeParallelChunkBytes := by
    refine take_of_length_le ?_
    rw [List.findIdx_eq_length.mpr fun fetch member => by simp [used fetch member]]
    simp [fetchChunksStream]
  simp only [resumedRanges, probe, split, accepted]
  rw [if_neg (by omega), whole, requestedBytes_plan (by omega) small]

end

theorem chunkRanges_resumed {answers : RelayRequest → Bytes} {request : RelayRequest}
    {value : Text} {start : Nat} (get : request.method = lit "GET") (empty : request.body = [])
    (asks : headerGet request.headers (lit "range") = some value)
    (read : parseRangeStart value = some start) (positive : 0 < start) :
    chunkRanges answers request true = resumedRanges answers request start := by
  simp only [chunkRanges, get, empty, ne_eq, not_true_eq_false, or_self_iff, if_false, asks, read,
    filter_some, positive, decide_true, if_true]

/--
The limit on chunks is kept exactly when no download is resumed in front of the last positions: only
one from the beginning is compared with it.
-/
theorem chunkRanges_within_iff (request : RelayRequest) :
    (∀ answers, requestedBytes (chunkRanges answers request true) ≤ maxStreamedRangeBytes) ↔
      ∀ value start, request.method = lit "GET" → request.body = [] →
        headerGet request.headers (lit "range") = some value →
        parseRangeStart value = some start → 0 < start →
        2 ^ 64 - 2 - maxStreamedRangeBytes ≤ start := by
  constructor
  · intro within value start get empty asks read positive
    by_contra early
    have drained := @requestedBytes_draining (List.replicate u64Max 0) start request
      (by rw [length_replicate])
      (by
        rw [length_replicate]
        unfold u64Max
        omega)
      (by
        unfold rangeParallelChunkBytes
        unfold maxStreamedRangeBytes at early
        omega)
    have kept := within (drainingOrigin (List.replicate u64Max 0) start)
    rw [chunkRanges_resumed get empty asks read positive, drained, length_replicate] at kept
    unfold u64Max at kept
    omega
  · intro late answers
    unfold chunkRanges
    split
    · exact Nat.zero_le _
    · rename_i plain
      simp only [not_or, ne_eq, Decidable.not_not] at plain
      cases asks : headerGet request.headers (lit "range") with
      | none => exact requestedBytes_probedRanges_le answers request
      | some value =>
        simp only
        split
        · rename_i start found
          obtain ⟨read, positive⟩ := Option.filter_eq_some_iff.mp found
          have far := late value start plain.1 plain.2 asks read (by simpa using positive)
          have asked := requestedBytes_resumedRanges_le answers request start
          unfold u64Max at asked
          omega
        · exact Nat.zero_le _

theorem resumed_download_drains :
    headerGet (fileRequest [(lit "Range", fromSecondByte.value)]).headers (lit "range") =
        some (lit "bytes=1-") ∧
      requestedBytes (chunkRanges (drainingOrigin (List.replicate u64Max 0) 1)
        (fileRequest [(lit "Range", fromSecondByte.value)]) true) = 2 ^ 64 - 3 ∧
      maxStreamedRangeBytes < 2 ^ 64 - 3 := by
  have asks : headerGet (fileRequest [(lit "Range", fromSecondByte.value)]).headers
      (lit "range") = some (lit "bytes=1-") := by decide +kernel
  have read : parseRangeStart (lit "bytes=1-") = some 1 := by decide +kernel
  refine ⟨asks, ?_, by decide⟩
  rw [chunkRanges_resumed rfl rfl asks read Nat.one_pos,
    requestedBytes_draining _ (by rw [length_replicate])
    (by rw [length_replicate]; decide) (by decide), length_replicate]
  decide

end Gvpn
