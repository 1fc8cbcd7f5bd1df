import Gvpn.Fronter.Chunked
import Gvpn.Proofs.Body
import Gvpn.Proxy.Checked

/-! Bodies in chunks are decoded exactly, and where reading a body breaks down. -/

namespace Gvpn

open List

def encodeChunks (chunks : List Chunk) (last : Chunk) (trailers : List Bytes) : Bytes :=
  (chunks.flatMap fun chunk => chunk.line ++ chunk.data ++ lineEnd) ++ last.line ++
    trailers.flatMap (· ++ lineEnd) ++ lineEnd

def Chunk.opening (chunk : Chunk) : Bytes := toUtf8 (chunk.size ++ chunk.extension)

variable (chunk : Chunk) (ending : Ending)

theorem Chunk.unbroken : Unbroken 13 10 chunk.opening :=
  unbroken_of_not_mem (by simp) chunk.free

theorem requestSize_opening : requestSize chunk.opening = .size chunk.data.length := by
  rw [Chunk.opening, requestSize, if_neg chunk.line_ne_nil, chunkSize_line]

theorem responseSize_opening : responseSize chunk.opening = .size chunk.data.length := by
  obtain ⟨some_, digits, value⟩ := chunk.sized
  have size := before_trim_line chunk
  -- A line with a size in it is not blank.
  have solid : trim (chunk.size ++ chunk.extension) ≠ [] := by
    intro nothing
    rw [nothing] at size
    exact some_ size.symm
  simp only [responseSize, Chunk.opening, fromUtf8_toUtf8, solid, if_false, size,
    parseHex_digits some_ digits, value, chunk.bounded, if_true]

variable {buffer : Bytes} {stream : Segments}

theorem read_encodeChunks {ε : Type} {reader : ChunkReader ε}
    (sizes : ∀ chunk : Chunk, reader.sizeOf chunk.opening = .size chunk.data.length)
    {chunks : List Chunk} {last : Chunk} {trailers : List Bytes}
    (full : ∀ chunk ∈ chunks, chunk.data ≠ [] ∧ chunk.data.length + 2 < 2 ^ 64)
    (empty : last.data = [])
    (lines : ∀ trailer ∈ trailers, trailer ≠ [] ∧ Unbroken 13 10 trailer) (ending : Ending)
    {rest : Bytes}
    (arrives : buffer ++ stream.bytes = encodeChunks chunks last trailers ++ rest) :
    reader.read ending buffer stream = .ok (chunks.flatMap Chunk.data) := by
  let pairs := chunks.map fun chunk => (chunk.opening, chunk.data)
  have encodes : ∀ chunk ∈ pairs, reader.Encodes chunk.1 chunk.2 := by
    intro pair member
    obtain ⟨chunk, inside, rfl⟩ := List.mem_map.mp member
    obtain ⟨solid, fits⟩ := full chunk inside
    exact ⟨chunk.unbroken, sizes chunk, solid, fits⟩
  have lastSized : reader.sizeOf last.opening = .size 0 := by
    rw [sizes, empty]
    rfl
  have shape : encodeChunks chunks last trailers ++ rest =
      (pairs.flatMap fun chunk => chunk.1 ++ [13, 10] ++ chunk.2 ++ [13, 10]) ++
        (last.opening ++ [13, 10] ++ (trailers.flatMap (· ++ [13, 10]) ++ [13, 10] ++ rest)) := by
    simp [encodeChunks, pairs, Chunk.line, Chunk.opening, lineEnd, flatMap_map]
  have count : pairs.length < (buffer ++ stream.bytes).length + 1 := by
    have atMost : pairs.length ≤
        (pairs.flatMap fun chunk => chunk.1 ++ [13, 10] ++ chunk.2 ++ [13, 10]).length :=
      length_le_length_flatMap pairs (by simp)
    rw [arrives, shape, length_append]
    omega
  have parsed := ChunkReader.parse_chunks ending encodes last.unbroken lastSized lines rest [] count
  rw [ChunkReader.read_eq]
  rw [← shape, ← arrives] at parsed
  rw [parsed]
  simp [pairs, flatMap_map]

/-- Both readers decode a body in chunks exactly, however it arrives and whatever follows it. -/
theorem chunked_decoding_exact {chunks : List Chunk} {last : Chunk} {trailers : List Bytes}
    (full : ∀ chunk ∈ chunks, chunk.data ≠ [] ∧ chunk.data.length + 2 < 2 ^ 64)
    (empty : last.data = [])
    (lines : ∀ trailer ∈ trailers, trailer ≠ [] ∧ Unbroken 13 10 trailer)
    {buffer rest : Bytes} {stream : Segments}
    (arrives : buffer ++ stream.bytes = encodeChunks chunks last trailers ++ rest)
    (ending : Ending) :
    Checked.readChunkedRequestBody ending buffer stream = .ok (chunks.flatMap Chunk.data) ∧
      readChunked ending buffer stream = .ok (chunks.flatMap Chunk.data) :=
  ⟨read_encodeChunks requestSize_opening full empty lines ending arrives,
    read_encodeChunks responseSize_opening full empty lines ending arrives⟩

def sampleChunk : Chunk where
  size := lit "0A"
  extension := lit ";name=value"
  data := List.replicate 10 65
  sized := ⟨by decide +kernel, List.all_eq_true.mp (by decide +kernel), by decide +kernel⟩
  marked := by decide +kernel
  plain := by decide +kernel
  bounded := by decide

def finalChunk : Chunk where
  size := lit "0"
  extension := []
  data := []
  sized := ⟨by decide +kernel, List.all_eq_true.mp (by decide +kernel), by decide +kernel⟩
  marked := .inl rfl
  plain := by decide
  bounded := by decide

theorem chunked_decoding_exact_sample :
    ∃ (buffer rest : Bytes) (stream : Segments),
      buffer ++ stream.bytes = encodeChunks [sampleChunk] finalChunk [[88, 58, 49]] ++ rest ∧
      Checked.readChunkedRequestBody .closed buffer stream = .ok (List.replicate 10 65) ∧
      readChunked .closed buffer stream = .ok (List.replicate 10 65) := by
  let sent := encodeChunks [sampleChunk] finalChunk [[88, 58, 49]]
  have arrives : sent.take 14 ++ (⟨[sent.drop 14], by decide +kernel⟩ : Segments).bytes =
      sent ++ [] := by
    simp [Segments.bytes]
  have full : ∀ chunk ∈ [sampleChunk], chunk.data ≠ [] ∧ chunk.data.length + 2 < 2 ^ 64 := by
    simp [sampleChunk]
  have lines : ∀ trailer ∈ ([[88, 58, 49]] : List Bytes),
      trailer ≠ [] ∧ Unbroken 13 10 trailer := by
    intro trailer member
    rw [mem_singleton] at member
    subst member
    exact ⟨by simp, unbroken_of_not_mem (show (13 : UInt8) ∈ [13, 10] by simp) (by decide)⟩
  obtain ⟨request, response⟩ := chunked_decoding_exact full rfl lines arrives .closed
  exact ⟨_, _, _, arrives, request, response⟩

theorem silent_of_bodyEnded {eof : IoError} {ending : Ending}
    (nothing : bodyEnded eof ending = none) : ending = .silent := by
  cases ending <;> simp [bodyEnded] at nothing ⊢

theorem responseEnded_ne_none :
    responseLineEnded ending ≠ none ∧ responseDataEnded ending ≠ none := by
  cases ending <;> simp [responseLineEnded, responseDataEnded]

theorem readSizedBody_ends_iff (length : Nat) (leftover : Bytes) (stream : Segments) :
    (Checked.readSizedBody ending length leftover stream).Ends ending ↔ length < 2 ^ 63 := by
  unfold Checked.readSizedBody Checked.withCapacity
  by_cases fits : length < 2 ^ 63
  · refine iff_of_true ?_ fits
    have within : (Checked.slice 0 (min leftover.length length) leftover :
        Checked BodyError Bytes) = .ok (leftover.take (min leftover.length length)) := by
      rw [Checked.slice, if_pos ⟨Nat.zero_le _, Nat.min_le_left _ _⟩, drop_zero, Nat.sub_zero]
    rw [if_pos fits, Checked.bind_ok, within, Checked.bind_ok]
    split
    · trivial
    · cases stops : bodyEnded (.unexpectedEof (lit "EOF mid-body")) ending with
      | none => exact silent_of_bodyEnded stops
      | some problem => trivial
  · rw [if_neg fits]
    exact iff_of_false id fits

def BodySafe (refusal : Option Text) (leftover : Bytes) (headers : List (Text × Text))
    (stream : Segments) : Prop :=
  (if sendsContinue headers then refusal else none) = none →
    match bodyFraming headers with
    | .ok (.sized length) => length ≤ leftover.length ∧ length < 2 ^ 63
    | .ok .chunked =>
      ∀ size, requestChunks.Meets (leftover ++ stream.bytes) size → size + 2 < 2 ^ 64
    | _ => True

theorem readChunkedRequestBody_ends_iff (buffer : Bytes) (stream : Segments) :
    (Checked.readChunkedRequestBody ending buffer stream).Ends ending ↔
      ∀ size, requestChunks.Meets (buffer ++ stream.bytes) size → size + 2 < 2 ^ 64 := by
  apply ChunkReader.read_ends_iff
  rintro (line | data)
  · exact silent_of_bodyEnded line
  · exact silent_of_bodyEnded data

theorem readChunked_ends_iff (buffer : Bytes) (stream : Segments) :
    (readChunked ending buffer stream).Ends ending ↔
      ∀ size, responseChunks.Meets (buffer ++ stream.bytes) size → size + 2 < 2 ^ 64 := by
  obtain ⟨lineError, dataError⟩ := responseEnded_ne_none ending
  apply ChunkReader.read_ends_iff
  rintro (line | data)
  · exact absurd line lineError
  · exact absurd data dataError

theorem readBody_safe_iff (refusal : Option Text) (leftover : Bytes) (headers : List (Text × Text))
    (stream : Segments) :
    ((Checked.readBody ending refusal leftover headers stream).result.Ends ending ∧
        ∀ count ∈ (Checked.readBody ending refusal leftover headers stream).requested,
          count ≤ leftover.length) ↔
      BodySafe refusal leftover headers stream := by
  unfold Checked.readBody BodySafe
  cases framed : bodyFraming headers with
  | error problem => simp [Checked.Ends]
  | ok framing =>
    cases refused : (if sendsContinue headers then refusal else none) with
    | some reason => simp [Checked.Ends]
    | none =>
      cases framing with
      | none => simp [Checked.Ends]
      | sized length =>
        simp only [readSizedBody_ends_iff, mem_singleton, forall_eq, forall_const]
        exact and_comm
      | chunked =>
        simp only [readChunkedRequestBody_ends_iff, not_mem_nil, false_implies, implies_true,
          and_true, forall_const]

/--
The readers of bodies end with a result or an error, and ask for no more memory than there are
bytes, exactly if no announced length is larger than what has arrived and no size of a chunk is
too large for the line end behind it.
-/
theorem body_readers_safe_iff (ending : Ending) (refusal : Option Text) (leftover : Bytes)
    (headers : List (Text × Text)) (stream : Segments) :
    (((Checked.readBody ending refusal leftover headers stream).result.Ends ending ∧
        ∀ count ∈ (Checked.readBody ending refusal leftover headers stream).requested,
          count ≤ leftover.length) ↔
      BodySafe refusal leftover headers stream) ∧
    ((Checked.readChunkedRequestBody ending leftover stream).Ends ending ↔
      ∀ size, requestChunks.Meets (leftover ++ stream.bytes) size → size + 2 < 2 ^ 64) ∧
    ((readChunked ending leftover stream).Ends ending ↔
      ∀ size, responseChunks.Meets (leftover ++ stream.bytes) size → size + 2 < 2 ^ 64) :=
  ⟨readBody_safe_iff ending refusal leftover headers stream,
    readChunkedRequestBody_ends_iff ending leftover stream,
    readChunked_ends_iff ending leftover stream⟩

/-- The largest length, and one of the largest sizes, make each reader fault. -/
theorem largest_numbers_are_faults :
    (Checked.readBody .closed none [] [(lit "Content-Length", lit "18446744073709551615")]
        .empty).result = .fault .capacity ∧
      (Checked.readBody .closed none [] [(lit "Content-Length", lit "18446744073709551615")]
        .empty).requested = [2 ^ 64 - 1] ∧
      Checked.readChunkedRequestBody .closed (toUtf8 (lit "fffffffffffffffe\r\n")) .empty =
        .fault .overflow ∧
      readChunked .closed (toUtf8 (lit "fffffffffffffffe\r\n")) .empty = .fault .overflow := by
  decide +kernel

end Gvpn
