import Gvpn.Proxy.Wire

/-! Reading a request body from a stream that arrives in any pieces. -/

namespace Gvpn

open List Option

theorem cut_line {line : Bytes} (free : 13 ∉ line) (more : Bytes) :
    cut lineEnd (line ++ lineEnd ++ more) = some (line, more) := by
  rw [append_assoc, lineEnd, cut_skip free]
  have here := cut_append_self [13, 10] more
  simp only [here, map_some, append_nil]

theorem not_mem_toUtf8 {text : Text} (free : '\r' ∉ text) : 13 ∉ toUtf8 text := by
  intro member
  have inside := mem_of_mem_toUtf8 member (by decide)
  exact free inside

section

variable {stream rest : Segments} {buffer current : Bytes}

theorem bodyReadSize_pos : 0 < bodyReadSize := by simp [bodyReadSize]

theorem readCrlfLine_splits {line more : Bytes} (splits : stream.Splits current rest)
    (content : buffer ++ current = line ++ lineEnd ++ more) (free : 13 ∉ line) :
    ∃ kept left after, readCrlfLine buffer stream = .ok (line, kept, after) ∧
      kept ++ left = more ∧ after.Splits left rest := by
  have whole := cut_line free more
  have there : cut lineEnd (buffer ++ current) ≠ none := by
    rw [content, whole]
    simp
  obtain ⟨taken, left, ⟨first, kept⟩, after, done, currentIs, found, behind⟩ :=
    splits.readUntil bodyReadSize_pos there
  have same := cut_append found left
  rw [append_assoc, ← currentIs, content, whole, some.injEq, Prod.mk.injEq] at same
  refine ⟨kept, left, after, ?_, same.2.symm, behind⟩
  simp only [readCrlfLine, done, same.1]

theorem fillBuffer_splits {want : Nat} (splits : stream.Splits current rest)
    (there : want ≤ (buffer ++ current).length) :
    ∃ filled left after, fillBuffer want buffer stream = .ok (filled, after) ∧
      filled ++ left = buffer ++ current ∧ want ≤ filled.length ∧ after.Splits left rest := by
  have found : atLeast want (buffer ++ current) ≠ none := by
    simp only [atLeast, there, if_true]
    simp
  obtain ⟨taken, left, filled, after, done, currentIs, checked, behind⟩ :=
    splits.readUntil bodyReadSize_pos found
  simp only [atLeast, ite_none_right_eq_some, some.injEq] at checked
  obtain ⟨enough, rfl⟩ := checked
  refine ⟨buffer ++ taken, left, after, ?_, ?_, enough, behind⟩
  · simp only [fillBuffer, done]
  · rw [append_assoc, ← currentIs]

theorem FieldLine.free (field : FieldLine) : '\r' ∉ field.text := by
  intro member
  simp only [text, mem_append, mem_cons] at member
  rcases member with inName | isColon | inValue
  · have token := field.token '\r' inName
    exact absurd token (by decide)
  · exact absurd isColon (by decide)
  · exact field.plain inValue

theorem FieldLine.text_ne_nil (field : FieldLine) : toUtf8 field.text ≠ [] := by
  have length := length_le_length_toUtf8 field.text
  intro nothing
  rw [nothing] at length
  simp [text] at length

variable {trailers : List FieldLine} {rounds : Nat}

theorem readTrailers_splits (splits : stream.Splits current rest)
    (content : buffer ++ current = WireBody.fieldLines trailers)
    (enough : (buffer ++ current).length < rounds) :
    readTrailers rounds buffer stream = .ok rest := by
  induction trailers generalizing buffer current stream rounds with
  | nil =>
    cases rounds with
    | zero => omega
    | succ rounds =>
      have empty : buffer ++ current = [] ++ lineEnd ++ [] := by
        simpa [WireBody.fieldLines] using content
      obtain ⟨kept, left, after, read, nothing, behind⟩ :=
        readCrlfLine_splits splits empty (by simp)
      have gone := (List.append_eq_nil_iff.mp nothing).2
      rw [gone] at behind
      simp only [readTrailers, read, behind.eq_rest]
  | cons trailer others ih =>
    cases rounds with
    | zero => omega
    | succ rounds =>
      have split : buffer ++ current =
          toUtf8 trailer.text ++ lineEnd ++ WireBody.fieldLines others := by
        simpa [WireBody.fieldLines] using content
      obtain ⟨kept, left, after, read, moreIs, behind⟩ :=
        readCrlfLine_splits splits split (not_mem_toUtf8 trailer.free)
      have shorter : (kept ++ left).length < rounds := by
        rw [split] at enough
        rw [moreIs]
        simp only [length_append, lineEnd, length_cons, length_nil] at enough
        omega
      have later := ih behind moreIs shorter
      rw [readTrailers, read]
      cases line : toUtf8 trailer.text with
      | nil => exact absurd line trailer.text_ne_nil
      | cons byte bytes => exact later

theorem parseHex_digits {digits : Text} (some_ : digits ≠ [])
    (each : ∀ c ∈ digits, (Json.hexValue c).isSome = true) :
    parseHex digits = some (hexDigitsValue digits) := by
  have unsigned : dropPlus digits = digits := by
    refine dropPlus_eq ?_
    intro plus
    have digit := each '+' plus
    exact absurd digit (by decide)
  simp only [parseHex, unsigned, some_, if_false]
  apply foldl_eq_some
  intro c member value
  obtain ⟨digit, digitIs⟩ := Option.isSome_iff_exists.mp (each c member)
  simp [digitIs]

theorem hexDigit_range {c : Char} (digit : (Json.hexValue c).isSome = true) :
    (48 ≤ c.toNat ∧ c.toNat ≤ 57) ∨ (97 ≤ c.toNat ∧ c.toNat ≤ 102) ∨
      (65 ≤ c.toNat ∧ c.toNat ≤ 70) := by
  unfold Json.hexValue at digit
  split at digit
  · rename_i decimal_
    simp only [Char.isDigit, Bool.and_eq_true, decide_eq_true_eq] at decimal_
    exact .inl decimal_
  · split at digit
    · rename_i small
      exact .inr (.inl small)
    · split at digit
      · rename_i large
        exact .inr (.inr large)
      · simp at digit

theorem hexDigit_facts {c : Char} (digit : (Json.hexValue c).isSome = true) :
    isBlank c = false ∧ c ≠ ';' ∧ c ≠ '\r' := by
  have range := hexDigit_range digit
  refine ⟨?_, ?_, ?_⟩
  · simp only [isBlank, decide_eq_false_iff_not]
    omega
  · rintro rfl
    exact absurd range (by decide)
  · rintro rfl
    exact absurd range (by decide)

variable (chunk : Chunk)

theorem before_trim_line : before ';' (trim (chunk.size ++ chunk.extension)) = chunk.size := by
  obtain ⟨some_, digits, -⟩ := chunk.sized
  obtain ⟨front, last, sizeIs⟩ := eq_nil_or_concat chunk.size |>.resolve_left some_
  rw [concat_eq_append] at sizeIs
  have solid : ∀ c ∈ chunk.size, isBlank c = false ∧ c ≠ ';' := fun c member =>
    ⟨(hexDigit_facts (digits c member)).1, (hexDigit_facts (digits c member)).2.1⟩
  -- Trimming leaves the digits alone.
  have trimmed : trim (chunk.size ++ chunk.extension) =
      chunk.size ++ trimEndMatches isBlank chunk.extension := by
    have start : trimStart (chunk.size ++ chunk.extension) = chunk.size ++ chunk.extension := by
      cases size : chunk.size with
      | nil => exact absurd size some_
      | cons first rest => exact trimStart_cons (solid first (by simp [size])).1 _
    have lastSolid := (solid last (by simp [sizeIs])).1
    rw [trim, start, trimEnd, sizeIs, append_assoc, singleton_append,
      trimEndMatches_append lastSolid, append_assoc, singleton_append]
  rw [trimmed, before, takeWhile_append_of_pos]
  · -- An extension starts with the semicolon that stops the digits.
    rcases chunk.marked with none_ | marked
    · simp [none_, trimEndMatches]
    · cases extension : chunk.extension with
      | nil => simp [trimEndMatches]
      | cons first rest =>
        rw [extension, head?_cons, some.injEq] at marked
        have kept : isBlank ';' = false := by decide
        have whole := trimEndMatches_append kept [] rest
        simp only [nil_append] at whole
        simp [marked, whole]
  · intro c member
    simp [(solid c member).2]

theorem chunkSize_line :
    chunkSize (toUtf8 (chunk.size ++ chunk.extension)) = .ok chunk.data.length := by
  obtain ⟨some_, digits, value⟩ := chunk.sized
  have small := chunk.bounded
  simp only [chunkSize, fromUtf8_toUtf8, before_trim_line, parseHex_digits some_ digits, value,
    small, if_true]

theorem Chunk.free : 13 ∉ toUtf8 (chunk.size ++ chunk.extension) := by
  refine not_mem_toUtf8 ?_
  intro member
  rcases List.mem_append.mp member with inSize | inExtension
  · exact (hexDigit_facts (chunk.sized.2.1 _ inSize)).2.2 rfl
  · exact chunk.plain inExtension

theorem Chunk.line_ne_nil : toUtf8 (chunk.size ++ chunk.extension) ≠ [] := by
  have length := length_le_length_toUtf8 (chunk.size ++ chunk.extension)
  have some_ := length_pos_of_ne_nil chunk.sized.1
  intro nothing
  rw [nothing, length_append] at length
  simp only [length_nil] at length
  omega

variable {out : Bytes}

theorem readChunks_last {last : Chunk}
    (splits : stream.Splits current rest) (empty : last.data = [])
    (content : buffer ++ current =
      toUtf8 (last.size ++ last.extension) ++ lineEnd ++ WireBody.fieldLines trailers) :
    readChunks (rounds + 1) out buffer stream = .ok (out, rest) := by
  obtain ⟨kept, left, after, read, moreIs, behind⟩ :=
    readCrlfLine_splits splits content last.free
  have size := chunkSize_line last
  rw [empty, length_nil] at size
  have ended : readTrailers (kept.length + after.bytes.length + 1) kept after = .ok rest := by
    refine readTrailers_splits behind moreIs ?_
    rw [behind.bytes_eq]
    simp only [length_append]
    omega
  rw [readChunks, read]
  cases line : toUtf8 (last.size ++ last.extension) with
  | nil => exact absurd line last.line_ne_nil
  | cons byte bytes =>
    rw [line] at size
    simp [size, ended, Except.map]

theorem readChunks_chunk {chunk : Chunk} {more : Bytes}
    (splits : stream.Splits current rest) (full : chunk.data ≠ [])
    (content : buffer ++ current =
      toUtf8 (chunk.size ++ chunk.extension) ++ lineEnd ++ (chunk.data ++ lineEnd ++ more)) :
    ∃ extra remaining final, readChunks (rounds + 1) out buffer stream =
        readChunks rounds (out ++ chunk.data) extra final ∧
      extra ++ remaining = more ∧ final.Splits remaining rest := by
  obtain ⟨kept, left, after, read, moreIs, behind⟩ :=
    readCrlfLine_splits splits content chunk.free
  have there : chunk.data.length + 2 ≤ (kept ++ left).length := by
    rw [moreIs]
    simp only [length_append, lineEnd, length_cons, length_nil]
    omega
  obtain ⟨filled, remaining, final, fill, filledIs, long, finalSplits⟩ :=
    fillBuffer_splits behind there
  rw [moreIs] at filledIs
  have opens : chunk.data ++ lineEnd <+: filled := by
    have first : chunk.data ++ lineEnd <+: filled ++ remaining := ⟨more, by rw [filledIs]⟩
    refine prefix_of_prefix_length_le first (prefix_append _ _) ?_
    simpa [lineEnd] using long
  obtain ⟨extra, rfl⟩ := opens
  refine ⟨extra, remaining, final, ?_, ?_, finalSplits⟩
  · -- The buffer comes apart into the data, the line end and what follows.
    have dataIs : (chunk.data ++ lineEnd ++ extra).take chunk.data.length = chunk.data := by
      simp
    have endIs : ((chunk.data ++ lineEnd ++ extra).drop chunk.data.length).take 2 = lineEnd := by
      simp [lineEnd]
    have extraBehind : (chunk.data ++ lineEnd ++ extra).drop (chunk.data.length + 2) = extra := by
      simp [lineEnd]
    have size := chunkSize_line chunk
    have positive := length_pos_of_ne_nil full
    rw [readChunks, read]
    cases line : toUtf8 (chunk.size ++ chunk.extension) with
    | nil => exact absurd line chunk.line_ne_nil
    | cons byte bytes =>
      rw [line] at size
      simp only [size]
      cases length : chunk.data.length with
      | zero => omega
      | succ count =>
        rw [length] at fill dataIs endIs extraBehind
        simp only [fill, endIs, dataIs, extraBehind, if_true]
  · rw [append_assoc] at filledIs
    exact append_cancel_left filledIs

theorem readChunks_splits {chunks : List Chunk} {last : Chunk} (splits : stream.Splits current rest)
    (full : ∀ chunk ∈ chunks, chunk.data ≠ []) (empty : last.data = [])
    (content : buffer ++ current = (WireBody.chunked chunks last trailers).encode)
    (enough : (buffer ++ current).length < rounds) :
    readChunks rounds out buffer stream = .ok (out ++ chunks.flatMap Chunk.data, rest) := by
  induction chunks generalizing buffer current stream rounds out with
  | nil =>
    cases rounds with
    | zero => omega
    | succ rounds =>
      rw [readChunks_last splits empty (by simpa [WireBody.encode, Chunk.line] using content)]
      simp
  | cons chunk others ih =>
    cases rounds with
    | zero => omega
    | succ rounds =>
      have split : buffer ++ current = toUtf8 (chunk.size ++ chunk.extension) ++ lineEnd ++
          (chunk.data ++ lineEnd ++ (WireBody.chunked others last trailers).encode) := by
        simpa [WireBody.encode, Chunk.line] using content
      obtain ⟨extra, remaining, final, round, extraIs, finalSplits⟩ :=
        readChunks_chunk splits (full chunk (by simp)) split
      have shorter : (extra ++ remaining).length < rounds := by
        rw [split] at enough
        rw [extraIs]
        simp only [length_append, lineEnd, length_cons, length_nil] at enough
        omega
      have fullOthers : ∀ chunk ∈ others, chunk.data ≠ [] := fun other member =>
        full other (by simp [member])
      rw [round, ih finalSplits fullOthers extraIs shorter, flatMap_cons, append_assoc]

theorem readSizedBody_splits {leftover body : Bytes} (splits : stream.Splits current rest)
    (content : leftover ++ current = body) :
    readSizedBody body.length leftover stream = .ok (body, rest) := by
  have whole : leftover.take body.length = leftover := by
    rw [take_eq_self_iff, ← content, length_append]
    omega
  have pumped : stream.readUntil bodyReadSize
      (fun filled got => filled ++ got.take (body.length - filled.length)) (atLeast body.length)
      leftover = .done body rest := by
    clear whole
    induction length : current.length using Nat.strong_induction_on
      generalizing leftover current stream with
    | _ size ih =>
      rw [Segments.readUntil_eq bodyReadSize_pos]
      by_cases nothing : current = []
      · rw [nothing, append_nil] at content
        rw [nothing] at splits
        simp [atLeast, content, splits.eq_rest]
      · obtain ⟨got, left, after, taken, nonempty, currentIs, behind⟩ :=
          splits.read bodyReadSize_pos nothing
        have lengths : leftover.length + (got.length + left.length) = body.length := by
          rw [← content, currentIs]
          simp
        have some_ := length_pos_of_ne_nil nonempty
        have missing : ¬ body.length ≤ leftover.length := by omega
        have fits : got.take (body.length - leftover.length) = got := by
          rw [take_eq_self_iff]
          omega
        rw [currentIs, ← append_assoc] at content
        rw [currentIs, length_append] at length
        have later := ih left.length (by omega) behind content rfl
        simp only [atLeast, missing, if_false, taken, fits]
        exact later
  simp only [readSizedBody, whole, pumped]

theorem readBody_splits {leftover : Bytes} {headers : List (Text × Text)} {body : WireBody}
    (announced : body.Announced headers) (splits : stream.Splits current rest)
    (content : leftover ++ current = body.encode) :
    readBody leftover headers stream = .ok (body.content, rest) := by
  cases body with
  | none =>
    obtain ⟨noEncoding, noLength⟩ := announced
    have nothing := (List.append_eq_nil_iff.mp content).2
    rw [nothing] at splits
    simp [readBody, bodyFraming, noEncoding, noLength, WireBody.content, splits.eq_rest]
  | sized body =>
    obtain ⟨noEncoding, length, named, some_, digits, value, small⟩ := announced
    have parsed := parseUnsigned_digits some_ digits (by rw [value]; exact small)
    rw [value] at parsed
    rw [WireBody.encode] at content
    have read := readSizedBody_splits splits content
    simp only [readBody, bodyFraming, noEncoding, named, parsed, read, WireBody.content]
  | chunked chunks last trailers =>
    obtain ⟨⟨encoding, named, chunked⟩, noLength, full, empty⟩ := announced
    have enough : (leftover ++ current).length <
        leftover.length + stream.bytes.length + 1 := by
      rw [splits.bytes_eq]
      simp only [length_append]
      omega
    have read : readChunks (leftover.length + stream.bytes.length + 1) [] leftover stream =
        .ok ([] ++ chunks.flatMap Chunk.data, rest) :=
      readChunks_splits splits full empty content enough
    simp only [readBody, bodyFraming, named, chunked, noLength, if_true, readChunkedRequestBody,
      read, WireBody.content, nil_append]

end

end Gvpn
