import Gvpn.Data.Slices
import Gvpn.Proofs.Response

namespace Gvpn

open List

variable {headers : List (Text × Text)} {range : ContentRange}

theorem contentRange_inside (named : parseContentRange headers = some range) :
    range.start ≤ range.last ∧ range.last < range.total ∧ range.total ≤ u64Max := by
  obtain ⟨value, -, parsed⟩ := Option.bind_eq_some_iff.mp named
  unfold contentRangeValue at parsed
  repeat' split at parsed
  all_goals try cases parsed
  rename_i start last total numbers ordered
  -- The total was read as a number of 64 bits.
  have small : total < 2 ^ 64 := by
    unfold contentRangeNumbers at numbers
    repeat' split at numbers
    all_goals try cases numbers
    rename_i read
    unfold parseUnsigned at read
    simp only at read
    split at read
    · rename_i facts
      rw [← Option.some.inj read]
      exact facts.2.2
    · cases read
  unfold u64Max
  simp only
  omega

theorem contentRangeMatchesBody_iff {length : Nat} (ordered : range.start ≤ range.last) :
    contentRangeMatchesBody range length = true ↔ length = range.last + 1 - range.start := by
  simp only [contentRangeMatchesBody, decide_eq_true_eq]
  omega

theorem planFrom_consecutive {total chunkSize : Nat} (size : 0 < chunkSize)
    (fits : total ≤ u64Max) (count : Nat) :
    ∀ {start : Nat}, start ≤ total → total - start ≤ count →
      Consecutive start total (planFrom total chunkSize count start) := by
  induction count with
  | zero =>
    intro start inside enough
    have ended : start = total := by omega
    subst ended
    exact .done start
  | succ count ih =>
    intro start inside enough
    unfold planFrom nextRange
    by_cases ended : total ≤ start
    · have same : start = total := by omega
      subst same
      rw [if_pos ended]
      exact .done start
    · rw [if_neg ended]
      simp only
      have last : min (saturatingAdd start chunkSize - 1) (total - 1) =
          min (start + chunkSize - 1) (total - 1) := by
        unfold saturatingAdd
        omega
      have next : saturatingAdd (min (start + chunkSize - 1) (total - 1)) 1 =
          min (start + chunkSize - 1) (total - 1) + 1 := by
        unfold saturatingAdd
        omega
      rw [last, next]
      refine .range (by omega) ?_
      exact ih (by omega) (by omega)

theorem planRemainingRanges_consecutive {probeEnd total chunkSize : Nat} (size : 0 < chunkSize)
    (fits : total ≤ u64Max) (inside : probeEnd < total) :
    Consecutive (probeEnd + 1) total (planRemainingRanges probeEnd total chunkSize) := by
  have next : saturatingAdd probeEnd 1 = probeEnd + 1 := by
    unfold saturatingAdd
    omega
  unfold planRemainingRanges
  rw [next]
  exact planFrom_consecutive size fits total (by omega) (by omega)

theorem streamChunks_writes (fetches : List (Except Text Bytes)) :
    ((streamChunks fetches).result = .ok () ∧
      fetches = (streamChunks fetches).writes.map .ok) ∨
    ∃ reason cause back, (streamChunks fetches).result = .error reason ∧
      fetches = (streamChunks fetches).writes.map .ok ++ .error cause :: back := by
  induction fetches with
  | nil => exact .inl ⟨rfl, rfl⟩
  | cons fetch rest ih =>
    cases fetch with
    | error cause => exact .inr ⟨_, cause, rest, rfl, rfl⟩
    | ok chunk =>
      rcases ih with ⟨ended, all⟩ | ⟨reason, cause, back, stopped, front⟩
      · left
        refine ⟨ended, ?_⟩
        rw [streamChunks, map_cons, ← all]
      · right
        refine ⟨reason, cause, back, stopped, ?_⟩
        rw [streamChunks, map_cons, cons_append, ← front]

theorem stitchChunks_eq_some {fetches : List (Except Text Bytes)} {whole : Bytes}
    (stitched : stitchChunks fetches = some whole) :
    ∃ chunks : List Bytes, fetches = chunks.map .ok ∧ whole = chunks.flatten := by
  induction fetches generalizing whole with
  | nil =>
    cases stitched
    exact ⟨[], rfl, rfl⟩
  | cons fetch rest ih =>
    cases fetch with
    | error cause => cases stitched
    | ok chunk =>
      obtain ⟨behind, later, rfl⟩ := Option.map_eq_some_iff.mp stitched
      obtain ⟨chunks, all, rfl⟩ := ih later
      exact ⟨chunk :: chunks, by rw [all, map_cons], by rw [flatten_cons]⟩

def Faithful (entity raw : Bytes) : Prop :=
  ∀ headers body range, splitResponse raw = some (206, headers, body) →
    parseContentRange headers = some range → range.total = entity.length →
    body.length = range.last + 1 - range.start → body = slice entity (range.start, range.last)

theorem extractExactRangeBody_eq_ok {raw body : Bytes} {start last total : Nat}
    (exact_ : extractExactRangeBody raw start last total = .ok body) :
    ∃ headers, splitResponse raw = some (206, headers, body) ∧
      parseContentRange headers = some ⟨start, last, total⟩ ∧ body.length = last + 1 - start := by
  unfold extractExactRangeBody at exact_
  cases split : splitResponse raw with
  | none => simp [split] at exact_
  | some parts =>
    obtain ⟨status, headers, content⟩ := parts
    simp only [split] at exact_
    by_cases partialAnswer : status = 206
    · subst partialAnswer
      cases named : parseContentRange headers with
      | none => simp [named] at exact_
      | some range =>
        simp only [named, ne_eq, not_true_eq_false, if_false] at exact_
        split at exact_
        · cases exact_
        · rename_i asked
          split at exact_
          · rename_i matched
            cases exact_
            have ordered := (contentRange_inside named).1
            simp only [not_or, Decidable.not_not] at asked
            obtain ⟨rfl, rfl, rfl⟩ := asked
            exact ⟨headers, rfl, named, (contentRangeMatchesBody_iff ordered).mp matched⟩
          · cases exact_
    · simp [partialAnswer] at exact_

theorem eq_slice_of_extract {entity raw body : Bytes} {range : Nat × Nat}
    (faithful : Faithful entity raw)
    (exact_ : extractExactRangeBody raw range.1 range.2 entity.length = .ok body) :
    body = slice entity range := by
  obtain ⟨headers, split, named, length⟩ := extractExactRangeBody_eq_ok exact_
  exact faithful headers body _ split named rfl length

section

variable {answers : RelayRequest → Bytes} {url : Text} {headers : List (Text × Text)}
  {entity : Bytes}

theorem chunks_eq_slices {ranges : List (Nat × Nat)} {chunks : List Bytes}
    (faithful : ∀ range ∈ ranges, Faithful entity (answers (chunkRequest url headers range)))
    (usable : chunks.map .ok = fetchChunksStream answers url headers ranges entity.length) :
    chunks = ranges.map (slice entity) := by
  unfold fetchChunksStream at usable
  induction ranges generalizing chunks with
  | nil => simpa using usable
  | cons range rest ih =>
    cases chunks with
    | nil => simp at usable
    | cons chunk others =>
      obtain ⟨here, later⟩ := List.forall_mem_cons.mp faithful
      rw [map_cons, map_cons, cons.injEq] at usable
      rw [map_cons, eq_slice_of_extract here usable.1.symm, ih later usable.2]

theorem streamChunks_fetched {start : Nat} {ranges : List (Nat × Nat)}
    (covers : Consecutive start entity.length ranges)
    (faithful : ∀ range ∈ ranges, Faithful entity (answers (chunkRequest url headers range))) :
    let fetches := fetchChunksStream answers url headers ranges entity.length
    let written := streamChunks fetches
    (written.result = .ok () ∧ (∀ fetch ∈ fetches, ∃ chunk, fetch = .ok chunk) ∧
      written.writes.flatten = entity.drop start) ∨
    ∃ reason stop, written.result = .error reason ∧ start ≤ stop ∧ stop < entity.length ∧
      written.writes.flatten = (entity.drop start).take (stop - start) := by
  intro fetches written
  rcases streamChunks_writes fetches with ⟨ended, all⟩ | ⟨reason, cause, back, stopped, front⟩
  · left
    refine ⟨ended, ?_, ?_⟩
    · intro fetch member
      rw [all] at member
      obtain ⟨chunk, -, same⟩ := List.mem_map.mp member
      exact ⟨chunk, same.symm⟩
    · rw [chunks_eq_slices faithful all.symm, covers.flatten_slices, take_of_length_le]
      rw [length_drop]
  · right
    change fetches = written.writes.map .ok ++ .error cause :: back at front
    have fetched : fetches.length = ranges.length := by simp [fetches, fetchChunksStream]
    have count : written.writes.length < ranges.length := by
      have lengths := congrArg List.length front
      rw [fetched, length_append, length_map, length_cons] at lengths
      omega
    have usable : written.writes.map .ok =
        fetchChunksStream answers url headers (ranges.take written.writes.length)
          entity.length := by
      have taken := congrArg (List.take written.writes.length) front
      rw [take_left' (by rw [length_map])] at taken
      rw [← taken]
      simp only [fetches, fetchChunksStream, map_take]
    have left : ranges.drop written.writes.length ≠ [] := by
      rw [ne_eq, drop_eq_nil_iff]
      omega
    rw [← take_append_drop written.writes.length ranges] at covers
    obtain ⟨stop, before, behind⟩ := covers.split
    have inside : stop < entity.length := by
      cases rest : ranges.drop written.writes.length with
      | nil => exact absurd rest left
      | cons failing others =>
        rw [rest] at behind
        exact behind.lt
    refine ⟨reason, stop, stopped, before.le, inside, ?_⟩
    have slices := chunks_eq_slices
      (fun range member => faithful range (mem_of_mem_take member)) usable
    rw [slices, before.flatten_slices]

theorem streamed_body {start probeEnd : Nat} {probeBody : Bytes} (forward : start ≤ probeEnd)
    (inside : probeEnd < entity.length) (fits : entity.length ≤ u64Max)
    (probed : probeBody = slice entity (start, probeEnd))
    (faithful : ∀ planned ∈ planRemainingRanges probeEnd entity.length rangeParallelChunkBytes,
      Faithful entity (answers (chunkRequest url headers planned))) :
    let fetches := fetchChunksStream answers url headers
      (planRemainingRanges probeEnd entity.length rangeParallelChunkBytes) entity.length
    let body := probeBody ++ (streamChunks fetches).writes.flatten
    ((streamChunks fetches).result = .ok () ∧ (∀ fetch ∈ fetches, ∃ chunk, fetch = .ok chunk) ∧
      body = entity.drop start) ∨
    ∃ reason, (streamChunks fetches).result = .error reason ∧ body <+: entity.drop start ∧
      body ≠ entity.drop start := by
  intro fetches body
  have covers := planRemainingRanges_consecutive (show 0 < rangeParallelChunkBytes by decide) fits
    inside
  have joined : ∀ stop, probeEnd + 1 ≤ stop →
      slice entity (start, probeEnd) ++
        (entity.drop (probeEnd + 1)).take (stop - (probeEnd + 1)) =
          (entity.drop start).take (stop - start) := by
    intro stop later
    have lengths : stop - start = (probeEnd + 1 - start) + (stop - (probeEnd + 1)) := by omega
    have next : start + (probeEnd + 1 - start) = probeEnd + 1 := by omega
    rw [lengths, take_add, drop_drop, next]
    rfl
  rcases streamChunks_fetched covers faithful with
    ⟨ended, all, rest⟩ | ⟨reason, stop, stopped, later, short, rest⟩
  · left
    refine ⟨ended, all, ?_⟩
    have whole := joined entity.length (by omega)
    rw [take_of_length_le (by rw [length_drop]),
      take_of_length_le (by rw [length_drop])] at whole
    rw [← whole, ← probed, ← rest]
  · right
    have part := joined stop later
    rw [← probed, ← rest] at part
    change body = (entity.drop start).take (stop - start) at part
    refine ⟨reason, stopped, ?_, ?_⟩
    · rw [part]
      exact take_prefix _ _
    · intro same
      have lengths := congrArg List.length (part.symm.trans same)
      rw [length_take, length_drop] at lengths
      omega

end

theorem headerGet_assembled {added : List (Text × Text)} {name : Text}
    (left : lower name ∈ unassembledHeaders) :
    headerGet (assembledFields headers ++ added) name = headerGet added name := by
  have absent : (assembledFields headers).find? (fun field => eqIgnoreCase field.1 name) =
      none := by
    rw [find?_eq_none]
    intro field member same
    have kept := (List.mem_filter.mp member).2
    simp only [decide_eq_true_eq] at kept
    simp only [eqIgnoreCase, decide_eq_true_eq] at same
    exact kept (same ▸ left)
  rw [headerGet, find?_append, absent]
  rfl

theorem assembledFields_clean {added : List (Text × Text)}
    (clean : ∀ field ∈ headers, CleanField field) (tidy : ∀ field ∈ added, CleanField field) :
    ∀ field ∈ assembledFields headers ++ added, CleanField field :=
  forall_mem_append.mpr ⟨fun field member => clean field (mem_of_mem_filter member), tidy⟩

theorem cleanField_contentLength (n : Nat) : CleanField (lit "Content-Length", decimal n) where
  nameLine := show '\n' ∉ lit "Content-Length" by with_unfolding_all decide
  nameColon := show ':' ∉ lit "Content-Length" by with_unfolding_all decide
  nameTrimmed := by with_unfolding_all rfl
  valueLine := fun member => absurd (isDigit_of_mem_decimal member) (by decide)
  valueTrimmed := trim_decimal n

theorem assemble200Head_split (clean : ∀ field ∈ headers, CleanField field) (length : Nat)
    (body : Bytes) :
    (∃ fields, splitResponse (assemble200Head headers length ++ body) = some (200, fields, body) ∧
      headerGet fields (lit "content-length") = some (decimal length)) ∧
    ∃ head, cut headEnd (assemble200Head headers length ++ body) = some (head, body) ∧
      head ++ headEnd = assemble200Head headers length := by
  have tidy := assembledFields_clean clean (forall_mem_singleton.mpr (cleanField_contentLength length))
  have number : statusCode (lit "HTTP/1.1 200 OK") = some 200 := by with_unfolding_all rfl
  obtain ⟨split, cutOff⟩ := splitResponse_assembleHead (by with_unfolding_all decide) number tidy body
  refine ⟨⟨_, split, ?_⟩, cutOff⟩
  rw [headerGet_assembled (by with_unfolding_all decide)]
  simp [headerGet, show eqIgnoreCase (lit "Content-Length") (lit "content-length") = true by
    with_unfolding_all rfl]

def contentRangeText (start last total : Nat) : Text :=
  lit "bytes " ++ decimal start ++ ['-'] ++ decimal last ++ ['/'] ++ decimal total

theorem trim_contentRangeText (start last total : Nat) :
    trim (contentRangeText start last total) = contentRangeText start last total := by
  obtain ⟨front, digit, ends⟩ : ∃ front digit, decimal total = front ++ [digit] :=
    ⟨_, _, (dropLast_append_getLast (decimal_ne_nil total)).symm⟩
  have solid : isBlank digit = false :=
    isBlank_of_isDigit (isDigit_of_mem_decimal (show digit ∈ decimal total by simp [ends]))
  have shape : contentRangeText start last total = 'b' :: (['y', 't', 'e', 's', ' '] ++
      decimal start ++ ['-'] ++ decimal last ++ ['/'] ++ front ++ [digit]) := by
    simp [contentRangeText, lit, ends]
  rw [shape]
  exact trim_enclosed (by decide) solid _

theorem contentRangeValue_text {start last total : Nat} (ordered : start ≤ last)
    (inside : last < total) (small : total < 2 ^ 64) :
    contentRangeValue (contentRangeText start last total) = some ⟨start, last, total⟩ := by
  have notDigit : ∀ {n : Nat} {c : Char}, c.isDigit = false → c ∉ decimal n :=
    fun other member => by simp [isDigit_of_mem_decimal member] at other
  have unit : contentRangeText start last total = lit "bytes" ++ ' ' ::
      (decimal start ++ '-' :: decimal last ++ '/' :: decimal total) := by
    simp [contentRangeText, lit]
  have unitSplit : splitOnce ' ' (contentRangeText start last total) = some (lit "bytes",
      decimal start ++ '-' :: decimal last ++ '/' :: decimal total) := by
    rw [unit]
    exact splitOnce_append (by with_unfolding_all decide) _
  have opens : trimStart (decimal start ++ '-' :: decimal last ++ '/' :: decimal total) =
      decimal start ++ '-' :: decimal last ++ '/' :: decimal total := by
    cases digits : decimal start with
    | nil => exact absurd digits (decimal_ne_nil start)
    | cons first rest =>
      have digit : first ∈ decimal start := by simp [digits]
      exact trimStart_cons (isBlank_of_isDigit (isDigit_of_mem_decimal digit)) _
  have slash : splitOnce '/' (decimal start ++ '-' :: decimal last ++ '/' :: decimal total) =
      some (decimal start ++ '-' :: decimal last, decimal total) := by
    refine splitOnce_append ?_ _
    simp [notDigit (show '/'.isDigit = false by decide)]
  have dash : splitOnce '-' (decimal start ++ '-' :: decimal last) =
      some (decimal start, decimal last) :=
    splitOnce_append (notDigit (by decide)) _
  have numbers : contentRangeNumbers (decimal start ++ '-' :: decimal last ++ '/' ::
      decimal total) = some (start, last, total) := by
    unfold contentRangeNumbers
    rw [opens, slash]
    simp only [dash]
    rw [trim_decimal, trim_decimal, trim_decimal, parseUnsigned_decimal (by omega),
      parseUnsigned_decimal (by omega), parseUnsigned_decimal small]
  unfold contentRangeValue
  rw [trim_contentRangeText, unitSplit]
  simp only [show eqIgnoreCase (lit "bytes") (lit "bytes") = true by with_unfolding_all rfl, if_true,
    numbers]
  rw [if_neg (by omega)]

def partialAnswer (entity : Bytes) (start last : Nat) : Bytes :=
  assembleHead (lit "HTTP/1.1 206 Partial Content")
    [(lit "Content-Range", contentRangeText start last entity.length),
      (lit "Content-Length", decimal (last + 1 - start))] ++ slice entity (start, last)

theorem cleanField_contentRange (start last total : Nat) :
    CleanField (lit "Content-Range", contentRangeText start last total) where
  nameLine := show '\n' ∉ lit "Content-Range" by with_unfolding_all decide
  nameColon := show ':' ∉ lit "Content-Range" by with_unfolding_all decide
  nameTrimmed := by with_unfolding_all rfl
  valueLine := by
    have notDigit : ∀ n, '\n' ∉ decimal n := fun n member =>
      absurd (isDigit_of_mem_decimal member) (by decide)
    simp [contentRangeText, lit, notDigit]
  valueTrimmed := trim_contentRangeText start last total

theorem split_partialHead (clean : ∀ field ∈ headers, CleanField field) {start last total : Nat}
    (ordered : start ≤ last) (inside : last < total) (small : total < 2 ^ 64) (length : Nat)
    (body : Bytes) :
    let head := assembleHead (lit "HTTP/1.1 206 Partial Content") (assembledFields headers ++
      [(lit "Content-Range", contentRangeText start last total),
        (lit "Content-Length", decimal length)])
    (∃ fields, splitResponse (head ++ body) = some (206, fields, body) ∧
      parseContentRange fields = some ⟨start, last, total⟩ ∧
      headerGet fields (lit "content-length") = some (decimal length)) ∧
    ∃ front, cut headEnd (head ++ body) = some (front, body) ∧ front ++ headEnd = head := by
  intro head
  have tidy := assembledFields_clean clean (forall_mem_cons.mpr
    ⟨cleanField_contentRange start last total,
      forall_mem_singleton.mpr (cleanField_contentLength length)⟩)
  have number : statusCode (lit "HTTP/1.1 206 Partial Content") = some 206 := by
    with_unfolding_all rfl
  obtain ⟨split, cutOff⟩ := splitResponse_assembleHead (by with_unfolding_all decide) number tidy body
  refine ⟨⟨_, split, ?_, ?_⟩, cutOff⟩
  · unfold parseContentRange
    rw [headerGet_assembled (by with_unfolding_all decide)]
    have first : eqIgnoreCase (lit "Content-Range") (lit "content-range") = true := by
      with_unfolding_all rfl
    simp [headerGet, first, contentRangeValue_text ordered inside small]
  · rw [headerGet_assembled (by with_unfolding_all decide)]
    have first : eqIgnoreCase (lit "Content-Range") (lit "content-length") = false := by
      with_unfolding_all rfl
    have second : eqIgnoreCase (lit "Content-Length") (lit "content-length") = true := by
      with_unfolding_all rfl
    simp [headerGet, first, second]

theorem split_partialAnswer {entity : Bytes} {start last : Nat} (ordered : start ≤ last)
    (inside : last < entity.length) (small : entity.length < 2 ^ 64) :
    ∃ fields, splitResponse (partialAnswer entity start last) =
        some (206, fields, slice entity (start, last)) ∧
      parseContentRange fields = some ⟨start, last, entity.length⟩ ∧
      headerGet fields (lit "content-length") = some (decimal (last + 1 - start)) :=
  (@split_partialHead [] (by simp) start last entity.length ordered inside small
    (last + 1 - start) (slice entity (start, last))).1

theorem faithful_partialAnswer {entity : Bytes} {start last : Nat} (ordered : start ≤ last)
    (inside : last < entity.length) (small : entity.length < 2 ^ 64) :
    Faithful entity (partialAnswer entity start last) := by
  obtain ⟨fields, split, named, -⟩ := split_partialAnswer ordered inside small
  intro headers body range other otherNamed _ _
  rw [split] at other
  cases other
  rw [named] at otherNamed
  cases otherNamed
  rfl

theorem validateProbeRange_eq_some {body : Bytes} {requestedEnd : Nat}
    (accepted : validateProbeRange 206 headers body requestedEnd = some range) :
    parseContentRange headers = some range ∧ range.start = 0 ∧ range.last ≤ requestedEnd := by
  simp only [validateProbeRange, ne_eq, not_true_eq_false, if_false] at accepted
  split at accepted
  · cases accepted
  · rename_i found named
    split_ifs at accepted with misplaced
    cases accepted
    exact ⟨named, by omega⟩

theorem streamRangeResponseTo_exact (answers : RelayRequest → Bytes)
    (transformHead : Bytes → Bytes) (url : Text) (headers probeHeaders : List (Text × Text))
    (entity probe probeBody : Bytes) (range : ContentRange)
    (split : splitResponse probe = some (206, probeHeaders, probeBody))
    (accepted : validateProbeRange 206 probeHeaders probeBody (rangeParallelChunkBytes - 1) =
      some range)
    (length : probeBody.length = range.last + 1 - range.start)
    (sized : range.total = entity.length) (probeFaithful : Faithful entity probe)
    (faithful : ∀ planned ∈ planRemainingRanges range.last range.total rangeParallelChunkBytes,
      Faithful entity (answers (chunkRequest url headers planned))) :
    let planned := planRemainingRanges range.last range.total rangeParallelChunkBytes
    let fetches := fetchChunksStream answers url headers planned range.total
    let written := streamRangeResponseTo transformHead probeHeaders probeBody range.total fetches
    let head := assemble200Head probeHeaders range.total
    let body := written.writes.tail.flatten
    (∃ fields, splitResponse (head ++ entity) = some (200, fields, entity) ∧
      headerGet fields (lit "content-length") = some (decimal range.total)) ∧
    written.writes.head? = some (transformHead head) ∧
    (written.result = .ok () →
      body = probeBody ++ (planned.map (slice entity)).flatten ∧ body = entity ∧
        body.length = range.total) ∧
    ((∃ reason, .error reason ∈ fetches) →
      (∃ reason, written.result = .error reason) ∧ body <+: entity ∧ body ≠ entity) := by
  intro planned fetches written head body
  obtain ⟨named, start, -⟩ := validateProbeRange_eq_some accepted
  obtain ⟨-, inside, fits⟩ := contentRange_inside named
  have covers := planRemainingRanges_consecutive (show 0 < rangeParallelChunkBytes by decide) fits
    inside
  have probed := probeFaithful probeHeaders probeBody range split named sized length
  have behind := covers.flatten_slices entity
  have bodyIs : body = probeBody ++ (streamChunks fetches).writes.flatten := by
    simp [body, written, streamRangeResponseTo, streamChunksToWriter]
  have outcome := streamed_body (contentRange_inside named).1 (sized ▸ inside) (sized ▸ fits)
    probed (sized ▸ faithful)
  rw [← sized, start, drop_zero] at outcome
  refine ⟨(assemble200Head_split (splitResponse_clean split) _ entity).1, rfl, ?_, ?_⟩
  · intro ended
    rcases outcome with ⟨-, -, whole⟩ | ⟨reason, stopped, -⟩
    · rw [← bodyIs] at whole
      refine ⟨?_, whole, by rw [whole, sized]⟩
      rw [behind, sized, take_of_length_le (by rw [length_drop]), probed, whole, start]
      exact (take_append_drop _ entity).symm
    · exact absurd (ended.symm.trans stopped) (by simp)
  · rintro ⟨cause, failed⟩
    rcases outcome with ⟨-, all, -⟩ | ⟨reason, stopped, begins, short⟩
    · obtain ⟨chunk, usable⟩ := all _ failed
      cases usable
    · exact ⟨⟨reason, stopped⟩, begins, short⟩

theorem streamRangeResponseTo_exact_three :
    ∃ fields written, written = streamRangeResponseTo id fields [97] 3
        (fetchChunksStream (fun _ => partialAnswer [97, 98, 99] 1 2) [] []
          (planRemainingRanges 0 3 rangeParallelChunkBytes) 3) ∧
      (written.result = .ok () → written.writes.tail.flatten = [97, 98, 99]) := by
  obtain ⟨fields, split, named, -⟩ :=
    @split_partialAnswer [97, 98, 99] 0 0 (by omega) (by decide) (by decide)
  have accepted : validateProbeRange 206 fields [97] (rangeParallelChunkBytes - 1) =
      some ⟨0, 0, 3⟩ := by
    simp only [validateProbeRange, named]
    decide
  have exact_ := streamRangeResponseTo_exact (fun _ => partialAnswer [97, 98, 99] 1 2) id [] []
    fields [97, 98, 99] (partialAnswer [97, 98, 99] 0 0) [97] ⟨0, 0, 3⟩ split accepted rfl rfl
    (faithful_partialAnswer (by omega) (by decide) (by decide))
    (fun _ _ => faithful_partialAnswer (by omega) (by decide) (by decide))
  exact ⟨fields, _, rfl, fun ended => (exact_.2.2.1 ended).2.1⟩

end Gvpn
