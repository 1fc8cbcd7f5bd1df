import Gvpn.Proofs.Download

/-! Which range a client is given that asks for one from a position on. -/

namespace Gvpn

open List Option

structure ByteRange where
  first : Text
  last : Text
  firstSome : first ≠ []
  firstDigits : first.all Char.isDigit = true
  lastDigits : last.all Char.isDigit = true

namespace ByteRange

def value (asked : ByteRange) : Text := lit "bytes=" ++ asked.first ++ ['-'] ++ asked.last

def start (asked : ByteRange) : Nat := readDigits asked.first

def bound (asked : ByteRange) : Option Nat :=
  if asked.last = [] then none else some (readDigits asked.last)

theorem parseRangeStart_value (asked : ByteRange) :
    parseRangeStart asked.value = if asked.start < 2 ^ 64 then some asked.start else none := by
  have digits := List.all_eq_true.mp asked.firstDigits
  -- No character of the value is a blank.
  have trimmed : trim asked.value = asked.value := by
    refine trim_eq ?_
    intro c member
    simp only [value, lit, mem_append, mem_singleton] at member
    rcases member with ((unit | inside) | rfl) | inside
    · have solid : "bytes=".toList.all (fun c => !isBlank c) = true := by decide
      simpa using List.all_eq_true.mp solid c unit
    · exact isBlank_of_isDigit (digits c inside)
    · decide
    · exact isBlank_of_isDigit (List.all_eq_true.mp asked.lastDigits c inside)
  have stripped : stripStart (lit "bytes=") asked.value =
      some (asked.first ++ '-' :: asked.last) := stripStart_eq_some_iff.mpr (by simp [value])
  have taken : (asked.first ++ '-' :: asked.last).takeWhile (· ≠ '-') = asked.first := by
    refine (takeWhile_append_of_pos ?_).trans ?_
    · intro c member
      have digit := digits c member
      have other : c ≠ '-' := by
        rintro rfl
        exact absurd digit (by decide)
      simpa using other
    · simp
  have firstTrimmed : trim asked.first = asked.first :=
    trim_eq fun c member => isBlank_of_isDigit (digits c member)
  rw [parseRangeStart, trimmed, stripped, bind_some, taken, firstTrimmed]
  by_cases small : asked.start < 2 ^ 64
  · rw [if_pos small]
    exact parseUnsigned_digits asked.firstSome asked.firstDigits small
  · have unsigned : dropPlus asked.first = asked.first := by
      refine dropPlus_eq fun plus => ?_
      exact absurd (digits '+' plus) (by decide)
    rw [if_neg small, parseUnsigned, unsigned, if_neg fun fits => small fits.2.2]

end ByteRange

def Framed (raw : Bytes) : Prop :=
  ∀ headers body, splitResponse raw = some (206, headers, body) →
    headerGet headers (lit "content-length") = some (decimal body.length)

def KeepsTo (start : Nat) (bound : Option Nat) (raw : Bytes) : Prop :=
  ∀ headers body, splitResponse raw = some (206, headers, body) →
    ∃ range, parseContentRange headers = some range ∧ range.start = start ∧
      ∀ limit, bound = some limit → range.last ≤ limit

def HonoursRange (entity : Bytes) (start : Nat) (bound : Option Nat)
    (write : (Bytes → Bytes) → Written) : Prop :=
  ∀ head rest headers body,
    (∀ transformHead, (write transformHead).writes = transformHead head :: rest) →
    splitResponse (head ++ rest.flatten) = some (206, headers, body) →
    ∃ range, parseContentRange headers = some range ∧ range.start = start ∧
      (∀ limit, bound = some limit → range.last ≤ limit) ∧
      headerGet headers (lit "content-length") = some (decimal (range.last + 1 - range.start)) ∧
      ((write id).result = .ok () → rest.flatten = slice entity (range.start, range.last))

section

variable {entity raw : Bytes} {start : Nat} {bound : Option Nat}

theorem passed_honours_iff (truthful : Truthful entity raw) (framed : Framed raw) :
    HonoursRange entity start bound (fun transformHead =>
      writeResponseWithHeadTransform transformHead raw) ↔ KeepsTo start bound raw := by
  constructor
  · intro honours headers body split
    obtain ⟨front, found⟩ := cut_of_splitResponse split
    have whole := eq_append_of_cut found
    have writes : ∀ transformHead, (writeResponseWithHeadTransform transformHead raw).writes =
        transformHead (front ++ headEnd) :: [body] := by
      intro transformHead
      simp [writeResponseWithHeadTransform, found]
    obtain ⟨range, named, starts, ends, -⟩ := honours _ _ headers body writes
      (by rw [flatten_singleton, ← whole]; exact split)
    exact ⟨range, named, starts, ends⟩
  · intro keeps head rest headers body writes split
    have plain := writes id
    cases found : cut headEnd raw with
    | none =>
      simp only [writeResponseWithHeadTransform, found, id, cons.injEq] at plain
      rw [← plain.1, ← plain.2, flatten_nil, append_nil] at split
      obtain ⟨front, cuts⟩ := cut_of_splitResponse split
      simp [found] at cuts
    | some parts =>
      simp only [writeResponseWithHeadTransform, found, id, cons.injEq] at plain
      rw [← plain.1, ← plain.2, flatten_singleton, ← eq_append_of_cut found] at split
      obtain ⟨range, named, starts, ends⟩ := keeps headers body split
      obtain ⟨sized, part⟩ := truthful headers body range split named
      obtain ⟨-, inside, -⟩ := contentRange_inside named
      refine ⟨range, named, starts, ends, ?_, ?_⟩
      · rw [framed headers body split, part, slice_length (by simp only; omega)]
      · intro _
        obtain ⟨other, cuts⟩ := cut_of_splitResponse split
        rw [found, some.injEq, Prod.mk.injEq] at cuts
        rw [← plain.2, flatten_singleton, cuts.2, part]

theorem resumed_honours_iff {answers : RelayRequest → Bytes} {url : Text}
    {headers fields : List (Text × Text)} {probeBody : Bytes} {range : ContentRange}
    (truthful : ∀ asked, AsksForRange asked → Truthful entity (answers asked))
    (clean : ∀ field ∈ headers, CleanField field)
    (named : parseContentRange headers = some range) (starts : range.start = start)
    (sized : range.total = entity.length)
    (part : probeBody = slice entity (range.start, range.last)) :
    HonoursRange entity start bound
      (RangeReply.write · (.resumed headers probeBody start range.total
        (fetchChunksStream answers url fields
          (planRemainingRanges range.last range.total rangeParallelChunkBytes) range.total))) ↔
      ∀ limit, bound = some limit → range.total ≤ limit + 1 := by
  obtain ⟨ordered, inside, fits⟩ := contentRange_inside named
  have small : range.total < 2 ^ 64 := by
    unfold u64Max at fits
    omega
  have heads := fun body => (@split_partialHead headers clean start (range.total - 1) range.total
    (by omega) (by omega) small (range.total - start) body).1
  constructor
  · intro honours limit bounded
    obtain ⟨found, split, rangeIs, -⟩ := heads (probeBody ++ (streamChunks (fetchChunksStream
      answers url fields (planRemainingRanges range.last range.total rangeParallelChunkBytes)
      range.total)).writes.flatten)
    obtain ⟨other, otherIs, -, ends, -⟩ := honours _ _ found _ (fun _ => rfl)
      (by rw [flatten_cons]; exact split)
    rw [rangeIs, some.injEq] at otherIs
    have limited := ends limit bounded
    rw [← otherIs] at limited
    simp only at limited
    omega
  · intro reaches head rest found body writes split
    have plain := writes id
    simp only [RangeReply.write, streamChunksToWriter, id, cons.injEq] at plain
    obtain ⟨known, knownSplit, rangeIs, lengthIs⟩ := heads rest.flatten
    have headIs : head = assembleHead (lit "HTTP/1.1 206 Partial Content")
        (assembledFields headers ++
          [(lit "Content-Range", contentRangeText start (range.total - 1) range.total),
            (lit "Content-Length", decimal (range.total - start))]) := plain.1.symm
    rw [headIs, knownSplit, some.injEq] at split
    cases split
    refine ⟨_, rangeIs, rfl, ?_, ?_, ?_⟩
    · intro limit bounded
      have far := reaches limit bounded
      simp only
      omega
    · rw [lengthIs]
      congr 2
      simp only
      omega
    · intro ended
      have faithful : ∀ planned ∈ planRemainingRanges range.last entity.length
          rangeParallelChunkBytes, Faithful entity (answers (chunkRequest url fields planned)) :=
        fun planned _ => (truthful _ (asksForRange_chunkRequest _ _ planned)).faithful
      have outcome := streamed_body ordered (sized ▸ inside) (sized ▸ fits) part faithful
      rw [← sized] at outcome
      rcases outcome with ⟨-, -, whole⟩ | ⟨reason, stopped, -⟩
      · rw [← plain.2, flatten_cons, whole, starts, slice,
          take_of_length_le (by rw [length_drop]; simp only; omega)]
      · exact absurd (ended.symm.trans stopped) (by simp)

end

variable {start : Nat}

theorem validateProbeRangeAtOffset_eq_some {headers : List (Text × Text)} {body : Bytes}
    {requestedEnd : Nat} {range : ContentRange}
    (accepted : validateProbeRangeAtOffset 206 headers body start requestedEnd = some range) :
    parseContentRange headers = some range ∧ range.start = start ∧ range.last ≤ requestedEnd ∧
      body.length = range.last + 1 - start := by
  unfold validateProbeRangeAtOffset at accepted
  cases named : parseContentRange headers with
  | none => simp [named] at accepted
  | some found =>
    simp only [named, ne_eq, not_true_eq_false, if_false] at accepted
    split at accepted
    · cases accepted
    · rename_i fits
      split at accepted
      · rename_i measured
        cases accepted
        obtain ⟨starts, ends⟩ := not_or.mp fits
        have counted := (of_decide_eq_true measured).2
        have ordered := (contentRange_inside named).1
        exact ⟨rfl, Decidable.not_not.mp starts, Nat.not_lt.mp ends, by omega⟩
      · cases accepted

def ReachesEnd (start : Nat) (bound : Option Nat) (probe : Bytes) : Prop :=
  ∀ headers body range, splitResponse probe = some (206, headers, body) →
    validateProbeRangeAtOffset 206 headers body start (offsetProbeEnd start) = some range →
      ∀ limit, bound = some limit → range.total ≤ limit + 1

theorem closed_honours (entity : Bytes) (start : Nat) (bound : Option Nat) (reason : Text) :
    HonoursRange entity start bound (RangeReply.write · (.closed reason)) := by
  intro head rest headers body writes _
  exact absurd (writes id) (by simp [RangeReply.write])

section

variable {probe : Bytes} {status start : Nat} {bound : Option Nat} {headers : List (Text × Text)}
  {body : Bytes} {range : ContentRange}

theorem keepsTo_of_whole (split : splitResponse probe = some (status, headers, body))
    (whole : status ≠ 206) : KeepsTo start bound probe := by
  intro _ _ found
  rw [split] at found
  cases found
  exact absurd rfl whole

theorem reachesEnd_of_whole (split : splitResponse probe = some (status, headers, body))
    (whole : status ≠ 206) : ReachesEnd start bound probe := by
  intro _ _ _ found
  rw [split] at found
  cases found
  exact absurd rfl whole

theorem reachesEnd_iff (split : splitResponse probe = some (206, headers, body))
    (accepted : validateProbeRangeAtOffset 206 headers body start (offsetProbeEnd start) =
      some range) :
    ReachesEnd start bound probe ↔ ∀ limit, bound = some limit → range.total ≤ limit + 1 := by
  constructor
  · intro reaches
    exact reaches headers body range split accepted
  · intro reaches _ _ _ found used
    rw [split] at found
    cases found
    rw [accepted] at used
    cases used
    exact reaches

theorem keepsTo_iff_of_end (split : splitResponse probe = some (206, headers, body))
    (named : parseContentRange headers = some range) (starts : range.start = start)
    (ended : range.total ≤ range.last + 1) :
    KeepsTo start bound probe ↔ ∀ limit, bound = some limit → range.total ≤ limit + 1 := by
  have inside := (contentRange_inside named).2.1
  constructor
  · intro keeps limit bounded
    obtain ⟨found, foundIs, -, ends⟩ := keeps headers body split
    rw [named, some.injEq] at foundIs
    have limited := ends limit bounded
    rw [← foundIs] at limited
    omega
  · intro reaches _ _ found
    rw [split] at found
    cases found
    refine ⟨range, named, starts, ?_⟩
    intro limit bounded
    have far := reaches limit bounded
    omega

end

theorem resumedReply_honours_iff {answers : RelayRequest → Bytes} {request : RelayRequest}
    {entity : Bytes} {bound : Option Nat}
    (truthful : ∀ asked, AsksForRange asked →
      Truthful entity (answers asked) ∧ Framed (answers asked)) :
    HonoursRange entity start bound (RangeReply.write · (resumedReply answers request start)) ↔
      ReachesEnd start bound (answers (offsetProbeRequest request start)) := by
  obtain ⟨probeTruthful, probeFramed⟩ := truthful (offsetProbeRequest request start)
    (asksForRange_append _ _)
  have closed := closed_honours entity start bound
  have passed := @passed_honours_iff entity _ start bound probeTruthful probeFramed
  unfold resumedReply
  dsimp only
  split
  · rename_i split
    refine iff_of_true (closed _) ?_
    intro headers body range other
    simp [split] at other
  · rename_i status headers body split
    split
    · -- An answer that is not partial closes the download, or is passed on as it is.
      rename_i other
      have reaches := @reachesEnd_of_whole _ _ start bound _ _ split other
      split
      · exact iff_of_true (closed _) reaches
      · exact iff_of_true (passed.mpr (keepsTo_of_whole split other)) reaches
    · obtain rfl : status = 206 := by omega
      split
      · rename_i refused
        refine iff_of_true (closed _) ?_
        intro _ _ _ found used
        rw [split] at found
        cases found
        simp [refused] at used
      · rename_i range accepted
        obtain ⟨named, starts, -⟩ := validateProbeRangeAtOffset_eq_some accepted
        obtain ⟨sized, part⟩ := probeTruthful headers body range split named
        rw [reachesEnd_iff split accepted]
        split
        · -- The probe reaches the end, and it is passed on.
          rename_i ended
          exact passed.trans (keepsTo_iff_of_end split named starts ended)
        · exact resumed_honours_iff (fun asked asks => (truthful asked asks).1)
            (splitResponse_clean split) named starts sized part

theorem parallelRangeReply_resumed {answers : RelayRequest → Bytes} {request : RelayRequest}
    {client : ByteRange} (get : request.method = lit "GET") (empty : request.body = [])
    (asks : headerGet request.headers (lit "range") = some client.value)
    (positive : 0 < client.start) (small : client.start < 2 ^ 64) (streamingAllowed : Bool) :
    parallelRangeReply answers request streamingAllowed =
      resumedReply answers request client.start := by
  have read := client.parseRangeStart_value
  rw [if_pos small] at read
  simp only [parallelRangeReply, get, empty, ne_eq, not_true_eq_false, or_self_iff, if_false, asks,
    read, filter_some, positive, decide_true, if_true]

/--
A partial response holds the range that was asked for exactly when that reaches the end of the
entity; what is relayed as it is keeps to it by itself.
-/
theorem relayParallelRangeTo_honours_iff (answers : RelayRequest → Bytes) (request : RelayRequest)
    (entity : Bytes) (client : ByteRange) (get : request.method = lit "GET")
    (asks : headerGet request.headers (lit "range") = some client.value)
    (positive : 0 < client.start)
    (truthful : ∀ asked, AsksForRange asked →
      Truthful entity (answers asked) ∧ Framed (answers asked)) :
    HonoursRange entity client.start client.bound (relayParallelRangeTo answers request) ↔
      if request.body = [] ∧ client.start < 2 ^ 64 then
        ReachesEnd client.start client.bound (answers (offsetProbeRequest request client.start))
      else KeepsTo client.start client.bound (answers request) := by
  obtain ⟨ownTruthful, ownFramed⟩ := truthful request (by simp [AsksForRange, asks])
  have passed := @passed_honours_iff entity _ client.start client.bound ownTruthful ownFramed
  by_cases empty : request.body = []
  · by_cases small : client.start < 2 ^ 64
    · rw [if_pos ⟨empty, small⟩]
      unfold relayParallelRangeTo
      rw [parallelRangeReply_resumed get empty asks positive small]
      exact resumedReply_honours_iff truthful
    · rw [if_neg fun both => small both.2]
      have unread := client.parseRangeStart_value
      rw [if_neg small] at unread
      have reply : parallelRangeReply answers request true = honouredReply answers request := by
        simp [parallelRangeReply, get, empty, asks, unread]
      unfold relayParallelRangeTo
      rw [reply]
      unfold honouredReply
      simp only
      split
      · rename_i failed
        refine iff_of_true (closed_honours _ _ _ _) ?_
        intro headers body split
        simp [split] at failed
      · exact passed
  · rw [if_neg fun both => empty both.1]
    have reply : parallelRangeReply answers request true = .passed (answers request) := by
      simp [parallelRangeReply, empty]
    unfold relayParallelRangeTo
    rw [reply]
    exact passed

theorem framed_partialAnswer {entity : Bytes} {last : Nat} (ordered : start ≤ last)
    (inside : last < entity.length) (small : entity.length < 2 ^ 64) :
    Framed (partialAnswer entity start last) := by
  obtain ⟨fields, split, -, declared⟩ := split_partialAnswer ordered inside small
  intro headers body other
  rw [split] at other
  cases other
  rw [declared, slice_length inside]

def fromSecondByte : ByteRange := ⟨['1'], [], by simp, rfl, rfl⟩

def secondByte : ByteRange := ⟨['1'], ['1'], by simp, rfl, rfl⟩

theorem relayParallelRangeTo_honours_three :
    HonoursRange [97, 98, 99] fromSecondByte.start fromSecondByte.bound
        (relayParallelRangeTo (fun _ => partialAnswer [97, 98, 99] 1 2)
          (fileRequest [(lit "Range", fromSecondByte.value)])) ↔
      if (fileRequest [(lit "Range", fromSecondByte.value)]).body = [] ∧
          fromSecondByte.start < 2 ^ 64 then
        ReachesEnd fromSecondByte.start fromSecondByte.bound (partialAnswer [97, 98, 99] 1 2)
      else KeepsTo fromSecondByte.start fromSecondByte.bound (partialAnswer [97, 98, 99] 1 2) :=
  relayParallelRangeTo_honours_iff _ _ _ fromSecondByte rfl (by decide +kernel) (by decide)
    fun _ _ => ⟨truthful_partialAnswer (by omega) (by decide) (by decide),
      framed_partialAnswer (by omega) (by decide) (by decide)⟩

theorem relayParallelRangeTo_beyond_bound :
    (∀ asked, AsksForRange asked →
      Truthful [97, 98, 99] ((fun _ => partialAnswer [97, 98, 99] 1 2) asked) ∧
        Framed ((fun _ => partialAnswer [97, 98, 99] 1 2) asked)) ∧
    (∃ head, relayParallelRangeTo (fun _ => partialAnswer [97, 98, 99] 1 2)
      (fileRequest [(lit "Range", secondByte.value)]) id = ⟨[head, [98, 99]], .ok ()⟩) ∧
    ¬ HonoursRange [97, 98, 99] 1 (some 1)
      (relayParallelRangeTo (fun _ => partialAnswer [97, 98, 99] 1 2)
        (fileRequest [(lit "Range", secondByte.value)])) := by
  have truthful : ∀ asked, AsksForRange asked →
      Truthful [97, 98, 99] ((fun _ => partialAnswer [97, 98, 99] 1 2) asked) ∧
        Framed ((fun _ => partialAnswer [97, 98, 99] 1 2) asked) :=
    fun _ _ => ⟨truthful_partialAnswer (by omega) (by decide) (by decide),
      framed_partialAnswer (by omega) (by decide) (by decide)⟩
  obtain ⟨fields, split, named, -⟩ :=
    @split_partialAnswer [97, 98, 99] 1 2 (by omega) (by decide) (by decide)
  have accepted : validateProbeRangeAtOffset 206 fields [98, 99] 1 (offsetProbeEnd 1) =
      some ⟨1, 2, 3⟩ := by
    simp only [validateProbeRangeAtOffset, named]
    decide
  have probed : parallelRangeReply (fun _ => partialAnswer [97, 98, 99] 1 2)
      (fileRequest [(lit "Range", secondByte.value)]) true =
        resumedReply (fun _ => partialAnswer [97, 98, 99] 1 2)
          (fileRequest [(lit "Range", secondByte.value)]) 1 :=
    @parallelRangeReply_resumed _ _ secondByte rfl rfl (by decide +kernel) (by decide) (by decide)
      true
  refine ⟨truthful, ?_, ?_⟩
  · obtain ⟨front, found⟩ := cut_of_splitResponse split
    refine ⟨front ++ headEnd, ?_⟩
    have reply : resumedReply (fun _ => partialAnswer [97, 98, 99] 1 2)
        (fileRequest [(lit "Range", secondByte.value)]) 1 =
          .passed (partialAnswer [97, 98, 99] 1 2) := by
      have content : slice [97, 98, 99] (1, 2) = ([98, 99] : Bytes) := rfl
      rw [content] at split
      simp [resumedReply, split, accepted]
    rw [relayParallelRangeTo, probed, reply, RangeReply.write, writeResponseWithHeadTransform,
      found]
    rfl
  · unfold relayParallelRangeTo
    rw [probed, resumedReply_honours_iff truthful]
    intro reaches
    have far := reaches fields [98, 99] ⟨1, 2, 3⟩ split accepted 1 rfl
    simp at far

end Gvpn
