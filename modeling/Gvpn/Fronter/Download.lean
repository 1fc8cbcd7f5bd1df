import Gvpn.Fronter.Range

/-! What a client is given for a request that may be relayed in ranges. -/

namespace Gvpn

inductive RangeReply where
  -- An answer is passed on as it is.
  | passed (raw : Bytes)
  -- Nothing is written, so the client asks again.
  | closed (reason : Text)
  -- Complete, assembled out of partial answers.
  | assembled (raw : Bytes)
  -- Complete, and written while its chunks are fetched.
  | streamed (headers : List (Text × Text)) (probeBody : Bytes) (total : Nat)
      (fetches : List (Except Text Bytes))
  -- From a position on, written while its chunks are fetched.
  | resumed (headers : List (Text × Text)) (probeBody : Bytes) (start total : Nat)
      (fetches : List (Except Text Bytes))

def RangeReply.write (transformHead : Bytes → Bytes) : RangeReply → Written
  | .passed raw | .assembled raw => writeResponseWithHeadTransform transformHead raw
  | .closed reason => ⟨[], .error reason⟩
  | .streamed headers probeBody total fetches =>
    streamRangeResponseTo transformHead headers probeBody total fetches
  | .resumed headers probeBody start total fetches =>
    streamChunksToWriter (transformHead (assemble206Head headers start total)) probeBody fetches

def tooLargeMessage : Text :=
  lit "Advertised Content-Range total exceeds relay's streaming " ++
    lit "ceiling. The origin reported a size larger than the relay " ++
    lit "is willing to fetch through Apps Script; refusing to spend " ++
    lit "daily quota on a likely-hostile or buggy origin."

section

variable (answers : RelayRequest → Bytes) (request : RelayRequest)

def stitchedReply (headers : List (Text × Text)) (probeBody : Bytes) (total : Nat)
    (fetches : List (Except Text Bytes)) : RangeReply :=
  match stitchChunks fetches with
  | none => .passed (answers request)
  | some rest =>
    if (probeBody ++ rest).length = total then
      .assembled (assembleFull200 headers (probeBody ++ rest))
    else .passed (answers request)

def remainderReply (headers : List (Text × Text)) (probeBody : Bytes) (range : ContentRange)
    (streamingAllowed : Bool) : RangeReply :=
  let fetches := fetchChunksStream answers request.url request.headers
    (planRemainingRanges range.last range.total rangeParallelChunkBytes) range.total
  match dispatchRangeResponse range.total streamingAllowed with
  | .stream => .streamed headers probeBody range.total fetches
  | .fallbackSingleGet => .passed (answers request)
  | .rejectTooLarge => .passed (errorResponse 502 tooLargeMessage)
  | .buffered => stitchedReply answers request headers probeBody range.total fetches

def probeRequest : RelayRequest :=
  { request with headers := request.headers ++ [rangeField 0 (rangeParallelChunkBytes - 1)] }

def probedReply (streamingAllowed : Bool) : RangeReply :=
  let first := answers (probeRequest request)
  match splitResponse first with
  | none => .passed first
  | some (status, headers, body) =>
    if status ≠ 206 then .passed first
    else
      match validateProbeRange status headers body (rangeParallelChunkBytes - 1) with
      | none => .passed (answers request)
      | some range =>
        if range.total ≤ rangeParallelChunkBytes ∨ range.total ≤ range.last + 1 then
          .assembled (rewrite206To200 first)
        else remainderReply answers request headers body range streamingAllowed

def offsetProbeEnd (start : Nat) : Nat := (start + rangeParallelChunkBytes + u64Max) % 2 ^ 64

def offsetProbeRequest (start : Nat) : RelayRequest :=
  { request with headers := withoutRange request.headers ++ [rangeField start (offsetProbeEnd start)] }

def resumedReply (start : Nat) : RangeReply :=
  let first := answers (offsetProbeRequest request start)
  match splitResponse first with
  | none => .closed (lit "range-parallel-resume: malformed probe — closing for clean resume")
  | some (status, headers, body) =>
    if status ≠ 206 then
      if 400 ≤ status then
        .closed (lit "range-parallel-resume: probe status " ++ decimal status ++
          lit " — closing for clean resume")
      else .passed first
    else
      match validateProbeRangeAtOffset status headers body start (offsetProbeEnd start) with
      | none => .closed (lit "range-parallel-resume: invalid 206 — closing for clean resume")
      | some range =>
        -- A probe that reaches the end is passed on as it is.
        if range.total ≤ range.last + 1 then .passed first
        else
          .resumed headers body start range.total
            (fetchChunksStream answers request.url (withoutRange request.headers)
              (planRemainingRanges range.last range.total rangeParallelChunkBytes) range.total)

def honouredReply : RangeReply :=
  let raw := answers request
  let status := ((splitResponse raw).map Prod.fst).getD 0
  if 400 ≤ status ∨ status = 0 then
    .closed (lit "range relay status " ++ decimal status ++ lit " — closing for clean resume")
  else .passed raw

def parallelRangeReply (streamingAllowed : Bool) : RangeReply :=
  if request.method ≠ lit "GET" ∨ request.body ≠ [] then .passed (answers request)
  else
    match headerGet request.headers (lit "range") with
    | some value =>
      match (parseRangeStart value).filter (0 < ·) with
      | some start => resumedReply answers request start
      | none => honouredReply answers request
    | none => probedReply answers request streamingAllowed

def maxParallel : Nat := 16

/-- The ranges asked for while streaming, with those in flight behind an unusable chunk. -/
def streamedRanges (ranges : List (Nat × Nat)) (fetches : List (Except Text Bytes)) :
    List (Nat × Nat) :=
  ranges.take (fetches.findIdx (fun fetch => !fetch.isOk) + maxParallel)

def resumedRanges (start : Nat) : List (Nat × Nat) :=
  match splitResponse (answers (offsetProbeRequest request start)) with
  | none => []
  | some (status, headers, body) =>
    match validateProbeRangeAtOffset status headers body start (offsetProbeEnd start) with
    | none => []
    | some range =>
      if range.total ≤ range.last + 1 then []
      else
        let ranges := planRemainingRanges range.last range.total rangeParallelChunkBytes
        streamedRanges ranges (fetchChunksStream answers request.url
          (withoutRange request.headers) ranges range.total)

def probedRanges (streamingAllowed : Bool) : List (Nat × Nat) :=
  match splitResponse (answers (probeRequest request)) with
  | none => []
  | some (status, headers, body) =>
    match validateProbeRange status headers body (rangeParallelChunkBytes - 1) with
    | none => []
    | some range =>
      if range.total ≤ rangeParallelChunkBytes ∨ range.total ≤ range.last + 1 then []
      else
        let ranges := planRemainingRanges range.last range.total rangeParallelChunkBytes
        match dispatchRangeResponse range.total streamingAllowed with
        | .stream => streamedRanges ranges
            (fetchChunksStream answers request.url request.headers ranges range.total)
        -- All chunks are collected before any is looked at.
        | .buffered => ranges
        | .fallbackSingleGet | .rejectTooLarge => []

def chunkRanges (streamingAllowed : Bool) : List (Nat × Nat) :=
  if request.method ≠ lit "GET" ∨ request.body ≠ [] then []
  else
    match headerGet request.headers (lit "range") with
    | some value =>
      match (parseRangeStart value).filter (0 < ·) with
      | some start => resumedRanges answers request start
      | none => []
    | none => probedRanges answers request streamingAllowed

def relayParallelRangeTo (transformHead : Bytes → Bytes) : Written :=
  (parallelRangeReply answers request true).write transformHead

def relayParallelRange : Bytes :=
  ((parallelRangeReply answers request false).write id).writes.flatten

end

end Gvpn
