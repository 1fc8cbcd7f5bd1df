import Gvpn.Fronter.Relay

/-! Downloads in ranges: a probe, the ranges behind it, and the response. -/

namespace Gvpn

def rangeParallelChunkBytes : Nat := 256 * 1024

def appsScriptBodyMaxBytes : Nat := 40 * 1024 * 1024

def maxStreamedRangeBytes : Nat := 16 * 1024 * 1024 * 1024

def bufferedStitchMaxBytes : Nat := 64 * 1024 * 1024

def u64Max : Nat := 2 ^ 64 - 1

def saturatingAdd (left right : Nat) : Nat := min (left + right) u64Max

structure ContentRange where
  start : Nat
  last : Nat
  total : Nat
  deriving DecidableEq

def contentRangeNumbers (text : Text) : Option (Nat × Nat × Nat) :=
  match splitOnce '/' (trimStart text) with
  | none => none
  | some (range, total) =>
    match splitOnce '-' range with
    | none => none
    | some (start, last) =>
      match parseUnsigned (2 ^ 64) (trim start), parseUnsigned (2 ^ 64) (trim last),
        parseUnsigned (2 ^ 64) (trim total) with
      | some start, some last, some total => some (start, last, total)
      | _, _, _ => none

def contentRangeValue (value : Text) : Option ContentRange :=
  match splitOnce ' ' (trim value) with
  | none => none
  | some (unit, rest) =>
    if eqIgnoreCase unit (lit "bytes") then
      match contentRangeNumbers rest with
      | none => none
      | some (start, last, total) =>
        if last < start ∨ total = 0 ∨ total ≤ last then none else some ⟨start, last, total⟩
    else none

def parseContentRange (headers : List (Text × Text)) : Option ContentRange :=
  (headerGet headers (lit "content-range")).bind contentRangeValue

def contentRangeMatchesBody (range : ContentRange) (length : Nat) : Bool :=
  0 < length ∧ range.last - range.start + 1 = length

/-- Whether the probe names all of an entity that fits into it and was not decompressed. -/
def probeRangeCoversCompleteEntity (range : ContentRange) (requestedEnd : Nat) : Bool :=
  range.start = 0 ∧ range.total ≤ saturatingAdd range.last 1 ∧
    range.total ≤ saturatingAdd requestedEnd 1

def validateProbeRange (status : Nat) (headers : List (Text × Text)) (body : Bytes)
    (requestedEnd : Nat) : Option ContentRange :=
  if status ≠ 206 then none
  else
    match parseContentRange headers with
    | none => none
    | some range =>
      if range.start ≠ 0 ∨ requestedEnd < range.last then none
      else if contentRangeMatchesBody range body.length ∨
          probeRangeCoversCompleteEntity range requestedEnd then some range
      else none

def parseRangeStart (value : Text) : Option Nat :=
  (stripStart (lit "bytes=") (trim value)).bind fun rest =>
    parseUnsigned (2 ^ 64) (trim (rest.takeWhile (· ≠ '-')))

def validateProbeRangeAtOffset (status : Nat) (headers : List (Text × Text)) (body : Bytes)
    (requestedStart requestedEnd : Nat) : Option ContentRange :=
  if status ≠ 206 then none
  else
    match parseContentRange headers with
    | none => none
    | some range =>
      if range.start ≠ requestedStart ∨ requestedEnd < range.last then none
      else if contentRangeMatchesBody range body.length then some range
      else none

def extractExactRangeBody (raw : Bytes) (start last total : Nat) : Except Text Bytes :=
  match splitResponse raw with
  | none => .error (lit "malformed HTTP response")
  | some (status, headers, body) =>
    if status ≠ 206 then .error (lit "expected 206 Partial Content")
    else
      match parseContentRange headers with
      | none => .error (lit "missing or invalid Content-Range")
      | some range =>
        if range.start ≠ start ∨ range.last ≠ last ∨ range.total ≠ total then
          .error (lit "unexpected Content-Range")
        else if contentRangeMatchesBody range body.length then .ok body
        else .error (lit "Content-Range/body length mismatch")

def unassembledHeaders : List Text :=
  [lit "content-length", lit "content-range", lit "content-encoding", lit "transfer-encoding",
    lit "connection", lit "keep-alive"]

def assembledFields (headers : List (Text × Text)) : List (Text × Text) :=
  headers.filter fun field => lower field.1 ∉ unassembledHeaders

def assembleHead (statusLine : Text) (fields : List (Text × Text)) : Bytes :=
  toUtf8 (statusLine ++ ['\r', '\n'] ++ fields.flatMap (fun field => headerLine field.1 field.2) ++
    ['\r', '\n'])

def assemble200Head (headers : List (Text × Text)) (declaredLength : Nat) : Bytes :=
  assembleHead (lit "HTTP/1.1 200 OK")
    (assembledFields headers ++ [(lit "Content-Length", decimal declaredLength)])

def assembleFull200 (headers : List (Text × Text)) (body : Bytes) : Bytes :=
  assemble200Head headers body.length ++ body

def assemble206Head (headers : List (Text × Text)) (start total : Nat) : Bytes :=
  assembleHead (lit "HTTP/1.1 206 Partial Content")
    (assembledFields headers ++
      [(lit "Content-Range", lit "bytes " ++ decimal start ++ ['-'] ++ decimal (total - 1) ++ ['/'] ++
        decimal total),
      (lit "Content-Length", decimal (total - start))])

def rewrite206To200 (raw : Bytes) : Bytes :=
  match splitResponse raw with
  | some (_, headers, body) => assembleFull200 headers body
  | none => raw

structure Written where
  writes : List Bytes
  result : Except Text Unit

def writeResponseWithHeadTransform (transformHead : Bytes → Bytes) (response : Bytes) : Written :=
  match cut headEnd response with
  | some (head, body) => ⟨[transformHead (head ++ headEnd), body], .ok ()⟩
  | none => ⟨[response], .ok ()⟩

inductive RangeDispatch where
  | buffered
  | stream
  | fallbackSingleGet
  | rejectTooLarge
  deriving DecidableEq

def dispatchRangeResponse (total : Nat) (streamingAllowed : Bool) : RangeDispatch :=
  if streamingAllowed ∧ maxStreamedRangeBytes < total then .rejectTooLarge
  else if streamingAllowed ∧ appsScriptBodyMaxBytes < total then .stream
  else if ¬ streamingAllowed ∧ bufferedStitchMaxBytes < total then .fallbackSingleGet
  else .buffered

def nextRange (total chunkSize start : Nat) : Option (Nat × Nat) :=
  if total ≤ start then none
  else some (start, min (saturatingAdd start chunkSize - 1) (total - 1))

def planFrom (total chunkSize : Nat) : Nat → Nat → List (Nat × Nat)
  | 0, _ => []
  | count + 1, start =>
    match nextRange total chunkSize start with
    | none => []
    | some range => range :: planFrom total chunkSize count (saturatingAdd range.2 1)

/-- The ranges behind the probe; each moves on, so the plan ends. -/
def planRemainingRanges (probeEnd total chunkSize : Nat) : List (Nat × Nat) :=
  planFrom total chunkSize total (saturatingAdd probeEnd 1)

def divCeil (left right : Nat) : Nat :=
  if 0 < left % right then left / right + 1 else left / right

def expectedChunks (probeEnd total chunkSize : Nat) : Nat := divCeil (total - probeEnd - 1) chunkSize

def rangeField (start last : Nat) : Text × Text :=
  (lit "Range", lit "bytes=" ++ decimal start ++ ['-'] ++ decimal last)

def withoutRange (headers : List (Text × Text)) : List (Text × Text) :=
  headers.filter fun field => ¬ eqIgnoreCase field.1 (lit "range")

def chunkRequest (url : Text) (headers : List (Text × Text)) (range : Nat × Nat) : RelayRequest :=
  ⟨lit "GET", url, withoutRange headers ++ [rangeField range.1 range.2], []⟩

def fetchChunksStream (answers : RelayRequest → Bytes) (url : Text) (headers : List (Text × Text))
    (ranges : List (Nat × Nat)) (total : Nat) : List (Except Text Bytes) :=
  ranges.map fun range =>
    extractExactRangeBody (answers (chunkRequest url headers range)) range.1 range.2 total

def streamChunks : List (Except Text Bytes) → Written
  | [] => ⟨[], .ok ()⟩
  | .ok chunk :: rest =>
    let later := streamChunks rest
    ⟨chunk :: later.writes, later.result⟩
  | .error reason :: _ => ⟨[], .error (lit "range-parallel-stream chunk failure: " ++ reason)⟩

def streamChunksToWriter (head probeBody : Bytes) (fetches : List (Except Text Bytes)) : Written :=
  let rest := streamChunks fetches
  ⟨head :: probeBody :: rest.writes, rest.result⟩

def streamRangeResponseTo (transformHead : Bytes → Bytes) (headers : List (Text × Text))
    (probeBody : Bytes) (total : Nat) (fetches : List (Except Text Bytes)) : Written :=
  streamChunksToWriter (transformHead (assemble200Head headers total)) probeBody fetches

def stitchChunks : List (Except Text Bytes) → Option Bytes
  | [] => some []
  | .ok chunk :: rest => (stitchChunks rest).map (chunk ++ ·)
  | .error _ :: _ => none

end Gvpn
