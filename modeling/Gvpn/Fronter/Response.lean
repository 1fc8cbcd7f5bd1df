import Gvpn.Fronter.Cache
import Gvpn.Fronter.Chunked

/-! Responses, as they are read from a connection to the script. -/

namespace Gvpn

def responseReadSize : Nat := 8192

def maxResponseHead : Nat := 1024 * 1024

def checkResponseHead (buffer : Bytes) : Option (Except FronterError (Bytes × Bytes)) :=
  match cut headEnd buffer with
  | some parts => some (.ok parts)
  | none =>
    if maxResponseHead < buffer.length then
      some (.error (.badResponse (lit "headers too large")))
    else none

def headEnded : Ending → FronterError
  | .closed => .badResponse (lit "connection closed before headers")
  | .truncated reason | .failed reason => .io reason
  | .silent => .timeout

def parseStatusLine (line : Text) : Except FronterError Nat :=
  match ((line.splitOnP isBlank).filter (· ≠ []))[1]? with
  | none => .error (.badResponse (lit "bad status line: " ++ line))
  | some code =>
    match parseUnsigned (2 ^ 16) code with
    | none => .error (.badResponse (lit "bad status code: " ++ code))
    | some status => .ok status

def parseResponseHead (head : Bytes) : Except FronterError (Nat × List (Text × Text)) :=
  match fromUtf8 head with
  | none => .error (.badResponse (lit "non-utf8 headers"))
  | some text =>
    let lines := splitCrlf text
    (parseStatusLine (lines.headD [])).map fun status =>
      (status, (lines.tail.filterMap (splitOnce ':')).map fun field => (trim field.1, trim field.2))

def sizedEnded : Ending → FronterError
  | .closed | .truncated _ => .badResponse (lit "connection closed before full response body")
  | .failed reason => .io reason
  | .silent => .timeout

def readSized (ending : Ending) (length : Nat) : Nat → Bytes → Segments → Checked FronterError Bytes
  | 0, _, _ => .waiting
  | rounds + 1, body, stream =>
    if length ≤ body.length then .ok body
    else
      match stream.read (min (length - body.length) responseReadSize) with
      | none => .error (sizedEnded ending)
      | some (got, rest) => readSized ending length rounds (body ++ got) rest

def readUnframed (ending : Ending) (body : Bytes) (stream : Segments) :
    Checked FronterError Bytes :=
  match ending with
  | .failed reason => .error (.io reason)
  | _ => .ok (body ++ stream.bytes)

def readResponseBody (ending : Ending) (headers : List (Text × Text)) (body : Bytes)
    (stream : Segments) : Checked FronterError Bytes :=
  let encoding := (headerGet headers (lit "transfer-encoding")).getD []
  if contains (lit "chunked") (lower encoding) then readChunked ending body stream
  else
    match (headerGet headers (lit "content-length")).bind (parseUnsigned (2 ^ 64)) with
    | some length => readSized ending length (stream.bytes.length + 1) body stream
    | none => readUnframed ending body stream

def decodeBody (inflate : Bytes → Option Bytes) (headers : List (Text × Text)) (body : Bytes) :
    Bytes :=
  match headerGet headers (lit "content-encoding") with
  | some encoding =>
    if eqIgnoreCase encoding (lit "gzip") then (inflate body).getD body else body
  | none => body

def readHttpResponse (inflate : Bytes → Option Bytes) (ending : Ending) (stream : Segments) :
    Checked FronterError (Nat × List (Text × Text) × Bytes) :=
  match stream.readUntil responseReadSize (· ++ ·) checkResponseHead [] with
  | .ended _ => .error (headEnded ending)
  | .done (.error problem) _ => .error problem
  | .done (.ok (head, leftover)) rest =>
    match parseResponseHead head with
    | .error problem => .error problem
    | .ok (status, headers) =>
      (readResponseBody ending headers leftover rest).bind fun body =>
        .ok (status, headers, decodeBody inflate headers body)

end Gvpn
