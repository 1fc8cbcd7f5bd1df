import Gvpn.Data.Chunked
import Gvpn.Proxy.Body

/-! Request bodies, read with machine numbers from a client that may do anything. -/

namespace Gvpn

inductive BodyError where
  | io (problem : IoError)
  -- The connection fails in another way.
  | connection (reason : Text)
  deriving DecidableEq

def bodyEnded (eof : IoError) : Ending → Option BodyError
  | .closed => some (.io eof)
  | .truncated reason => some (.io (.unexpectedEof reason))
  | .failed reason => some (.connection reason)
  | .silent => none

def requestSize (line : Bytes) : SizeLine BodyError :=
  if line = [] then .skipped
  else
    match chunkSize line with
    | .error problem => .bad (.io problem)
    | .ok size => .size size

def requestChunks : ChunkReader BodyError where
  readSize := bodyReadSize
  sizeOf := requestSize
  lineEnded := bodyEnded eofInChunkedBody
  dataEnded := bodyEnded eofInChunkedBody
  badEnd := .io (.invalidData (lit "chunk missing trailing CRLF"))
  positive := by decide

namespace Checked

def readChunkedRequestBody (ending : Ending) (buffer : Bytes) (stream : Segments) :
    Checked BodyError Bytes :=
  requestChunks.read ending buffer stream

def withCapacity (count : Nat) : Checked BodyError Unit :=
  if count < 2 ^ 63 then .ok () else .fault .capacity

def readSizedBody (ending : Ending) (length : Nat) (leftover : Bytes) (stream : Segments) :
    Checked BodyError Bytes :=
  (withCapacity length).bind fun _ =>
    (slice 0 (min leftover.length length) leftover).bind fun start =>
      match stream.readUntil bodyReadSize
        (fun body got => body ++ got.take (min got.length (length - body.length)))
        (atLeast length) start with
      | .done body _ => .ok body
      | .ended _ => .stopped (bodyEnded (.unexpectedEof (lit "EOF mid-body")) ending)

structure BodyRun where
  result : Checked BodyError Bytes
  requested : List Nat

/-- Read the announced body, unless the client refuses the go-ahead. -/
def readBody (ending : Ending) (refusal : Option Text) (leftover : Bytes)
    (headers : List (Text × Text)) (stream : Segments) : BodyRun :=
  match bodyFraming headers with
  | .error problem => ⟨.error (.io problem), []⟩
  | .ok framing =>
    match if sendsContinue headers then refusal else none with
    | some reason => ⟨.error (.connection reason), []⟩
    | none =>
      match framing with
      | .none => ⟨.ok [], []⟩
      | .sized length => ⟨readSizedBody ending length leftover stream, [length]⟩
      | .chunked => ⟨readChunkedRequestBody ending leftover stream, []⟩

end Checked

end Gvpn
