import Gvpn.Data.Json
import Gvpn.Fronter.Url
import Gvpn.Proxy.Head

/-! Request bodies, as they are read from a client behind the head. -/

namespace Gvpn

def bodyReadSize : Nat := 8192

def lineEnd : Bytes := [13, 10]

def listHas (word value : Text) : Bool :=
  (value.splitOn ',').any fun part => eqIgnoreCase (trim part) word

def expects100Continue (headers : List (Text × Text)) : Bool :=
  match headerGet headers (lit "expect") with
  | some value => listHas (lit "100-continue") value
  | none => false

def eofInChunkedBody : IoError := .unexpectedEof (lit "EOF in chunked body")

def readCrlfLine (buffer : Bytes) (stream : Segments) :
    Except IoError (Bytes × Bytes × Segments) :=
  match stream.readUntil bodyReadSize (· ++ ·) (cut lineEnd) buffer with
  | .done (line, rest) after => .ok (line, rest, after)
  | .ended _ => .error eofInChunkedBody

def fillBuffer (want : Nat) (buffer : Bytes) (stream : Segments) :
    Except IoError (Bytes × Segments) :=
  match stream.readUntil bodyReadSize (· ++ ·) (atLeast want) buffer with
  | .done filled after => .ok (filled, after)
  | .ended _ => .error eofInChunkedBody

def readTrailers : Nat → Bytes → Segments → Except IoError Segments
  | 0, _, _ => .error eofInChunkedBody
  | rounds + 1, buffer, stream =>
    match readCrlfLine buffer stream with
    | .error error => .error error
    -- What is in the buffer behind it goes with it.
    | .ok ([], _, after) => .ok after
    | .ok (_, rest, after) => readTrailers rounds rest after

def chunkSize (line : Bytes) : Except IoError Nat :=
  match fromUtf8 line with
  | none => .error (.invalidData (lit "non-utf8 chunk size line"))
  | some text =>
    match parseHex (before ';' (trim text)) with
    | none => .error (.invalidData (lit "bad chunk size '" ++ trim text ++ lit "'"))
    | some size =>
      if size < 2 ^ 64 then .ok size
      else .error (.invalidData (lit "bad chunk size '" ++ trim text ++ lit "'"))

def readChunks : Nat → Bytes → Bytes → Segments → Except IoError (Bytes × Segments)
  | 0, _, _, _ => .error eofInChunkedBody
  | rounds + 1, out, buffer, stream =>
    match readCrlfLine buffer stream with
    | .error error => .error error
    -- Empty lines between chunks are skipped.
    | .ok ([], rest, after) => readChunks rounds out rest after
    | .ok (line, rest, after) =>
      match chunkSize line with
      | .error error => .error error
      | .ok 0 => (readTrailers (rest.length + after.bytes.length + 1) rest after).map (out, ·)
      | .ok size =>
        match fillBuffer (size + 2) rest after with
        | .error error => .error error
        | .ok (filled, behind) =>
          if (filled.drop size).take 2 = lineEnd then
            readChunks rounds (out ++ filled.take size) (filled.drop (size + 2)) behind
          else .error (.invalidData (lit "chunk missing trailing CRLF"))

def readChunkedRequestBody (buffer : Bytes) (stream : Segments) :
    Except IoError (Bytes × Segments) :=
  readChunks (buffer.length + stream.bytes.length + 1) [] buffer stream

def readSizedBody (length : Nat) (leftover : Bytes) (stream : Segments) :
    Except IoError (Bytes × Segments) :=
  match stream.readUntil bodyReadSize
    -- What is beyond the length is dropped.
    (fun body got => body ++ got.take (length - body.length)) (atLeast length)
    (leftover.take length) with
  | .done body after => .ok (body, after)
  | .ended _ => .error (.unexpectedEof (lit "EOF mid-body"))

inductive Framing where
  | none
  | sized (length : Nat)
  | chunked
  deriving DecidableEq

def bodyFraming (headers : List (Text × Text)) : Except IoError Framing :=
  let encoding := headerGet headers (lit "transfer-encoding")
  let chunked := match encoding with
    | some value => listHas (lit "chunked") value
    | none => false
  match headerGet headers (lit "content-length") with
  | some value =>
    match parseUnsigned (2 ^ 64) value with
    | none => .error (.invalidData (lit "invalid Content-Length: " ++ value))
    | some length =>
      match encoding with
      | none => .ok (.sized length)
      | some other =>
        if chunked then
          .error (.invalidData
            (lit "both Transfer-Encoding: chunked and Content-Length are present"))
        else .error (.invalidData (lit "unsupported Transfer-Encoding: " ++ other))
  | none =>
    match encoding with
    | none => .ok .none
    | some other =>
      if chunked then .ok .chunked
      else .error (.invalidData (lit "unsupported Transfer-Encoding: " ++ other))

def readBody (leftover : Bytes) (headers : List (Text × Text)) (stream : Segments) :
    Except IoError (Bytes × Segments) :=
  match bodyFraming headers with
  | .error error => .error error
  | .ok .none => .ok ([], stream)
  | .ok (.sized length) => readSizedBody length leftover stream
  | .ok .chunked => readChunkedRequestBody leftover stream

def sendsContinue (headers : List (Text × Text)) : Bool :=
  expects100Continue headers &&
    match bodyFraming headers with
    | .ok (.sized _) => true
    | .ok .chunked => true
    | _ => false

end Gvpn
