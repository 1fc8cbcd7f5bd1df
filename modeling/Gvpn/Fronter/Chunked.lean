import Gvpn.Data.Chunked
import Gvpn.Data.Json
import Gvpn.Fronter.Http
import Gvpn.Fronter.Url

/-! Responses in chunks, as the relay reads them. -/

namespace Gvpn

def closedMidChunked : FronterError :=
  .badResponse (lit "connection closed mid-chunked response")

def responseSize (line : Bytes) : SizeLine FronterError :=
  match fromUtf8 line with
  | none => .bad (.badResponse (lit "bad chunk size"))
  | some text =>
    if trim text = [] then .skipped
    else
      match parseHex (before ';' (trim text)) with
      | none => .bad (.badResponse (lit "bad chunk size '" ++ trim text ++ lit "'"))
      | some size =>
        if size < 2 ^ 64 then .size size
        else .bad (.badResponse (lit "bad chunk size '" ++ trim text ++ lit "'"))

def responseLineEnded : Ending → Option FronterError
  | .closed => some closedMidChunked
  | .truncated reason => some (.io reason)
  | .failed reason => some (.io reason)
  | .silent => some .timeout

def responseDataEnded : Ending → Option FronterError
  | .closed => some closedMidChunked
  | .truncated _ => some closedMidChunked
  | .failed reason => some (.io reason)
  | .silent => some .timeout

def responseChunks : ChunkReader FronterError where
  readSize := 16384
  sizeOf := responseSize
  lineEnded := responseLineEnded
  dataEnded := responseDataEnded
  badEnd := .badResponse (lit "chunk missing trailing CRLF")
  positive := by decide

def readChunked (ending : Ending) (buffer : Bytes) (stream : Segments) :
    Checked FronterError Bytes :=
  responseChunks.read ending buffer stream

end Gvpn
