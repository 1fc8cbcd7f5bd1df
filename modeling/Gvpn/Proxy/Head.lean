import Gvpn.Data.Segments
import Gvpn.Fronter.Http

/-! Request heads, as they are read from a client and taken apart. -/

namespace Gvpn

def maxHeaderBytes : Nat := 64 * 1024

def headReadSize : Nat := 16384

inductive HeadReadResult where
  | got (head leftover : Bytes)
  | closed
  | oversized

def checkHead (buffer : Bytes) : Option HeadReadResult :=
  -- Before the first read nothing is looked at.
  if buffer = [] then none
  else
    match cut headEnd buffer with
    | some (front, after) => some (.got (front ++ headEnd) after)
    | none => if maxHeaderBytes < buffer.length then some .oversized else none

inductive IoError where
  | unexpectedEof (reason : Text)
  | invalidData (reason : Text)
  deriving DecidableEq

def readHttpHead (stream : Segments) : Except IoError (HeadReadResult × Segments) :=
  match stream.readUntil headReadSize (· ++ ·) checkHead [] with
  | .done result rest => .ok (result, rest)
  | .ended [] => .ok (.closed, .empty)
  | .ended _ => .error (.unexpectedEof (lit "EOF mid-header"))

def readHttpHeadIo (stream : Segments) : Except IoError (HeadReadResult × Segments) :=
  match stream.readUntil headReadSize (· ++ ·) checkHead [] with
  | .done result rest => .ok (result, rest)
  | .ended [] => .ok (.closed, .empty)
  | .ended _ => .error (.unexpectedEof (lit "EOF mid-header"))

def isValidHttpMethod (method : Text) : Bool :=
  method ∈ [lit "GET", lit "POST", lit "PUT", lit "DELETE", lit "HEAD", lit "OPTIONS", lit "PATCH",
    lit "TRACE", lit "CONNECT"]

structure RequestHead where
  method : Text
  target : Text
  version : Text
  headers : List (Text × Text)
  deriving DecidableEq

def requestHeaders : List Text → List (Text × Text)
  | [] => []
  | [] :: _ => []
  | line :: rest =>
    match splitOnce ':' line with
    | some (name, value) => (trim name, trim value) :: requestHeaders rest
    | none => requestHeaders rest

def requestLine (line : Text) : Option (Text × Text × Text) :=
  match splitOnce ' ' line with
  | none => none
  | some (method, rest) =>
    match splitOnce ' ' rest with
    | none => some (method, rest, lit "HTTP/1.1")
    | some (target, version) => some (method, target, version)

def parseRequestHead (head : Bytes) : Option RequestHead :=
  match fromUtf8 head with
  | none => none
  | some text =>
    match splitCrlf text with
    | [] => none
    | first :: lines =>
      match requestLine first with
      | none => none
      | some (method, target, version) =>
        if isValidHttpMethod method then some ⟨method, target, version, requestHeaders lines⟩
        else none

def parseHostPort (target : Text) : Text × Nat :=
  match rsplitOnce ':' target with
  | some (host, port) => (host, (parseUnsigned (2 ^ 16) port).getD 443)
  | none => (target, 443)

end Gvpn
