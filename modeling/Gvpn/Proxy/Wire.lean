import Gvpn.Proxy.Body

/-! Requests as a client puts them on the wire. -/

namespace Gvpn

def isTokenChar (c : Char) : Bool := 33 ≤ c.toNat && c.toNat ≤ 126 && c ≠ ':'

theorem isBlank_of_token {c : Char} (token : isTokenChar c = true) : isBlank c = false := by
  simp only [isTokenChar, Bool.and_eq_true, decide_eq_true_eq] at token
  simp only [isBlank, decide_eq_false_iff_not]
  omega

structure FieldLine where
  name : Text
  value : Text
  named : name ≠ []
  token : ∀ c ∈ name, isTokenChar c = true
  plain : '\r' ∉ value

namespace FieldLine

def text (field : FieldLine) : Text := field.name ++ ':' :: field.value

def field (field : FieldLine) : Text × Text := (field.name, trim field.value)

end FieldLine

def hexDigitsValue (digits : Text) : Nat :=
  digits.foldl (fun value digit => value * 16 + (Json.hexValue digit).getD 0) 0

structure Chunk where
  size : Text
  extension : Text
  data : Bytes
  sized : size ≠ [] ∧ (∀ c ∈ size, (Json.hexValue c).isSome = true) ∧
    hexDigitsValue size = data.length
  -- An extension follows the size at once.
  marked : extension = [] ∨ extension.head? = some ';'
  plain : '\r' ∉ extension
  bounded : data.length < 2 ^ 64

def Chunk.line (chunk : Chunk) : Bytes := toUtf8 (chunk.size ++ chunk.extension) ++ lineEnd

inductive WireBody where
  | none
  | sized (body : Bytes)
  | chunked (chunks : List Chunk) (last : Chunk) (trailers : List FieldLine)

namespace WireBody

def fieldLines (fields : List FieldLine) : Bytes :=
  (fields.flatMap fun field => toUtf8 field.text ++ lineEnd) ++ lineEnd

def encode : WireBody → Bytes
  | .none => []
  | .sized body => body
  | .chunked chunks last trailers =>
    (chunks.flatMap fun chunk => chunk.line ++ chunk.data ++ lineEnd) ++ last.line ++
      fieldLines trailers

def content : WireBody → Bytes
  | .none => []
  | .sized body => body
  | .chunked chunks _ _ => chunks.flatMap Chunk.data

def Announced (headers : List (Text × Text)) : WireBody → Prop
  | .none =>
    headerGet headers (lit "transfer-encoding") = Option.none ∧
      headerGet headers (lit "content-length") = Option.none
  | .sized body =>
    headerGet headers (lit "transfer-encoding") = Option.none ∧
      ∃ length, headerGet headers (lit "content-length") = some length ∧ length ≠ [] ∧
        length.all Char.isDigit = true ∧ readDigits length = body.length ∧
        body.length < 2 ^ 64
  | .chunked chunks last _ =>
    (∃ encoding, headerGet headers (lit "transfer-encoding") = some encoding ∧
      listHas (lit "chunked") encoding = true) ∧
      headerGet headers (lit "content-length") = Option.none ∧
      (∀ chunk ∈ chunks, chunk.data ≠ []) ∧ last.data = []

end WireBody

/-- The head of a request: its first line, its fields and an empty line. -/
def versionedHead (method target version : Text) (fields : List FieldLine) : Text :=
  method ++ ' ' :: target ++ ' ' :: version ++ ['\r', '\n'] ++
    fields.flatMap (fun field => field.text ++ ['\r', '\n']) ++ ['\r', '\n']

/-- A head of the version that requests on the wire have. -/
def headText (method target : Text) (fields : List FieldLine) : Text :=
  versionedHead method target (lit "HTTP/1.1") fields

structure WireRequest where
  method : Text
  target : Text
  fields : List FieldLine
  body : WireBody
  valid : isValidHttpMethod method = true
  targeted : ' ' ∉ target ∧ '\r' ∉ target
  announced : body.Announced (fields.map FieldLine.field)
  small : (toUtf8 (headText method target fields)).length ≤ maxHeaderBytes

namespace WireRequest

def headers (request : WireRequest) : List (Text × Text) := request.fields.map FieldLine.field

def head (request : WireRequest) : Bytes :=
  toUtf8 (headText request.method request.target request.fields)

def encode (request : WireRequest) : Bytes := request.head ++ request.body.encode

end WireRequest

end Gvpn
