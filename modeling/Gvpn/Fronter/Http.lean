import Gvpn.Data.JsonLaws
import Gvpn.Data.Search
import Gvpn.Data.Utf8

/-! HTTP responses, taken apart and put together by the fronter. -/

namespace Gvpn

inductive FronterError where
  | io (reason : Text)
  | tls (reason : Text)
  | dns (reason : Text)
  | badResponse (reason : Text)
  | relay (reason : Text)
  | timeout
  | json (reason : Text)
  -- It may have been sent, and must not be again.
  | nonRetryable (inner : FronterError)
  deriving DecidableEq

def FronterError.isRetryable : FronterError → Bool
  | .nonRetryable _ => false
  | _ => true

theorem FronterError.isRetryable_timeout : FronterError.timeout.isRetryable = true := rfl

def FronterError.intoInner : FronterError → FronterError
  | .nonRetryable inner => inner
  | other => other

def FronterError.message : FronterError → Text
  | .io reason => lit "io: " ++ reason
  | .tls reason => lit "tls: " ++ reason
  | .dns reason => lit "invalid dns name: " ++ reason
  | .badResponse reason => lit "bad response: " ++ reason
  | .relay reason => lit "relay error: " ++ reason
  | .timeout => lit "timeout"
  | .json reason => lit "json: " ++ reason
  | .nonRetryable inner => inner.message

inductive Stop where
  | failed (error : FronterError)
  -- A text was sliced inside a character.
  | panicked
  -- The call was dropped while it waited.
  | expired
  deriving DecidableEq

/-- What libraries make of texts, as far as it is documented. -/
structure LibraryTexts where
  /-- What is wrong with bytes that are no JSON. -/
  json : Bytes → Text
  /-- What is wrong with a text that is not in base64. -/
  base64 : Text → Text
  /-- Bytes as a text, whatever they are. -/
  lossy : Bytes → Text
  /-- A number as it is written again. -/
  number : Text → Text
  /-- A value is within the limits of the reader, such as the range of numbers and the nesting. -/
  holds : Json → Bool
  /-- A text read as any JSON value. -/
  readValue : Text → Option Json
  /-- A text read as a record with some fields; what has another name is skipped unread. -/
  readRecord : List Text → Text → Option Json
  /-- A written value is read back, unless it is beyond the limits. -/
  readValue_write : ∀ value : Json, value.WellFormed →
    readValue value.write = if holds value then some value else none
  /-- A record without other names is read as any value is. -/
  readRecord_write : ∀ names (members : List (Text × Json)), (Json.obj members).WellFormed →
    (∀ member ∈ members, member.1 ∈ names) →
      readRecord names (Json.obj members).write = readValue (Json.obj members).write
  /-- Whole numbers of 64 bits, and nesting of up to 127, are within the limits. -/
  holds_small : ∀ value : Json, value.Small 127 → holds value = true

/-- Libraries that say nothing, and read JSON of any size. -/
def noTexts : LibraryTexts where
  json _ := []
  base64 := id
  lossy _ := []
  number := id
  holds _ := true
  readValue := Json.read
  readRecord _ := Json.read
  readValue_write _ wellFormed := Json.read_write wellFormed
  readRecord_write _ _ _ _ := rfl
  holds_small _ _ := rfl

def headEnd : Bytes := [13, 10, 13, 10]

def headerLines : List Bytes → Option (List (Text × Text))
  | [] => some []
  | line :: rest =>
    match fromUtf8 line with
    | none => none
    | some text =>
      match headerLines rest with
      | none => none
      | some headers =>
        match splitOnce ':' (trimEndMatches (· = '\r') text) with
        | some (name, value) => some ((trim name, trim value) :: headers)
        | none => some headers

def statusCode (line : Text) : Option Nat :=
  ((trimEndMatches (· = '\r') line).splitOn ' ')[1]?.bind (parseUnsigned (2 ^ 16))

def splitResponse (raw : Bytes) : Option (Nat × List (Text × Text) × Bytes) :=
  match cut headEnd raw with
  | none => none
  | some (head, body) =>
    match head.splitOn 10 with
    | [] => none
    | first :: lines =>
      match fromUtf8 first with
      | none => none
      | some statusLine =>
        match statusCode statusLine with
        | none => none
        | some code => (headerLines lines).map fun headers => (code, headers, body)

theorem splitResponse_eq_some_iff {raw body : Bytes} {code : Nat} {headers : List (Text × Text)} :
    splitResponse raw = some (code, headers, body) ↔
      ∃ head first lines statusLine, cut headEnd raw = some (head, body) ∧
        head.splitOn 10 = first :: lines ∧ fromUtf8 first = some statusLine ∧
        statusCode statusLine = some code ∧ headerLines lines = some headers := by
  constructor
  · intro split
    unfold splitResponse at split
    cases found : cut headEnd raw with
    | none => simp [found] at split
    | some parts =>
      obtain ⟨head, rest⟩ := parts
      simp only [found] at split
      cases lines : head.splitOn 10 with
      | nil => simp [lines] at split
      | cons first others =>
        simp only [lines] at split
        cases decoded : fromUtf8 first with
        | none => simp [decoded] at split
        | some statusLine =>
          simp only [decoded] at split
          cases number : statusCode statusLine with
          | none => simp [number] at split
          | some value =>
            simp only [number, Option.map_eq_some_iff, Prod.mk.injEq] at split
            obtain ⟨fields, read, rfl, rfl, rfl⟩ := split
            exact ⟨head, first, others, statusLine, rfl, lines, decoded, number, read⟩
  · rintro ⟨head, first, lines, statusLine, found, parts, decoded, number, read⟩
    simp [splitResponse, found, parts, decoded, number, read]

theorem cut_of_splitResponse {raw body : Bytes} {code : Nat} {headers : List (Text × Text)}
    (split : splitResponse raw = some (code, headers, body)) :
    ∃ head, cut headEnd raw = some (head, body) := by
  obtain ⟨head, -, -, -, found, -⟩ := splitResponse_eq_some_iff.mp split
  exact ⟨head, found⟩

def statusReasons : List (Nat × String) :=
  [(200, "OK"), (201, "Created"), (204, "No Content"),
    (301, "Moved Permanently"), (302, "Found"), (303, "See Other"),
    (304, "Not Modified"), (307, "Temporary Redirect"), (308, "Permanent Redirect"),
    (400, "Bad Request"), (401, "Unauthorized"), (403, "Forbidden"),
    (404, "Not Found"), (405, "Method Not Allowed"), (408, "Request Timeout"),
    (429, "Too Many Requests"), (500, "Internal Server Error"), (502, "Bad Gateway"),
    (503, "Service Unavailable"), (504, "Gateway Timeout")]

def statusReason (status : Nat) : Text :=
  lit ((statusReasons.lookup status).getD "Status")

def statusTexts : List (Nat × String) :=
  [(200, "OK"), (201, "Created"), (204, "No Content"), (206, "Partial Content"),
    (301, "Moved Permanently"), (302, "Found"), (303, "See Other"), (304, "Not Modified"),
    (307, "Temporary Redirect"), (308, "Permanent Redirect"), (400, "Bad Request"),
    (401, "Unauthorized"), (403, "Forbidden"), (404, "Not Found"),
    (500, "Internal Server Error"), (502, "Bad Gateway"), (504, "Gateway Timeout")]

def statusText (code : Nat) : Text := lit ((statusTexts.lookup code).getD "OK")

def headerGet (headers : List (Text × Text)) (name : Text) : Option Text :=
  (headers.find? fun field => eqIgnoreCase field.1 name).map Prod.snd

def headerLine (name value : Text) : Text := name ++ lit ": " ++ value ++ ['\r', '\n']

def htmlEscape (text : Text) : Text :=
  text.flatMap fun c =>
    if c = '&' then lit "&amp;"
    else if c = '<' then lit "&lt;"
    else if c = '>' then lit "&gt;"
    else [c]

def errorResponse (status : Nat) (message : Text) : Bytes :=
  let page := toUtf8 (lit "<html><body><h1>" ++ decimal status ++ lit "</h1><p>" ++
    htmlEscape message ++ lit "</p></body></html>")
  toUtf8 (lit "HTTP/1.1 " ++ decimal status ++ [' '] ++ statusText status ++
    lit "\r\nContent-Type: text/html\r\nContent-Length: " ++ decimal page.length ++
    ['\r', '\n', '\r', '\n']) ++ page

end Gvpn
