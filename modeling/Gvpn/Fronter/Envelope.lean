import Gvpn.Data.Base64
import Gvpn.Data.Json
import Gvpn.Fronter.Http

/-! The envelope of the script, and the response built from it. -/

namespace Gvpn

structure RelayResponse where
  s : Option Nat
  h : Option (List (Text × Json))
  b : Option Text
  e : Option Text

namespace RelayResponse

def statusField : Json → Option (Option Nat)
  | .null => some none
  | value => value.asU64.bind fun n => if n < 2 ^ 16 then some (some n) else none

def objectField : Json → Option (Option (List (Text × Json)))
  | .null => some none
  | .obj members => some (some (Json.byKey members))
  | _ => none

def textField : Json → Option (Option Text)
  | .null => some none
  | .str text => some (some text)
  | _ => none

def onlyMember (key : Text) (members : List (Text × Json)) : Option Json :=
  match members.filter (fun member => member.1 = key) with
  | [] => some .null
  | [(_, value)] => some value
  | _ => none

def ofFields (s h b e : Json) : Option RelayResponse :=
  match statusField s, objectField h, textField b, textField e with
  | some s, some h, some b, some e => some ⟨s, h, b, e⟩
  | _, _, _, _ => none

def ofJson : Json → Option RelayResponse
  | .obj members =>
    match onlyMember (lit "s") members, onlyMember (lit "h") members,
      onlyMember (lit "b") members, onlyMember (lit "e") members with
    | some s, some h, some b, some e => ofFields s h b e
    | _, _, _, _ => none
  | .arr items =>
    -- Only fields at the end may be left out, and none may follow.
    if items.length ≤ 4 then
      ofFields (items.getD 0 .null) (items.getD 1 .null) (items.getD 2 .null) (items.getD 3 .null)
    else none
  | _ => none

/-- The fields that are read; anything else in an envelope is skipped. -/
def fieldNames : List Text := [lit "s", lit "h", lit "b", lit "e"]

def ofText (texts : LibraryTexts) (text : Text) : Option RelayResponse :=
  (texts.readRecord fieldNames text).bind ofJson

end RelayResponse

def charFromU32 (code : Nat) : Option Char := if code.isValidChar then some (.ofNat code) else none

/-- Decode the escapes of a script literal; other bytes become the characters of their numbers. -/
def decodeJsStringEscapes : Bytes → Option Text
  | [] => some []
  | 92 :: 120 :: high :: low :: rest =>
    match (fromUtf8 [high, low]).bind parseHex with
    | some code => (decodeJsStringEscapes rest).map (Char.ofNat code :: ·)
    | none => none
  | 92 :: 117 :: a :: b :: c :: d :: rest =>
    match ((fromUtf8 [a, b, c, d]).bind parseHex).bind charFromU32 with
    | some char => (decodeJsStringEscapes rest).map (char :: ·)
    | none => none
  | 92 :: letter :: rest =>
    match [(92, '\\'), (34, '"'), (39, '\x27'), (47, '/'), (110, '\n'), (114, '\r'), (116, '\t'),
      (98, '\x08'), (102, '\x0c')].lookup letter with
    | some char => (decodeJsStringEscapes rest).map (char :: ·)
    | none => none
  -- A backslash at the very end escapes nothing.
  | [92] => none
  | byte :: rest => (decodeJsStringEscapes rest).map (Char.ofNat byte.toNat :: ·)

def extractAppsScriptUserHtml (texts : LibraryTexts) (text : Text) : Option Text :=
  match cut (lit "goog.script.init(\"") text with
  | none => none
  | some (_, afterMarker) =>
    match cut (lit "\", \"\", undefined") afterMarker with
    | none => none
    | some (encoded, _) =>
      (((decodeJsStringEscapes (toUtf8 encoded)).bind texts.readValue).bind
        (Json.get (lit "userHtml"))).bind Json.asStr

def braced (text : Text) : Option Text :=
  let opened := text.dropWhile (· ≠ '{')
  let closed := trimEndMatches (· ≠ '}') opened
  if closed = [] then none else some closed

def quoted (text : Text) : Text := text.take 200

def findEnvelope (texts : LibraryTexts) (text : Text) : Except Stop RelayResponse :=
  match RelayResponse.ofText texts text with
  | some answer => .ok answer
  | none =>
    match extractAppsScriptUserHtml texts text with
    | some unwrapped =>
      match RelayResponse.ofText texts unwrapped with
      | some answer => .ok answer
      | none =>
        -- Sliced in bytes, so it may end inside a character.
        match fromUtf8 ((toUtf8 unwrapped).take 200) with
        | some start =>
          .error (.failed (.badResponse (lit "no json in apps_script user_html: " ++ start)))
        | none => .error .panicked
    | none =>
      if '{' ∉ text then .error (.failed (.badResponse (lit "no json in: " ++ quoted text)))
      else if '}' ∉ text then
        .error (.failed (.badResponse (lit "no json end in: " ++ quoted text)))
      else
        match braced text with
        | none =>
          .error (.failed (.badResponse (lit "no valid json object in: " ++ quoted text)))
        | some slice =>
          match RelayResponse.ofText texts slice with
          | some answer => .ok answer
          | none => .error (.failed (.json (texts.json (toUtf8 slice))))

def valueToHeaderStr (texts : LibraryTexts) : Json → Option Text
  | .str text => some text
  | .num literal => some (texts.number literal)
  | .bool true => some (lit "true")
  | .bool false => some (lit "false")
  | _ => none

def skippedHeaders : List Text :=
  [lit "transfer-encoding", lit "connection", lit "keep-alive", lit "content-length",
    lit "content-encoding"]

def noiseResponseHeaders : List Text :=
  [lit "report-to", lit "reporting-endpoints", lit "nel", lit "alt-svc", lit "server-timing",
    lit "origin-trial", lit "cf-ray", lit "cf-cache-status", lit "x-amzn-requestid",
    lit "x-amzn-trace-id", lit "x-request-id", lit "x-correlation-id"]

def relayedField (texts : LibraryTexts) (stripNoise : Bool) (member : Text × Json) : Text :=
  if lower member.1 ∈ skippedHeaders ∨ (stripNoise ∧ lower member.1 ∈ noiseResponseHeaders) then []
  else
    let values := match member.2 with
      | .arr items => items.filterMap (valueToHeaderStr texts)
      | other => (valueToHeaderStr texts other).toList
    values.flatMap (headerLine member.1)

def relayedResponse (texts : LibraryTexts) (stripNoise : Bool) (status : Nat)
    (headers : List (Text × Json)) (body : Bytes) : Bytes :=
  toUtf8 (lit "HTTP/1.1 " ++ decimal status ++ [' '] ++ statusText status ++ ['\r', '\n'] ++
    headers.flatMap (relayedField texts stripNoise) ++
    lit "Content-Length: " ++ decimal body.length ++ ['\r', '\n', '\r', '\n']) ++ body

def parseRelayJson (texts : LibraryTexts) (stripNoise : Bool) (body : Bytes) :
    Except Stop Bytes :=
  match fromUtf8 body with
  | none => .error (.failed (.badResponse (lit "non-utf8 json")))
  | some text =>
    if trim text = [] then .error (.failed (.badResponse (lit "empty relay body")))
    else
      match findEnvelope texts (trim text) with
      | .error stop => .error stop
      | .ok answer =>
        match answer.e with
        | some message => .error (.failed (.relay message))
        | none =>
          -- A missing body is an empty one.
          match Base64.decode (answer.b.getD []) with
          | none =>
            .error (.failed (.badResponse
              (lit "bad relay body base64: " ++ texts.base64 (answer.b.getD []))))
          | some content =>
            .ok (relayedResponse texts stripNoise (answer.s.getD 200) (answer.h.getD []) content)

theorem findEnvelope_retryable {texts : LibraryTexts} {text : Text} {error : FronterError}
    (stopped : findEnvelope texts text = .error (.failed error)) : error.isRetryable = true := by
  unfold findEnvelope at stopped
  -- Every failing branch names a plain error.
  repeat' split at stopped
  all_goals simp only [Except.error.injEq, Stop.failed.injEq, reduceCtorEq] at stopped
  all_goals
    rw [← stopped]
    rfl

theorem parseRelayJson_retryable {texts : LibraryTexts} {stripNoise : Bool} {body : Bytes}
    {error : FronterError} (stopped : parseRelayJson texts stripNoise body = .error (.failed error)) :
    error.isRetryable = true := by
  unfold parseRelayJson at stopped
  split at stopped
  · cases stopped
    rfl
  · split at stopped
    · cases stopped
      rfl
    · split at stopped
      · rename_i found
        cases stopped
        exact findEnvelope_retryable found
      · repeat' split at stopped
        all_goals cases stopped
        all_goals rfl

end Gvpn
