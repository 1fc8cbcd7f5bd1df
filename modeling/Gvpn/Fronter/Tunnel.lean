import Gvpn.Fronter.Relay
import Gvpn.TunnelNode.Protocol

/-! Requests of the tunnel to the script. -/

namespace Gvpn

def recordFields (names : List Text) : Json → Option (List (Option Json))
  | .obj members => names.mapM fun name =>
    match members.filter fun member => member.1 = name with
    | [] => some none
    | [(_, value)] => some (some value)
    | _ => none
  | .arr items =>
    -- Only fields at the end may be left out, and none may follow.
    if items.length ≤ names.length then
      some ((List.range names.length).map fun i => items[i]?)
    else none
  | _ => none

def optionalField {α : Type} (read : Json → Option α) : Option Json → Option (Option α)
  | none => some none
  | some .null => some none
  | some value => (read value).map some

def readList {α : Type} (read : Json → Option α) : Json → Option (List α)
  | .arr items => items.mapM read
  | _ => none

def readBool : Json → Option Bool
  | .bool value => some value
  | _ => none

def readU8 (value : Json) : Option Nat :=
  value.asU64.bind fun n => if n < 2 ^ 8 then some n else none

def TunnelResponse.fieldNames : List Text :=
  [lit "sid", lit "d", lit "pkts", lit "eof", lit "e", lit "code", lit "seq"]

def TunnelResponse.ofJson (value : Json) : Option TunnelResponse := do
  match ← recordFields TunnelResponse.fieldNames value with
  | [sid, d, pkts, eof, e, code, seq] =>
    some
      { sid := ← optionalField Json.asStr sid
        d := ← optionalField Json.asStr d
        pkts := ← optionalField (readList Json.asStr) pkts
        eof := ← optionalField readBool eof
        e := ← optionalField Json.asStr e
        code := ← optionalField Json.asStr code
        seq := ← optionalField Json.asU64 seq }
  | _ => none

structure BatchTunnelResponse where
  r : List TunnelResponse := []
  e : Option Text := none
  -- The answers in compressed form.
  zr : Option Text := none
  zc : Option Nat := none

def BatchTunnelResponse.fieldNames : List Text := [lit "r", lit "e", lit "zr", lit "zc"]

def BatchTunnelResponse.ofJson (value : Json) : Option BatchTunnelResponse := do
  match ← recordFields BatchTunnelResponse.fieldNames value with
  | [r, e, zr, zc] =>
    some
      { r := ← match r with
          | none => some []
          | some list => readList TunnelResponse.ofJson list
        e := ← optionalField Json.asStr e
        zr := ← optionalField Json.asStr zr
        zc := ← optionalField readU8 zc }
  | _ => none

def jsonSlice (kind : Text) (body : Bytes) : Except FronterError Text :=
  match fromUtf8 body with
  | none => .error (.badResponse (lit "non-utf8 " ++ kind ++ lit " response"))
  | some decoded =>
    let text := trim decoded
    if text.head? = some '{' then .ok text
    else if '{' ∉ text then
      .error (.badResponse (lit "no json in " ++ kind ++ lit " response: " ++ quoted text))
    else if '}' ∉ text then
      .error (.badResponse (lit "no json end in " ++ kind ++ lit " response"))
    else
      match braced text with
      | none => .error (.badResponse (lit "no valid json object in: " ++ quoted text))
      | some slice => .ok slice

def finalizeResponse {α : Type} (texts : LibraryTexts) (name kind : Text)
    (names : List Text) (read : Json → Option α) (response : Response) : Except Stop α :=
  if response.status ≠ 200 then
    .error (.failed (.relay (name ++ lit " HTTP " ++ decimal response.status ++ lit ": " ++
      (texts.lossy response.body).take 200)))
  else
    match jsonSlice kind response.body with
    | .error error => .error (.failed error)
    | .ok slice =>
      match (texts.readRecord names slice).bind read with
      | some value => .ok value
      | none => .error (.failed (.json (texts.json (toUtf8 slice))))

def finalizeTunnelResponse (texts : LibraryTexts) (response : Response) :
    Except Stop TunnelResponse :=
  finalizeResponse texts (lit "tunnel") (lit "tunnel") TunnelResponse.fieldNames
    TunnelResponse.ofJson response

/-- Unpack compressed answers, or leave them where they cannot be unpacked or read. -/
def unpackBatch (texts : LibraryTexts) (inflate : Bytes → Option Bytes) (batch : BatchTunnelResponse) :
    BatchTunnelResponse :=
  match batch.zr with
  | none => batch
  | some packed =>
    let unpacked := ((((Base64.decode packed).bind inflate).bind fromUtf8).bind
      (texts.readRecord TunnelResponse.fieldNames)).bind (readList TunnelResponse.ofJson)
    { batch with zr := none, r := unpacked.getD batch.r }

def finalizeBatchResponse (texts : LibraryTexts) (inflate : Bytes → Option Bytes)
    (response : Response) : Except Stop BatchTunnelResponse :=
  (finalizeResponse texts (lit "batch tunnel") (lit "batch") BatchTunnelResponse.fieldNames
    BatchTunnelResponse.ofJson response).map (unpackBatch texts inflate)

def H1Attempt.post {α : Type} (attempt : H1Attempt) (finish : Response → Except Stop α) : Run α :=
  { sends := if attempt.written then [.delivered] else []
    result := (h1Exchange attempt).bind finish }

def tunnelRequest (texts : LibraryTexts) (attempt : H1Attempt) : Run TunnelResponse :=
  attempt.post (finalizeTunnelResponse texts)

def tunnelBatchRequestTo (texts : LibraryTexts) (inflate : Bytes → Option Bytes)
    (attempt : H1Attempt) : Run BatchTunnelResponse :=
  attempt.post (finalizeBatchResponse texts inflate)

end Gvpn
