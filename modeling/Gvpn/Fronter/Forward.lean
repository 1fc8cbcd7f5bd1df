import Gvpn.Fronter.Relay

/-! What the script is told about a request. -/

namespace Gvpn

def skippedRequestHeaders : List Text :=
  -- Fields of one connection only.
  [lit "host", lit "connection", lit "content-length", lit "transfer-encoding",
    lit "proxy-connection", lit "proxy-authorization",
    -- Fields that would tell where the client is.
    lit "x-forwarded-for", lit "x-forwarded-host", lit "x-forwarded-proto",
    lit "x-forwarded-port", lit "x-forwarded-server", lit "x-forwarded-ssl", lit "forwarded",
    lit "via", lit "x-real-ip", lit "x-client-ip", lit "x-originating-ip", lit "true-client-ip",
    lit "cf-connecting-ip", lit "fastly-client-ip", lit "x-cluster-client-ip", lit "client-ip"]

def stripBrotliFromAcceptEncoding (value : Text) : Text :=
  let parts := (value.splitOn ',').map trim
  let kept := parts.filter fun part =>
    let token := lower (trim (part.takeWhile (· ≠ ';')))
    token ≠ lit "br" ∧ token ≠ lit "zstd"
  List.intercalate (lit ", ") kept

def forwardedField (field : Text × Text) : Option (Text × Text) :=
  let name := lower field.1
  if name ∈ skippedRequestHeaders then none
  else if name = lit "accept-encoding" then
    let cleaned := stripBrotliFromAcceptEncoding field.2
    if cleaned = [] then none else some (field.1, cleaned)
  else some field

def filterForwardedHeaders (headers : List (Text × Text)) : List (Text × Text) :=
  headers.filterMap forwardedField

def findHeader (headers : List (Text × Text)) (name : Text) : Option Text := headerGet headers name

/-- What a payload asks the script to fetch, without the key and the padding. -/
structure Payload where
  m : Text
  u : Text
  h : List (Text × Json)
  b : Bytes
  ct : Option Text

def buildPayload (config : RelayConfig) (request : RelayRequest) : Payload :=
  { m := request.method
    u := relayUrl config request
    -- As members of an object, of equal names the last stays.
    h := Json.byKey ((filterForwardedHeaders request.headers).map fun field =>
      (field.1, .str field.2))
    b := request.body
    ct := if request.body = [] then none else findHeader request.headers (lit "content-type") }

def Payload.fetch (payload : Payload) : Payload := { payload with m := upper payload.m }

structure PayloadKeys where
  authKey : Text
  exitNodePsk : Text
  disablePadding : Bool

def headerMap (headers : List (Text × Text)) : Option (List (Text × Json)) :=
  match filterForwardedHeaders headers with
  | [] => none
  | filtered => some (Json.byKey (filtered.map fun field => (field.1, .str field.2)))

def optionalMember (key : Text) (value : Option Json) : List (Text × Json) :=
  (value.map (Prod.mk key)).toList

def relayRequestMembers (key method url : Text) (headers : List (Text × Text)) (body : Bytes)
    (raw : Bool) : List (Text × Json) :=
  [(lit "k", .str key), (lit "m", .str method), (lit "u", .str url)] ++
    optionalMember (lit "h") ((headerMap headers).map .obj) ++
    optionalMember (lit "b") (if body = [] then none else some (.str (Base64.encode body))) ++
    optionalMember (lit "ct")
      (if body = [] then none else (findHeader headers (lit "content-type")).map .str) ++
    [(lit "r", .bool raw)]

def addRandomPad (pad : Bytes) (members : List (Text × Json)) : List (Text × Json) :=
  if pad = [] then members
  else Json.insertMember (lit "_pad") (.str (Base64.encode pad)) members

def buildPayloadJson (keys : PayloadKeys) (pad : Bytes) (method url : Text)
    (headers : List (Text × Text)) (body : Bytes) : Bytes :=
  let members := Json.byKey (relayRequestMembers keys.authKey method url headers body true)
  jsonBody (.obj (if keys.disablePadding then members else addRandomPad pad members))

def buildExitNodeInnerPayload (keys : PayloadKeys) (method url : Text)
    (headers : List (Text × Text)) (body : Bytes) : Bytes :=
  jsonBody (.obj (relayRequestMembers keys.exitNodePsk method url headers body false))

end Gvpn
