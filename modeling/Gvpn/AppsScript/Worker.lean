import Gvpn.AppsScript.Relay

/-! The relay with a worker, which makes the fetches for the script. -/

namespace Gvpn

def hopHeaders : List Text :=
  [lit "host", lit "connection", lit "content-length", lit "transfer-encoding",
    lit "proxy-connection", lit "proxy-authorization", lit "priority", lit "te"]

def upperMethod (engine : Engine) (item : Json) : Except Text Text :=
  match engine.member item (lit "m") with
  | none => .ok (engine.toUpperCase (lit "GET"))
  | some (.str method) => .ok (engine.toUpperCase method)
  | some _ => .error (engine.notAFunction (lit "toUpperCase"))

structure WorkerFetch where
  url : Text
  method : Text
  headers : List (Text × Text)
  followRedirects : Bool
  body : Option Bytes

structure Worker where
  authKey : Text
  selfHost : Text
  engine : Engine
  /-- The host of an address, with the address as it is fetched. -/
  parseUrl : Text → Option (Text × Text)
  /-- The name and the value of a field that is set, unless they are refused. -/
  fieldOf : Text → Json → Option (Text × Text)
  atob : Json → Option Bytes
  /-- The response to a fetch, whose body may still not arrive. -/
  fetch : WorkerFetch → Except Text (Except Text Destination)

structure WorkerRequest where
  method : Text
  relayHop : Option Text
  body : Text

namespace Worker

def defaultAuthKey : Text := lit "CHANGE_ME_TO_A_STRONG_SECRET"

def maxBatchSize : Nat := 40

def responseHeaders (headers : List (Text × Text)) : List (Text × Text) :=
  headers.foldl (fun copied field =>
    -- A text does not become a prototype.
    if field.1 = lit "__proto__" then copied else assign field.1 field.2 copied) []

variable (worker : Worker)

def requestHeaders (item : Json) : List (Text × Text) :=
  let given := (((item.get (lit "h")).filter isObject).map ownEntries).getD []
  let passed := given.foldl (fun headers field =>
    if worker.engine.toLowerCase field.1 ∈ hopHeaders then headers
    else
      match worker.fieldOf field.1 field.2 with
      | some (name, value) => assign name value headers
      | none => headers) []
  assign (lit "x-relay-hop") (lit "1") passed

def fieldsAndBody (item : Json) (method : Text) : Option (List (Text × Text) × Option Bytes) :=
  let headers := worker.requestHeaders item
  if method = lit "GET" ∨ method = lit "HEAD" then some (headers, none)
  else
    match worker.engine.member item (lit "b") with
    | none => some (headers, none)
    | some body =>
      match worker.atob body with
      | none => none
      | some data =>
        match worker.engine.member item (lit "ct") with
        | none => some (headers, some data)
        | some contentType =>
          if headers.any (·.1 = lit "content-type") then some (headers, some data)
          else
            -- A refused content type counts as a body not decoded.
            (worker.fieldOf (lit "content-type") contentType).map fun field =>
              (assign field.1 field.2 headers, some data)

def processOne (item : Json) : Except Text Json :=
  match itemUrl item with
  | .error reason => .ok (errorEntry reason)
  | .ok url =>
    match worker.parseUrl url with
    | none => .ok (errorEntry (lit "bad url"))
    | some (hostname, address) =>
      if hostname = worker.selfHost then .ok (errorEntry (lit "self-fetch blocked"))
      else
        match upperMethod worker.engine item with
        | .error reason => .error reason
        | .ok method =>
          match worker.fieldsAndBody item method with
          | none => .ok (errorEntry (lit "bad body base64"))
          | some (headers, body) =>
            match worker.fetch
              { url := address, method, headers, body
                followRedirects := buildOpts.followsRedirects item } with
            | .error reason => .ok (errorEntry (lit "fetch failed: " ++ reason))
            | .ok (.error reason) => .error reason
            | .ok (.ok answer) =>
              .ok (.obj [(lit "s", .num (decimal answer.status)),
                (lit "h", .obj ((responseHeaders answer.headers).map fun field =>
                  (field.1, .str field.2))),
                (lit "b", .str (Base64.encode answer.body))])

def settled (item : Json) : Json :=
  match worker.processOne item with
  | .ok entry => entry
  | .error reason => errorEntry (lit "fetch failed: " ++ reason)

def serve (req : Json) : Nat × Json :=
  match req.get (lit "q") with
  | some (.arr items) =>
    if items.length > maxBatchSize then
      (400, errorEntry (lit "batch too large (" ++ decimal items.length ++ lit " > " ++
        decimal maxBatchSize ++ lit ")"))
    else (200, .obj [(lit "q", .arr (items.map worker.settled))])
  | _ =>
    match worker.processOne req with
    | .error reason => (502, errorEntry (lit "fetch failed: " ++ reason))
    | .ok result =>
      if (worker.engine.member result (lit "e")).isSome then (400, result) else (200, result)

def answer (request : WorkerRequest) : Nat × Json :=
  if worker.authKey = defaultAuthKey then
    (500, errorEntry (lit "configure AUTH_KEY in worker.js"))
  else if request.method ≠ lit "POST" then (405, errorEntry (lit "method not allowed"))
  else if request.relayHop = some (lit "1") then (508, errorEntry (lit "loop detected"))
  else
    match Json.read request.body with
    | none => (400, errorEntry (lit "bad json"))
    | some req =>
      if (req.get (lit "k")).bind Json.asStr ≠ some worker.authKey then
        (401, errorEntry (lit "unauthorized"))
      else worker.serve req

end Worker

structure WorkerPost where
  url : Text
  method : Text := lit "post"
  contentType : Text := lit "application/json"
  payload : Text
  muteHttpExceptions : Bool := true
  followRedirects : Bool := true
  validateHttpsCertificates : Bool := true

structure WorkerReply where
  code : Nat
  text : Text

structure WorkerScript where
  authKey : Text
  workerUrl : Text
  engine : Engine
  /-- The text of the error for the address of an item that is `null`. -/
  noAddress : Text
  fetch : WorkerPost → Except Text WorkerReply
  fetchAll : List WorkerPost → Except Text (List WorkerReply)

namespace WorkerScript

def workerBatchChunk : Nat := 40

variable (script : WorkerScript)

def scrubHeaders (rawHeaders : Option Json) : Except Text (List (Text × Json)) :=
  match rawHeaders.filter isObject with
  | none => .ok []
  | some fields =>
    if (fields.get (lit "hasOwnProperty")).isSome then
      .error (script.engine.notAFunction (lit "hasOwnProperty"))
    else
      .ok ((ownEntries fields).filter fun field =>
        !tableHas hopHeaders (script.engine.toLowerCase field.1))

def normalizeItem (url : Text) (item : Json) : Except Text Json := do
  let method ← upperMethod script.engine item
  let headers ← script.scrubHeaders (item.get (lit "h"))
  return .obj [(lit "u", .str url), (lit "m", .str method), (lit "h", .obj headers),
    (lit "b", (script.engine.member item (lit "b")).getD .null),
    (lit "ct", (script.engine.member item (lit "ct")).getD .null),
    (lit "r", .bool (buildOpts.followsRedirects item))]

def itemAddress : Json → Except Text (Option Text)
  | .null => .error script.noAddress
  | item =>
    match item.get (lit "u") with
    | some (.str url) => .ok (if isHttpUrl url then some url else none)
    | _ => .ok none

def sortItems : Nat → List Json → Except Text (List Json × List (Nat × Text))
  | _, [] => .ok ([], [])
  | i, item :: rest => do
    match ← script.itemAddress item with
    | none =>
      let (validItems, errorMap) ← sortItems (i + 1) rest
      return (validItems, (i, lit "bad url") :: errorMap)
    | some url =>
      let normal ← script.normalizeItem url item
      let (validItems, errorMap) ← sortItems (i + 1) rest
      return (normal :: validItems, errorMap)

def chunks : Nat → List Json → List (List Json)
  | 0, _ => []
  | _, [] => []
  | rounds + 1, items => items.take workerBatchChunk :: chunks rounds (items.drop workerBatchChunk)

def workerFetchOptions (chunk : List Json) : WorkerPost where
  url := script.workerUrl
  payload := (Json.obj [(lit "k", .str script.authKey), (lit "q", .arr chunk)]).write

def parseWorkerJson (reply : WorkerReply) : Json :=
  (Json.read reply.text).getD (errorEntry (lit "worker " ++ decimal reply.code ++ lit ": " ++
    if reply.text.length > 200 then reply.text.take 200 ++ lit "…" else reply.text))

def chunkResults (chunk : List Json) (reply : WorkerReply) : List Json :=
  let parsed := parseWorkerJson reply
  match parsed.get (lit "q") with
  | some (.arr entries) => entries
  | _ =>
    match script.engine.member parsed (lit "e") with
    | some reason => List.replicate chunk.length (.obj [(lit "e", reason)])
    | none => List.replicate chunk.length (errorEntry (lit "worker batch failure"))

def postAll : List WorkerPost → Except Text (List WorkerReply)
  | [post] => (script.fetch post).map ([·])
  | posts => script.fetchAll posts

def workerResults (validItems : List Json) : List Json :=
  if validItems.isEmpty then []
  else
    let parts := chunks validItems.length validItems
    match script.postAll (parts.map script.workerFetchOptions) with
    | .error reason =>
      List.replicate validItems.length (errorEntry (lit "worker unreachable: " ++ reason))
    | .ok replies => (List.zipWith script.chunkResults parts replies).flatten

def reassemble (errorMap : List (Nat × Text)) (results : List Json) :
    Nat → Nat → List Json → List Json
  | _, _, [] => []
  | j, wi, _ :: rest =>
    match errorMap.lookup j with
    | some reason => errorEntry reason :: reassemble errorMap results (j + 1) wi rest
    | none =>
      ((results[wi]?).filter script.engine.truthy).getD
          (errorEntry (lit "missing worker response")) ::
        reassemble errorMap results (j + 1) (wi + 1) rest

def doBatch (items : List Json) : Except Text Json := do
  let (validItems, errorMap) ← script.sortItems 0 items
  return .obj [(lit "q", .arr
    (script.reassemble errorMap (script.workerResults validItems) 0 0 items))]

end WorkerScript

end Gvpn
