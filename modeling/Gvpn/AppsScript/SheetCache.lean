import Gvpn.AppsScript.Relay

/-! The cache for responses that a script keeps in the rows of a sheet. -/

namespace Gvpn

def cacheMaxRows : Nat := 5000
def cacheMaxBodyBytes : Nat := 35000
def cacheDefaultTtlSeconds : Nat := 86400
def negativeCacheStatuses : List Nat := [404, 410, 451]
def negativeCacheTtlSeconds : Nat := 300
def gzipMinBytes : Nat := 256

def varyKeyHeaders : List Text := [lit "accept-encoding", lit "accept-language"]

def cacheBustingHeaders : List Text :=
  [lit "authorization", lit "cookie", lit "x-api-key", lit "proxy-authorization", lit "set-cookie"]

structure SheetServices where
  md5Hex : Text → Text
  gzip : Bytes → Bytes
  ungzip : Bytes → Bytes
  stringOf : Json → Text
  toUtcString : Nat → Text

structure CacheRow where
  hash : Text
  url : Text
  status : Nat
  headers : List (Text × Json)
  body : Text
  timestamp : Nat
  expiresAt : Nat
  z : Bool

structure CacheSheet where
  allocated : Nat
  rows : List CacheRow := []
  cursor : Nat := 2

namespace CacheSheet

variable (sheet : CacheSheet)

def numRows : Nat := sheet.rows.length + 1

def ensureRowsAllocated : CacheSheet :=
  if sheet.numRows < cacheMaxRows + 1 then
    { sheet with allocated := sheet.allocated + (cacheMaxRows + 1 - sheet.numRows) }
  else sheet

def getNextCursor : Nat :=
  let cursor := if sheet.cursor < 2 then 2 else sheet.cursor
  if sheet.numRows < cacheMaxRows + 1 then sheet.numRows + 1 else cursor

def advanceCursor (currentRow : Nat) : CacheSheet :=
  { sheet with cursor := if cacheMaxRows + 1 < currentRow + 1 then 2 else currentRow + 1 }

def setRow (number : Nat) (row : CacheRow) : CacheSheet :=
  { sheet with
    rows := if number = sheet.numRows + 1 then sheet.rows ++ [row]
      else sheet.rows.set (number - 2) row }

def writeRow (metaWorks : Bool) : Nat :=
  if metaWorks then sheet.getNextCursor else sheet.numRows + 1

def store (metaWorks : Bool) (row : CacheRow) : CacheSheet :=
  if metaWorks then
    let ready := sheet.ensureRowsAllocated
    (ready.setRow ready.getNextCursor row).advanceCursor ready.getNextCursor
  else
    { sheet.setRow (sheet.numRows + 1) row with
      allocated := max sheet.allocated (sheet.numRows + 1) }

end CacheSheet

def CacheRow.shows (row : CacheRow) (text : Text) : Bool :=
  [row.hash, row.url, row.body].any fun cell => eqIgnoreCase cell text

def isScriptBlank (c : Char) : Bool := (isBlank c && c ≠ '\u0085') || c = '\ufeff'

section

variable (engine : Engine) (services : SheetServices)

def getHeaderCaseInsensitive (headers : Json) (target : Text) : Except Text (Option Json) :=
  if (headers.get (lit "hasOwnProperty")).isSome then
    .error (engine.notAFunction (lit "hasOwnProperty"))
  else
    .ok (((ownEntries headers).find? fun field =>
      engine.toLowerCase field.1 = target).map Prod.snd)

def keyPart (headers : Option Json) (name : Text) : Except Text Text := do
  let value ←
    match headers with
    | some headers => getHeaderCaseInsensitive engine headers name
    | none => .ok none
  match value.filter fun value =>
    engine.truthy value && (services.stringOf value).any fun c => !isScriptBlank c with
  | none => return name ++ lit ":<none>"
  | some (.str text) =>
    return name ++ lit ":" ++ (engine.toLowerCase text).filter fun c => !isScriptBlank c
  | some _ => .error (engine.notAFunction (lit "toLowerCase"))

def getCacheKey (url : Text) (reqHeaders : Option Json) : Except Text Text := do
  let parts ← varyKeyHeaders.mapM (keyPart engine services (reqHeaders.filter isObject))
  return services.md5Hex ((lit "|").intercalate (url :: parts))

def isPlainGet (req : Json) : Bool :=
  match engine.member req (lit "m") with
  | none => true
  | some (.str method) => method = lit "GET"
  | some _ => false

/-- The header fields of a request keep it from the cache, unless none of them is private. -/
def mayShare (req : Json) : Except Text Bool :=
  match (req.get (lit "h")).filter isObject with
  | none => .ok true
  | some fields =>
    if (fields.get (lit "hasOwnProperty")).isSome then
      .error (engine.notAFunction (lit "hasOwnProperty"))
    else
      .ok (!(ownEntries fields).any fun field =>
        tableHas cacheBustingHeaders (engine.toLowerCase field.1))

/-- A request takes the cache path: a plain GET of an address, if a sheet is configured. -/
def canUseCache (configured : Bool) (req : Json) : Except Text Bool :=
  if ¬ isPlainGet engine req then .ok false
  else if (engine.member req (lit "b")).isSome then .ok false
  else
    match engine.member req (lit "u") with
    | none => .ok false
    | some (.str url) => if isHttpUrl url ∧ configured then mayShare engine req else .ok false
    | some _ => .error (engine.notAFunction (lit "match"))

def findMaxAge : Text → Option Nat
  | [] => none
  | c :: rest =>
    let digits := ((stripStart (lit "max-age=") (c :: rest)).getD []).takeWhile Char.isDigit
    if digits = [] then findMaxAge rest else some (readDigits digits)

def forbiddingWords : List Text := [lit "no-cache", lit "no-store", lit "private"]

def parseMaxAge : Option Json → Except Text Nat
  | none => .ok cacheDefaultTtlSeconds
  | some (.str text) =>
    let small := engine.toLowerCase text
    if forbiddingWords.any fun word => (cut word small).isSome then .ok 0
    else
      match findMaxAge small with
      | some ttl => .ok (max 60 (min ttl 2592000))
      | none => .ok cacheDefaultTtlSeconds
  | some _ => .error (engine.notAFunction (lit "toLowerCase"))

def eitherField (headers : List (Text × Json)) (name other : Text) : Option Json :=
  (engine.member (.obj headers) name).or (engine.member (.obj headers) other)

def cacheControl (headers : List (Text × Json)) : Option Json :=
  eitherField engine headers (lit "Cache-Control") (lit "cache-control")

def refreshCachedHeaders (headers : List (Text × Json)) (timestamp now : Nat) :
    Except Text (List (Text × Json)) := do
  let ageSeconds := (now - timestamp) / 1000
  let dated := assign (lit "Age") (.str (decimal ageSeconds))
    (assign (lit "Date") (.str (services.toUtcString now)) headers)
  let originalCc := cacheControl engine dated
  let marked := originalCc.elim dated fun value =>
    assign (lit "X-Original-Cache-Control") value dated
  let maxAge ← parseMaxAge engine originalCc
  return assign (lit "X-Cached-At") (.str (services.toUtcString timestamp))
    (assign (lit "X-Cache") (.str (lit "HIT from relay-spreadsheet"))
      (assign (lit "Cache-Control")
        (.str (lit "public, max-age=" ++ decimal (maxAge - ageSeconds))) marked))

def CacheSheet.findNext (sheet : CacheSheet) (hash : Text) : Option CacheRow :=
  sheet.rows.find? fun row => row.shows hash

structure CacheReply where
  status : Nat
  headers : List (Text × Json)
  body : Text

def replyOf (row : CacheRow) (now : Nat) : Except Text CacheReply := do
  let body ←
    if row.z then do
      let gzipped ← engine.base64Decode (.str row.body)
      pure (Base64.encode (services.ungzip gzipped))
    else pure row.body
  let headers ← refreshCachedHeaders engine services row.headers row.timestamp now
  return { status := row.status, headers, body }

def getFromCache (sheet : CacheSheet) (url : Text) (reqHeaders : Option Json) (now : Nat) :
    Except Text (Option CacheReply) := do
  let hash ← getCacheKey engine services url reqHeaders
  match sheet.findNext hash with
  | none => return none
  | some row =>
    if row.expiresAt < now then return none
    else (replyOf engine services row now).map some

def cacheFetchOptions : FetchOptions where
  method := lit "get"
  followRedirects := true
  escaping := true
  headers := none
  payload := none
  contentType := none

def storedBody (headers : List (Text × Json)) (content : Bytes) : Text × Bool :=
  let encoding := engine.toLowerCase (((eitherField engine headers (lit "Content-Encoding")
    (lit "content-encoding")).map services.stringOf).getD [])
  if (encoding ≠ [] ∧ encoding ≠ lit "identity") ∨ content.length < gzipMinBytes then
    (Base64.encode content, false)
  else (Base64.encode (services.gzip content), true)

def rowFor (url : Text) (reqHeaders : Option Json) (response : Fetched) (now : Nat) :
    Except Text (Option CacheRow) := do
  let headers := response.headers.map fun field => (field.1, field.2.toJson)
  if 500 ≤ response.code then return none
  let control := cacheControl engine headers
  let parsed ← parseMaxAge engine control
  if parsed = 0 then return none
  let ttlSeconds :=
    if response.code ∈ negativeCacheStatuses ∧ control = none then negativeCacheTtlSeconds
    else parsed
  let stored := storedBody engine services headers response.content
  if cacheMaxBodyBytes < stored.1.length then return none
  let hash ← getCacheKey engine services url reqHeaders
  return some { hash, url, status := response.code, headers, body := stored.1, timestamp := now
                expiresAt := now + ttlSeconds * 1000, z := stored.2 }

def fetchAndCache (fetch : Text → FetchOptions → Except Text Fetched) (metaWorks : Bool)
    (sheet : CacheSheet) (url : Text) (reqHeaders : Option Json) (now : Nat) :
    Option CacheReply × CacheSheet :=
  match fetch url cacheFetchOptions with
  | .error _ => (none, sheet)
  | .ok response =>
    let live : CacheReply :=
      { status := response.code
        headers := response.headers.map fun field => (field.1, field.2.toJson)
        body := Base64.encode response.content }
    match rowFor engine services url reqHeaders response now with
    | .error _ => (none, sheet)
    | .ok none => (some live, sheet)
    | .ok (some row) => (some live, sheet.store metaWorks row)

end

end Gvpn
