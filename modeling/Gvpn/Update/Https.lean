import Gvpn.Data.Chunked
import Gvpn.Fronter.Http
import Gvpn.Fronter.Url

/-! Requests for releases: connection, response, redirects and storage. -/

namespace Gvpn

inductive UpdateRoute where
  | direct
  | proxy

inductive Timed where
  | done
  | late
  | failed (reason : Text)

def Timed.check (late failed : Text) : Timed → Except Text Unit
  | .done => .ok ()
  | .late => .error late
  | .failed reason => .error (failed ++ reason)

def refused (what : Text) : Option Text → Except Text Unit
  | none => .ok ()
  | some reason => .error (what ++ reason)

structure Exchange where
  -- Why the certificates of the proxy cannot be read.
  untrusted : Option Text
  tcp : Timed
  -- Why the proxy cannot be asked, or its reply.
  unasked : Option Text
  greeting : Segments
  greetingEnding : Ending
  -- Why a host cannot be the name of a server.
  badHost : Option Text
  tls : Timed
  unwritten : Option Text
  response : Segments
  ending : Ending

def textLines (text : Text) : List Text :=
  let parts := text.splitOn '\n'
  parts.dropLast.map (fun line => if line.getLast? = some '\r' then line.dropLast else line) ++
    parts.getLast?.toList.filter (· ≠ [])

def firstLine (text : Text) : Text := (textLines text).head?.getD []

def checkGreeting (collected : Bytes) : Option (Except Text Bytes) :=
  if (cut headEnd collected).isSome then some (.ok collected)
  else if 4096 < collected.length then some (.error (lit "proxy CONNECT reply too large"))
  else none

def connectProxy (exchange : Exchange) : Except Text Unit := do
  refused (lit "proxy CONNECT write: ") exchange.unasked
  match exchange.greeting.readUntil 256 (· ++ ·) checkGreeting [] with
  | .done greeting _ =>
    let line := firstLine (fromUtf8Lossy (← greeting))
    if (cut (lit "200") line).isSome then .ok ()
    else .error (lit "proxy CONNECT refused: " ++ line)
  | .ended _ =>
    match exchange.greetingEnding with
    | .failed reason => .error (lit "proxy CONNECT read: " ++ reason)
    | .silent => .error (lit "proxy CONNECT read timeout")
    | _ => .error (lit "proxy CONNECT closed early")

def readLimit (binary : Bool) : Nat := if binary then 128 * 1024 * 1024 else 512 * 1024

def readToEnd (binary : Bool) (stream : Segments) (ending : Ending) : Except Text Bytes :=
  match stream.readUntil 8192 (· ++ ·)
      (fun buf => if readLimit binary < buf.length then some () else none) [] with
  | .done _ _ => .error (lit "response too large")
  | .ended buf =>
    match ending with
    | .closed => .ok buf
    | .truncated reason | .failed reason => .error (lit "read: " ++ reason)
    | .silent => .error (lit "read timeout")

def openConnection (exchange : Exchange) : UpdateRoute → Except Text Unit
  | .direct => exchange.tcp.check (lit "tcp connect timeout") (lit "tcp connect: ")
  | .proxy => do
    refused (lit "read ca.crt: ") exchange.untrusted
    exchange.tcp.check (lit "proxy connect timeout") (lit "proxy connect: ")
    connectProxy exchange

def fetchRelease (route : UpdateRoute) (binary : Bool) (exchange : Exchange) : Except Text Bytes := do
  openConnection exchange route
  refused (lit "bad host: ") exchange.badHost
  exchange.tls.check (lit "tls handshake timeout") (lit "tls: ")
  refused (lit "write: ") exchange.unwritten
  readToEnd binary exchange.response exchange.ending

def hostAndPath (rest : Text) : Option (Text × Text) :=
  if '/' ∈ rest then some (before '/' rest, rest.drop (before '/' rest).length) else none

def parseUrl (url defaultHost : Text) : Text × Text :=
  match stripStart (lit "https://") url with
  | some rest => (hostAndPath rest).getD (rest, ['/'])
  | none => if url.head? = some '/' then (defaultHost, url) else (defaultHost, '/' :: url)

def splitUrl (url : Text) : Option (Text × Text) :=
  (stripStart (lit "https://") url).bind hostAndPath

def locationOf (hdr : Text) : Option Text :=
  (textLines hdr).findSome? fun line =>
    if (lit "location:").isPrefixOf (lower line) then (splitOnce ':' line).map (trim ·.2) else none

inductive Hop where
  | finished (result : Except Text Bytes)
  | redirected (host path : Text)

def parseResponse (buf : Bytes) (host : Text) : Hop :=
  match cut headEnd buf with
  | none => .finished (.error (lit "no HTTP header terminator"))
  | some (head, body) =>
    match fromUtf8 head with
    | none => .finished (.error (lit "non-utf8 header"))
    | some hdr =>
      match (((firstLine hdr).splitOnP isBlank).filter (· ≠ []))[1]?.bind
          (parseUnsigned (2 ^ 16)) with
      | none => .finished (.error (lit "bad status line: " ++ firstLine hdr))
      | some status =>
        if status = 200 then .finished (.ok body)
        else if status ∈ [301, 302, 307, 308] then
          match locationOf hdr with
          | none => .finished (.error (lit "redirect without Location"))
          | some loc => .redirected (parseUrl loc host).1 (parseUrl loc host).2
        else
          .finished (.error (lit "HTTP " ++ decimal status ++ lit ": " ++
            (fromUtf8Lossy body).take 240))

def requestOnce (route : UpdateRoute) (binary : Bool) (exchange : Exchange) (host : Text) : Hop :=
  match fetchRelease route binary exchange with
  | .error reason => .finished (.error reason)
  | .ok buf => parseResponse buf host

/--
A request that follows redirects, with fuel, the number of those before, and a network that may depend
on both.
-/
def httpsRawGet (network : Nat → Text → Text → Exchange) (route : UpdateRoute) (binary : Bool) :
    Nat → Nat → Text → Text → Option (Nat × Except Text Bytes)
  | 0, _, _, _ => none
  | fuel + 1, made, host, path =>
    match requestOnce route binary (network made host path) host with
    | .finished result => some (made + 1, result)
    | .redirected newHost newPath =>
      httpsRawGet network route binary fuel (made + 1) newHost newPath

def downloadAsset (network : Nat → Text → Text → Exchange) (route : UpdateRoute) (fuel : Nat)
    (assetUrl outPath : Text) (unstored : Option Text) : Option (Except Text (Bytes × Nat)) :=
  match splitUrl assetUrl with
  | none => some (.error (lit "bad asset URL: " ++ assetUrl))
  | some (host, path) =>
    (httpsRawGet network route true fuel 0 host path).map fun reply => do
      let body ← reply.2
      refused (lit "write " ++ outPath ++ lit ": ") unstored
      pure (body, body.length)

end Gvpn
