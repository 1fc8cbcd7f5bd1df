import Gvpn.Proxy.Mitm

/-! Requests to the proxy port that name a whole address. -/

namespace Gvpn

def splitAuthority (authority : Text) (defaultPort : Nat) : Text × Nat :=
  if 1 < authority.count ':' ∧ authority.head? ≠ some '[' then (authority, defaultPort)
  else
    match rsplitOnce ':' authority with
    | some (host, port) =>
      match parseUnsigned (2 ^ 16) port with
      | some number => (host, number)
      | none => (authority, defaultPort)
    | none => (authority, defaultPort)

def splitPath (rest : Text) : Text × Text :=
  match splitOnce '/' rest with
  | some (authority, path) => (authority, '/' :: path)
  | none => (rest, lit "/")

def resolvePlainHttpTarget (target : Text) (headers : List (Text × Text)) :
    Option (Text × Nat × Text) :=
  match stripStart (lit "http://") target, stripStart (lit "https://") target with
  | some rest, _ => absolute rest 80
  | none, some rest => absolute rest 443
  | none, none =>
    if target.head? = some '/' then
      -- The path leaves the host to a header field.
      (headerGet headers (lit "host")).map fun authority =>
        let (host, port) := splitAuthority authority 80
        (host, port, target)
    else none
where
  /-- The parts of an address behind its scheme. -/
  absolute (rest : Text) (defaultPort : Nat) : Option (Text × Nat × Text) :=
    let (authority, path) := splitPath rest
    if authority = [] then none
    else
      let (host, port) := splitAuthority authority defaultPort
      some (host, port, path)

def hopFields : List Text := [lit "proxy-connection", lit "connection", lit "keep-alive"]

def originHead (request : RequestHead) (path : Text) : Text :=
  request.method ++ [' '] ++ path ++ [' '] ++ request.version ++ ['\r', '\n'] ++
    (request.headers.flatMap fun field =>
      if lower field.1 ∈ hopFields then []
      else field.1 ++ lit ": " ++ field.2 ++ ['\r', '\n']) ++
    lit "Connection: close\r\n\r\n"

inductive PlainOutcome where
  | failed (error : IoError)
  -- The connection is closed without a word.
  | ignored
  | relayed (inRanges : Bool) (request : RelayRequest)
  -- The request and all behind it go to the origin.
  | spliced (via : Option Text) (host : Text) (port : Nat) (sent : Bytes) (rest : Segments)
  deriving DecidableEq

def plainUrl (request : RequestHead) : Text :=
  if (lit "http://").isPrefixOf request.target ∨ (lit "https://").isPrefixOf request.target then
    request.target
  else lit "http://" ++ headerOr request.headers (lit "host") [] ++ request.target

def doPlainHttp (head leftover : Bytes) (stream : Segments) : PlainOutcome :=
  match parseRequestHead head with
  | none => .failed (.invalidData (lit "bad request"))
  | some request =>
    match readBody leftover request.headers stream with
    | .error error => .failed error
    | .ok (body, _) =>
      .relayed (eqIgnoreCase request.method (lit "GET") && body = [])
        ⟨request.method, plainUrl request, request.headers, body⟩

def doPlainHttpPassthrough (ctx : RewriteCtx) (head leftover : Bytes) (stream : Segments) :
    PlainOutcome :=
  match parseRequestHead head with
  | none => .ignored
  | some request =>
    match resolvePlainHttpTarget request.target request.headers with
    | none => .ignored
    | some (host, port, path) =>
      .spliced ctx.upstreamSocks5 host port (toUtf8 (originHead request path) ++ leftover) stream

def servePlain (ctx : RewriteCtx) (relayed : Bool) (head leftover : Bytes) (stream : Segments) :
    PlainOutcome :=
  if relayed then doPlainHttp head leftover stream
  else doPlainHttpPassthrough ctx head leftover stream

end Gvpn
