import Gvpn.Fronter.Relay
import Gvpn.Proxy.Body
import Gvpn.Proxy.Connect

/-! The requests on an intercepted connection. -/

namespace Gvpn

inductive MitmEvent where
  -- The client is answered without the relay.
  | answered (response : Text)
  -- Only a request without a body is fetched in ranges.
  | relayed (inRanges : Bool) (request : RelayRequest)
  deriving DecidableEq

def isXCom (host : Text) : Bool :=
  isDotAnchoredMatch (lower host) (lit "x.com") || isDotAnchoredMatch (lower host) (lit "twitter.com")

def relayPath (host path : Text) : Text :=
  if isXCom host && (lit "/i/api/graphql/").isPrefixOf path &&
      (cut (lit "?variables=") path).isSome then before '&' path
  else path

def relayTarget (scheme host : Text) (port : Nat) (path : Text) : Text :=
  let usual := if scheme = lit "https" then 443 else 80
  if port = usual then scheme ++ lit "://" ++ host ++ relayPath host path
  else scheme ++ lit "://" ++ host ++ [':'] ++ decimal port ++ relayPath host path

def headerOr (headers : List (Text × Text)) (name default_ : Text) : Text :=
  (headerGet headers name).getD default_

def preflightResponse (headers : List (Text × Text)) : Text :=
  lit "HTTP/1.1 204 No Content\r\nAccess-Control-Allow-Origin: " ++
    headerOr headers (lit "origin") (lit "*") ++
    lit "\r\nAccess-Control-Allow-Methods: " ++
    headerOr headers (lit "access-control-request-method")
      (lit "GET, POST, PUT, DELETE, PATCH, OPTIONS, HEAD") ++
    lit "\r\nAccess-Control-Allow-Headers: " ++
    headerOr headers (lit "access-control-request-headers") (lit "*") ++
    lit "\r\nAccess-Control-Allow-Credentials: true\r\nAccess-Control-Max-Age: 86400\r\n" ++
    lit "Vary: Origin, Access-Control-Request-Method, Access-Control-Request-Headers\r\n" ++
    lit "Content-Length: 0\r\n\r\n"

def continueResponse : Text := lit "HTTP/1.1 100 Continue\r\n\r\n"

def wantsClose (headers : List (Text × Text)) : Bool :=
  headers.any fun field =>
    eqIgnoreCase field.1 (lit "connection") && eqIgnoreCase field.2 (lit "close")

structure MitmStep where
  events : List MitmEvent
  next : Option Segments

def serveRequest (scheme host : Text) (port : Nat) (request : RequestHead) (body : Bytes) :
    MitmEvent :=
  if eqIgnoreCase request.method (lit "OPTIONS") then .answered (preflightResponse request.headers)
  else
    .relayed (eqIgnoreCase request.method (lit "GET") && body = [])
      ⟨request.method, relayTarget scheme host port request.target, request.headers, body⟩

/-- Serve one request of an intercepted connection, and drop what was read beyond it. -/
def handleMitmRequest (scheme host : Text) (port : Nat) (stream : Segments) : MitmStep :=
  match readHttpHead stream with
  | .error _ => ⟨[], none⟩
  | .ok (.closed, _) => ⟨[], none⟩
  | .ok (.oversized, _) => ⟨[.answered oversizedResponse], none⟩
  | .ok (.got head leftover, rest) =>
    match parseRequestHead head with
    | none => ⟨[], none⟩
    | some request =>
      let goAhead :=
        if sendsContinue request.headers then [MitmEvent.answered continueResponse] else []
      match readBody leftover request.headers rest with
      | .error _ => ⟨goAhead, none⟩
      | .ok (body, after) =>
        { events := goAhead ++ [serveRequest scheme host port request body]
          next := if wantsClose request.headers then none else some after }

def mitmRounds (scheme host : Text) (port : Nat) : Nat → Segments → List MitmEvent
  | 0, _ => []
  | rounds + 1, stream =>
    let step := handleMitmRequest scheme host port stream
    step.events ++
      match step.next with
      | none => []
      | some rest => mitmRounds scheme host port rounds rest

def mitmLoop (scheme host : Text) (port : Nat) (stream : Segments) : List MitmEvent :=
  mitmRounds scheme host port (stream.bytes.length + 1) stream

def relayedRequests (events : List MitmEvent) : List RelayRequest :=
  events.filterMap fun
    | .relayed _ request => some request
    | .answered _ => none

end Gvpn
