import Gvpn.Proxy.Head
import Gvpn.Proxy.Routing

/-! The first request on a connection to the proxy port. -/

namespace Gvpn

def normalizeCacheHost (host : Text) : Text :=
  lower (match rsplitOnce '.' host with
    | some (front, []) => front
    | _ => host)

inductive ClientOutcome where
  -- The client left without sending anything.
  | gone
  | failed (error : IoError)
  -- The client is told why it is not served.
  | answered (response : Text)
  -- A tunnel handler owns the connection now.
  | tunnelled (host : Text) (port : Nat) (route : Route) (stream : Segments)
  -- Relayed, or passed through where there is no relay.
  | plain (relayed : Bool) (head leftover : Bytes) (stream : Segments)
  deriving DecidableEq

def oversizedResponse : Text :=
  lit "HTTP/1.1 431 Request Header Fields Too Large\r\nConnection: close\r\nContent-Length: 0\r\n\r\n"

def unreachableResponse : Text :=
  lit "HTTP/1.1 502 Bad Gateway\r\nContent-Length: 0\r\nConnection: close\r\n\r\n"

/-- Serve a connection to the proxy port, with the destinations known as unreachable. -/
def handleHttpClient (ctx : RewriteCtx) (unreachable : List (Text × Nat)) (peek : Peek)
    (stream : Segments) : ClientOutcome :=
  match readHttpHead stream with
  | .error error => .failed error
  | .ok (.closed, _) => .gone
  | .ok (.oversized, _) => .answered oversizedResponse
  | .ok (.got head leftover, rest) =>
    match parseRequestHead head with
    | none => .failed (.invalidData (lit "bad request"))
    | some request =>
      if eqIgnoreCase request.method (lit "CONNECT") then
        let (host, port) := parseHostPort request.target
        if ctx.hasMux ∧ (normalizeCacheHost host, port) ∈ unreachable then
          .answered unreachableResponse
        else
          -- What came with the head's end is not handed on.
          .tunnelled host port (dispatchTunnel ctx host port peek rest) rest
      else .plain ctx.hasFronter head leftover rest

end Gvpn
