import Gvpn.Fronter.Http

/-! One request over the two transports, with every way in which it can fail. -/

namespace Gvpn

structure Response where
  status : Nat
  headers : List (Text × Text)
  body : Bytes

inductive RequestSent where
  | no
  | maybe
  deriving DecidableEq

inductive H2Failure where
  | failed (error : FronterError) (sent : RequestSent)
  -- The call was dropped while it waited.
  | dropped (sent : RequestSent)

inductive RoundTrip where
  | buildFailed (reason : Text)
  | readyFailed (reason : Text)
  | readyTimeout
  | openFailed (reason : Text)
  | droppedBefore
  -- From here on the head of the request is queued.
  | dataFailed (reason : Text)
  | responseFailed (reason : Text)
  | responseTimeout
  | chunkFailed (reason : Text)
  | chunkTimeout
  | droppedAfter
  | answered (response : Response)

namespace RoundTrip

def opened : RoundTrip → Bool
  | .buildFailed _ | .readyFailed _ | .readyTimeout | .openFailed _ | .droppedBefore => false
  | _ => true

end RoundTrip

def h2RoundTrip : RoundTrip → Except H2Failure Response
  | .buildFailed reason => .error (.failed (.relay (lit "h2 request build: " ++ reason)) .no)
  | .readyFailed reason => .error (.failed (.relay (lit "h2 ready: " ++ reason)) .no)
  | .readyTimeout => .error (.failed .timeout .no)
  | .openFailed reason => .error (.failed (.relay (lit "h2 send_request: " ++ reason)) .no)
  | .droppedBefore => .error (.dropped .no)
  | .dataFailed reason => .error (.failed (.relay (lit "h2 send_data: " ++ reason)) .maybe)
  | .responseFailed reason => .error (.failed (.relay (lit "h2 response: " ++ reason)) .maybe)
  | .responseTimeout => .error (.failed .timeout .maybe)
  | .chunkFailed reason => .error (.failed (.relay (lit "h2 body chunk: " ++ reason)) .maybe)
  | .chunkTimeout => .error (.failed .timeout .maybe)
  | .droppedAfter => .error (.dropped .maybe)
  | .answered response => .ok response

def isRedirect (status : Nat) : Bool := status ∈ [301, 302, 303, 307, 308]

def followRedirects {ε : Type} (hop : Nat → Except ε Response) :
    Nat → Response → Except ε Response
  | 0, response => .ok response
  | left + 1, response =>
    if isRedirect response.status ∧ (headerGet response.headers (lit "location")).isSome then
      match hop left with
      | .error failure => .error failure
      | .ok next => followRedirects hop left next
    else .ok response

def H2Failure.afterAnswer : H2Failure → H2Failure
  | .failed error _ => .failed error .maybe
  | .dropped _ => .dropped .maybe

inductive H2Attempt where
  | unavailable
  | usable (first : RoundTrip) (hops : Nat → RoundTrip)

def H2Attempt.opened : H2Attempt → Bool
  | .unavailable => false
  | .usable first _ => first.opened

def h2RelayRequest : H2Attempt → Except H2Failure Response
  | .unavailable => .error (.failed (.relay (lit "h2 unavailable")) .no)
  | .usable first hops =>
    match h2RoundTrip first with
    | .error failure => .error failure
    | .ok response =>
      followRedirects (fun left =>
        match h2RoundTrip (hops left) with
        | .ok next => .ok next
        | .error failure => .error failure.afterAnswer) 5 response

def PlainError := { error : FronterError // error.isRetryable = true }

inductive H1Hop where
  | failed (error : PlainError)
  | dropped
  | answered (response : Response)

inductive H1Attempt where
  | acquireFailed (error : PlainError)
  | writeFailed (error : PlainError)
  | droppedBefore
  -- From here on the request has been written.
  | flushFailed (error : PlainError)
  | readFailed (error : PlainError)
  | droppedAfter
  | answered (response : Response) (hops : Nat → H1Hop)

def H1Attempt.written : H1Attempt → Bool
  | .acquireFailed _ | .writeFailed _ | .droppedBefore => false
  | _ => true

def h1Hop : H1Hop → Except Stop Response
  | .failed error => .error (.failed error.val)
  | .dropped => .error .expired
  | .answered response => .ok response

def h1Exchange : H1Attempt → Except Stop Response
  | .acquireFailed error | .writeFailed error | .flushFailed error | .readFailed error =>
    .error (.failed error.val)
  | .droppedBefore | .droppedAfter => .error .expired
  | .answered response hops => followRedirects (fun left => h1Hop (hops left)) 5 response

def isH2FrontingRefusalStatus (status : Nat) : Bool := status = 421

inductive Sending where
  -- The edge turned the request away.
  | refused
  | delivered
  deriving DecidableEq

structure Run (α : Type) where
  sends : List Sending
  result : Except Stop α

structure Attempt where
  h2 : H2Attempt
  h1 : H1Attempt

namespace Attempt

def refused (attempt : Attempt) : Bool :=
  match h2RelayRequest attempt.h2 with
  | .ok response => isH2FrontingRefusalStatus response.status
  | .error _ => false

def h2Sends (attempt : Attempt) : List Sending :=
  if attempt.h2.opened then [if attempt.refused then .refused else .delivered] else []

def h1Sends (attempt : Attempt) : List Sending :=
  if attempt.h1.written then [.delivered] else []

def fallBack (attempt : Attempt) (finish : Response → Except Stop Bytes) : Run Bytes :=
  { sends := attempt.h2Sends ++ attempt.h1Sends
    result := match h1Exchange attempt.h1 with
      | .error stop => .error stop
      | .ok response => finish response }

/-- One attempt: the shared connection, then its own where sending again does no harm. -/
def make (attempt : Attempt) (harmless : Bool) (finish : Response → Except Stop Bytes) :
    Run Bytes :=
  match h2RelayRequest attempt.h2 with
  | .ok response =>
    if isH2FrontingRefusalStatus response.status then attempt.fallBack finish
    else { sends := attempt.h2Sends, result := finish response }
  | .error (.failed _ .no) => attempt.fallBack finish
  | .error (.failed error .maybe) =>
    if harmless then attempt.fallBack finish
    else { sends := attempt.h2Sends, result := .error (.failed (.nonRetryable error)) }
  | .error (.dropped _) => { sends := attempt.h2Sends, result := .error .expired }

end Attempt

end Gvpn
