import Gvpn.Fronter.Range

/-! Header fields that let a page of another origin read a relayed response. -/

namespace Gvpn

def isCorsLine (line : Text) : Bool := (lit "access-control-").isPrefixOf (lower line)

def corsLines (origin : Text) : List Text :=
  [lit "Access-Control-Allow-Origin: " ++ origin,
    lit "Access-Control-Allow-Credentials: true",
    lit "Access-Control-Allow-Methods: GET, POST, PUT, DELETE, PATCH, OPTIONS, HEAD",
    lit "Access-Control-Allow-Headers: *",
    lit "Access-Control-Expose-Headers: *"]

def varyLine : Text := lit "Vary: Origin"

def stripHeadEnd (head : Bytes) : Bytes :=
  if headEnd.isSuffixOf head then head.take (head.length - headEnd.length) else head

def rewrittenLines (head origin : Text) : List Text :=
  let kept := match splitCrlf head with
    | [] => []
    -- The status line is always kept.
    | status :: lines => status :: lines.filter fun line => !isCorsLine line
  kept ++ corsLines origin ++ [varyLine]

def injectCorsIntoHead (headWithTerminator : Bytes) (origin : Text) : Option Bytes :=
  (fromUtf8 (stripHeadEnd headWithTerminator)).map fun head =>
    toUtf8 ((rewrittenLines head origin).flatMap (· ++ ['\r', '\n']) ++ ['\r', '\n'])

def injectCorsResponseHeaders (response : Bytes) (origin : Text) : Bytes :=
  match cut headEnd response with
  | none => response
  | some (head, body) =>
    match injectCorsIntoHead (head ++ headEnd) origin with
    | some rewritten => rewritten ++ body
    | none => response

def transformHead (corsOrigin : Option Text) (head : Bytes) : Bytes :=
  match corsOrigin with
  | some origin => (injectCorsIntoHead head origin).getD head
  | none => head

def transformResponse (corsOrigin : Option Text) (response : Bytes) : Bytes :=
  match corsOrigin with
  | some origin => injectCorsResponseHeaders response origin
  | none => response

end Gvpn
