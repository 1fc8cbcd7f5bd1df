import Gvpn.AppsScript.Dns
import Gvpn.Data.Slots

/-! How a script hands a batch of tunnel operations to the tunnel node. -/

namespace Gvpn

def enableEdgeDnsCache : Bool := true

def tunnelAuthKey : Text := lit "YOUR_TUNNEL_AUTH_KEY"

structure BatchServices where
  sha256 : Text → Bytes
  /-- The entries of the cache under some keys, unless the cache fails. -/
  getAll : List Text → Option (List (Text × Text))
  /-- The answer to a lookup that is made for the operation at a position. -/
  doh : Nat → Text → Except Text Fetched
  /-- The status and the text the tunnel node answers a request with. -/
  node : Json → Except Text (Nat × Text)

inductive BatchOutput where
  | json (value : Json)
  | passed (text : Text)

def batchError (reason : Text) : BatchOutput := .json (.obj [(lit "e", .str reason)])

def batchRequest (ops : List Json) (zc : Option Json) : Json :=
  .obj ([(lit "k", .str tunnelAuthKey), (lit "ops", .arr ops)] ++
    (zc.toList.map fun value => (lit "zc", value)))

section

variable (engine : Engine) (services : BatchServices)

def passNodeText (request : Json) : Except Text BatchOutput := do
  let (code, text) ← services.node request
  return if code ≠ 200 then batchError (lit "tunnel batch HTTP " ++ decimal code) else .passed text

def doTunnelBatchForward (ops : List Json) (zc : Option Json) : Except Text BatchOutput :=
  passNodeText services (batchRequest ops zc)

def doTunnelBatchForwardCompressed (zops : Json) : Except Text BatchOutput :=
  passNodeText services (.obj [(lit "k", .str tunnelAuthKey), (lit "zops", zops)])

def doTunnelBatchFetch (ops : List Json) : Except Text (Except Text (List Json)) := do
  let (code, text) ← services.node (batchRequest ops none)
  if code ≠ 200 then return .error (lit "tunnel batch HTTP " ++ decimal code)
  else
    match Json.read text with
    | none => return .error (lit "tunnel batch parse error")
    | some parsed =>
      match parsed.get (lit "r") with
      | some (.arr results) => return .ok results
      | _ => return .ok []

def dnsQuery (op : Json) : Option Json :=
  match op.get (lit "op"), op.get (lit "port") with
  | some (.str kind), some (.num port) =>
    if kind = lit "udp_open" ∧ engine.readsAs port 53 then engine.member op (lit "d") else none
  | _, _ => none

structure Routed where
  forward : List (Nat × Json)
  candidates : List (Nat × Json × Prepared)

def routeOps : Nat → List Json → Routed
  | _, [] => ⟨[], []⟩
  | i, op :: rest =>
    let routed := routeOps (i + 1) rest
    match (dnsQuery engine op).bind (edgeDnsPrepare engine services.sha256) with
    | some prep => { routed with candidates := (i, op, prep) :: routed.candidates }
    | none => { routed with forward := (i, op) :: routed.forward }

structure Answered where
  results : List (Nat × Json)
  forward : List (Nat × Json)

def resolveAll (cacheWorks : Bool) :
    List (Text × Text) → List (Nat × Json × Prepared) → Answered
  | _, [] => ⟨[], []⟩
  | cacheMap, (i, op, prep) :: rest =>
    let resolved := edgeDnsResolve engine (services.doh i) cacheWorks cacheMap prep
    let answered := resolveAll cacheWorks resolved.localMap rest
    match resolved.result with
    | some synth => { answered with results := (i, synth) :: answered.results }
    | none => { answered with forward := (i, op) :: answered.forward }

def lookupAll (candidates : List (Nat × Json × Prepared)) : List (Text × Text) × Bool :=
  if candidates = [] then ([], false)
  else
    match services.getAll (candidates.map fun candidate => candidate.2.2.key) with
    | some entries => (entries, true)
    | none => ([], false)

def spliceTunnelResults (forwardIdx : List Nat) (forwarded : List Json)
    (all : List (Option Json)) : List (Option Json) :=
  scatter (forwardIdx.zip forwarded) all

def batchResultsJson (results : List (Option Json)) : BatchOutput :=
  .json (.obj [(lit "r", .arr (results.map fun result => result.getD .null))])

def edgeDnsBatch (ops : List Json) (zc : Option Json) : Except Text BatchOutput :=
  let routed := routeOps engine services 0 ops
  let (cacheMap, cacheWorks) := lookupAll services routed.candidates
  let answered := resolveAll engine services cacheWorks cacheMap routed.candidates
  let results := scatter answered.results (List.replicate ops.length none)
  let forward := routed.forward ++ answered.forward
  if forward.length = 0 then .ok (batchResultsJson results)
  else if forward.length = ops.length then doTunnelBatchForward services ops zc
  else do
    -- The reply is read here, so it must not be packed.
    match ← doTunnelBatchFetch services (forward.map Prod.snd) with
    | .error reason => return batchError reason
    | .ok forwarded =>
      if forwarded.length ≠ forward.length then
        return batchError (lit "tunnel batch length mismatch")
      else
        return batchResultsJson (spliceTunnelResults (forward.map Prod.fst) forwarded results)

def doTunnelBatch (req : Json) : Except Text BatchOutput :=
  match engine.member req (lit "zops") with
  | some zops => doTunnelBatchForwardCompressed services zops
  | none =>
    let ops :=
      match req.get (lit "ops") with
      | some (.arr ops) => ops
      | _ => []
    let zc := engine.member req (lit "zc")
    if enableEdgeDnsCache then edgeDnsBatch engine services ops zc
    else doTunnelBatchForward services ops zc

end

end Gvpn
