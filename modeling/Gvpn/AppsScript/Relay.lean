import Gvpn.AppsScript.Engine
import Gvpn.Data.Slots
import Gvpn.Fronter.ExitNode

/-! The batch relay of the scripts: what is fetched, and the answers. -/

namespace Gvpn

def skipHeaders : List Text :=
  [lit "host", lit "connection", lit "content-length", lit "transfer-encoding",
    lit "proxy-connection", lit "proxy-authorization", lit "priority", lit "te",
    lit "x-forwarded-for", lit "x-forwarded-host", lit "x-forwarded-proto",
    lit "x-forwarded-port", lit "x-real-ip", lit "forwarded", lit "via"]

def safeReplayMethods : List Text := [lit "GET", lit "HEAD", lit "OPTIONS"]

structure FetchOptions where
  method : Text
  muteHttpExceptions : Bool := true
  followRedirects : Bool
  validateHttpsCertificates : Bool := true
  escaping : Bool := false
  headers : Option (List (Text × Json))
  payload : Option Bytes
  contentType : Option Json

structure FetchArgs extends FetchOptions where
  url : Text

structure UrlFetch where
  fetchAll : List FetchArgs → Except Text (List Fetched)
  /-- The fetch with a number among those of the batch. -/
  fetch : Nat → Text → FetchOptions → Except Text Fetched

section

variable (engine : Engine)

def requestMethod (req : Json) : Except Text Text :=
  match engine.member req (lit "m") with
  | none => .ok (lit "GET")
  | some (.str method) => .ok method
  | some _ => .error (engine.notAFunction (lit "toLowerCase"))

def fetchHeaders (fields : Json) : Except Text (List (Text × Json)) :=
  if (fields.get (lit "hasOwnProperty")).isSome then
    -- A field of that name hides the inherited function.
    .error (engine.notAFunction (lit "hasOwnProperty"))
  else
    .ok ((ownEntries fields).filter fun field =>
      !tableHas skipHeaders (engine.toLowerCase field.1))

def buildOpts (req : Json) : Except Text FetchOptions := do
  let method ← requestMethod engine req
  let headers ←
    match (req.get (lit "h")).filter isObject with
    | some fields => (fetchHeaders engine fields).map some
    | none => .ok none
  match engine.member req (lit "b") with
  | none =>
    return { method := engine.toLowerCase method, followRedirects := followsRedirects
             headers, payload := none, contentType := none }
  | some body =>
    let payload ← engine.base64Decode body
    return { method := engine.toLowerCase method, followRedirects := followsRedirects
             headers, payload := some payload, contentType := engine.member req (lit "ct") }
where
  /-- Redirects are followed unless the request says otherwise. -/
  followsRedirects : Bool :=
    match req.get (lit "r") with
    | some (.bool false) => false
    | _ => true

def itemUrl (item : Json) : Except Text Text :=
  if isObject item then
    match item.get (lit "u") with
    | some (.str url) => if isHttpUrl url then .ok url else .error (lit "bad url")
    | _ => .error (lit "bad url")
  else .error (lit "bad item")

def prepareItem (item : Json) : Except Text (FetchArgs × Text) := do
  let url ← itemUrl item
  let opts ← buildOpts engine item
  let method ← requestMethod engine item
  return ({ opts with url }, engine.toUpperCase method)

structure PlannedFetch where
  args : FetchArgs
  index : Nat
  method : Text

structure BatchPlan where
  fetches : List PlannedFetch
  errorMap : List (Nat × Text)

def planBatch : Nat → List Json → BatchPlan
  | _, [] => ⟨[], []⟩
  | i, item :: rest =>
    let plan := planBatch (i + 1) rest
    match prepareItem engine item with
    | .ok (args, method) => { plan with fetches := ⟨args, i, method⟩ :: plan.fetches }
    | .error reason => { plan with errorMap := (i, reason) :: plan.errorMap }

def replayFetch (service : UrlFetch) (j : Nat) (args : FetchArgs) (method : Text) :
    Except Text Fetched :=
  if tableHas safeReplayMethods method then service.fetch j args.url args.toFetchOptions
  else .error (lit "batch fetchAll failed; unsafe method not replayed")

def replayBatch (service : UrlFetch) :
    Nat → List PlannedFetch → List (Option Fetched) × List (Nat × Text)
  | _, [] => ([], [])
  | j, planned :: rest =>
    let (responses, errors) := replayBatch service (j + 1) rest
    match replayFetch service j planned.args planned.method with
    | .ok response => (some response :: responses, errors)
    | .error reason => (none :: responses, (planned.index, reason) :: errors)

def errorEntry (reason : Text) : Json := .obj [(lit "e", .str reason)]

def responseEntry (response : Fetched) : Json :=
  .obj [(lit "s", .num (decimal response.code)),
    (lit "h", .obj (response.headers.map fun field => (field.1, field.2.toJson))),
    (lit "b", .str (Base64.encode response.content))]

def fetchedEntry : Option Fetched → Json
  | some response => responseEntry response
  | none => errorEntry (lit "fetch failed")

def mergeResults (errorMap : List (Nat × Text)) (responses : List (Option Fetched)) :
    Nat → Nat → List Json → List Json
  | _, _, [] => []
  | i, rIdx, _ :: rest =>
    match errorMap.lookup i with
    | some reason => errorEntry reason :: mergeResults errorMap responses (i + 1) rIdx rest
    | none =>
      fetchedEntry responses[rIdx]?.join ::
        mergeResults errorMap responses (i + 1) (rIdx + 1) rest

def fetchPlanned (service : UrlFetch) (plan : BatchPlan) :
    List (Option Fetched) × List (Nat × Text) :=
  if plan.fetches = [] then ([], plan.errorMap)
  else
    match service.fetchAll (plan.fetches.map PlannedFetch.args) with
    | .ok responses => (responses.map some, plan.errorMap)
    | .error _ =>
      let (responses, errors) := replayBatch service 0 plan.fetches
      (responses, errors ++ plan.errorMap)

def doBatch (service : UrlFetch) (items : List Json) : Json :=
  let (responses, errorMap) := fetchPlanned service (planBatch engine 0 items)
  .obj [(lit "q", .arr (mergeResults errorMap responses 0 0 items))]

end

end Gvpn
