import Gvpn.Fronter.Envelope
import Gvpn.Fronter.ExitNode
import Gvpn.Fronter.Transport
import Gvpn.Fronter.Url

/-! A relayed request, with its attempts, retries and fallbacks. -/

namespace Gvpn

def upper (text : Text) : Text := text.map Char.toUpper

def isMethodSafeForFanout (method : Text) : Bool :=
  upper method ∈ [lit "GET", lit "HEAD", lit "OPTIONS"]

structure RelayConfig where
  exitNode : ExitNodeConfig
  normalizeXGraphql : Bool
  stripNoise : Bool
  parallelRelay : Nat
  scriptIds : List Text

structure RelayRequest where
  method : Text
  url : Text
  headers : List (Text × Text)
  body : Bytes
  deriving DecidableEq

def directAnswer (texts : LibraryTexts) (config : RelayConfig) (response : Response) :
    Except Stop Bytes :=
  if response.status = 200 then parseRelayJson texts config.stripNoise response.body
  else .error (.failed (.relay (lit "Apps Script HTTP " ++ decimal response.status ++ lit ": " ++
    (texts.lossy response.body).take 200)))

def outerAnswer (texts : LibraryTexts) (response : Response) : Except Stop Bytes :=
  if response.status = 200 then .ok response.body
  else .error (.failed (.relay (lit "Apps Script HTTP " ++ decimal response.status ++
    lit " (exit-node outer call): " ++ (texts.lossy response.body).take 200)))

def doRelayOnceInner (texts : LibraryTexts) (config : RelayConfig) (method : Text)
    (attempt : Attempt) : Run Bytes :=
  attempt.make (isMethodSafeForFanout method) (directAnswer texts config)

def sendPrebuiltPayloadThroughRelay (texts : LibraryTexts) (attempt : Attempt) : Run Bytes :=
  attempt.make false (outerAnswer texts)

def exitNodeRun (texts : LibraryTexts) (attempt : Attempt) : Run Bytes :=
  let outer := sendPrebuiltPayloadThroughRelay texts attempt
  { outer with result := relayViaExitNode texts outer.result }

def maskScriptId (id : Text) : Text :=
  if id.length ≤ 8 then lit "***" else id.take 4 ++ lit "..." ++ id.drop (id.length - 4)

structure Dispatch where
  scriptId : Text
  -- The account has used up its quota.
  hardStopped : Bool
  attempt : Attempt

def doRelayOnceWith (texts : LibraryTexts) (config : RelayConfig) (method : Text)
    (dispatch : Dispatch) : Run Bytes :=
  if dispatch.hardStopped then
    { sends := []
      result := .error (.failed (.relay (lit "account " ++ maskScriptId dispatch.scriptId ++
        lit " is quota-hard-stopped; skipping dispatch"))) }
  else doRelayOnceInner texts config method dispatch.attempt

def selectOk : List (Except Stop Bytes) → Except Stop Bytes
  | [] => .error (.failed (.relay (lit "no script_ids available")))
  | [last] => last
  | .ok bytes :: _ => .ok bytes
  | .error .expired :: _ => .error .expired
  | .error .panicked :: _ => .error .panicked
  | .error (.failed _) :: rest => selectOk rest

def doRelayParallel (texts : LibraryTexts) (config : RelayConfig) (method : Text)
    (dispatches : List Dispatch) : Run Bytes :=
  let runs := dispatches.map (doRelayOnceWith texts config method)
  { sends := runs.flatMap Run.sends, result := selectOk (runs.map Run.result) }

structure Weather where
  -- All quotas are used up: at the start, and at the dispatch.
  hardStopped : Bool
  hardStoppedLater : Bool
  exitNode : Attempt
  first : Dispatch
  second : Dispatch
  parallel : List Dispatch
  -- The cached answer, and that of an equal request.
  cached : Option Bytes
  inFlight : Option (Option Bytes)

def quotaMessage : Text :=
  lit "All Apps Script accounts quota exhausted; hard stop active. " ++
    lit "Quota resets on a rolling 24-hour window per account."

def doRelayWithRetry (texts : LibraryTexts) (config : RelayConfig) (method : Text)
    (weather : Weather) : Run Bytes :=
  if weather.hardStoppedLater then
    { sends := [], result := .error (.failed (.relay quotaMessage)) }
  else if 2 ≤ max (min config.parallelRelay config.scriptIds.length) 1 ∧
      isMethodSafeForFanout method then
    doRelayParallel texts config method weather.parallel
  else
    let run := doRelayOnceWith texts config method weather.first
    match run.result with
    | .error (.failed error) =>
      if error.isRetryable then
        let again := doRelayOnceWith texts config method weather.second
        { again with sends := run.sends ++ again.sends }
      else { run with result := .error (.failed error.intoInner) }
    | _ => run

def timeoutMessage : Text :=
  lit "Relay timeout — Apps Script did not respond. " ++
    lit "Most likely cause: daily UrlFetchApp quota exhausted " ++
    lit "(resets 00:00 UTC). Other possibilities: script.google.com " ++
    lit "unreachable from your network, or the Apps Script edge is having issues. " ++
    lit "Check the script's Executions tab at script.google.com for the real error."

def relayUncoalesced (texts : LibraryTexts) (config : RelayConfig) (method : Text)
    (weather : Weather) : Run Bytes :=
  let run := doRelayWithRetry texts config method weather
  { run with result := match run.result with
      | .ok bytes => .ok bytes
      | .error (.failed error) => .ok (errorResponse 502 (lit "Relay error: " ++ error.message))
      | .error .expired => .ok (errorResponse 504 timeoutMessage)
      | .error .panicked => .error .panicked }

def isCacheableMethod (method : Text) : Bool := upper method ∈ [lit "GET", lit "HEAD"]

def coalescible (request : RelayRequest) : Bool :=
  isCacheableMethod request.method && request.body = [] &&
    !request.headers.any fun field => eqIgnoreCase field.1 (lit "range")

def relayDirect (texts : LibraryTexts) (config : RelayConfig) (request : RelayRequest)
    (weather : Weather) : Run Bytes :=
  match coalescible request, weather.cached, weather.inFlight with
  | true, some hit, _ => { sends := [], result := .ok hit }
  | true, none, some (some bytes) => { sends := [], result := .ok bytes }
  | true, none, some none =>
    { sends := [], result := .ok (errorResponse 502 (lit "coalesced request dropped")) }
  | _, _, _ => relayUncoalesced texts config request.method weather

def relayUrl (config : RelayConfig) (request : RelayRequest) : Text :=
  if config.normalizeXGraphql then normalizeXGraphqlUrl request.url else request.url

def relay (texts : LibraryTexts) (config : RelayConfig) (request : RelayRequest)
    (weather : Weather) : Run Bytes :=
  if weather.hardStopped then { sends := [], result := .ok (errorResponse 503 quotaMessage) }
  else
    let url := if config.normalizeXGraphql then normalizeXGraphqlUrl request.url else request.url
    if exitNodeMatches config.exitNode url then
      let run := exitNodeRun texts weather.exitNode
      match run.result with
      | .error (.failed error) =>
        if error.isRetryable ∨ isMethodSafeForFanout request.method then
          let direct := relayDirect texts config request weather
          { direct with sends := run.sends ++ direct.sends }
        else
          let page := errorResponse 502 (lit "Relay error: " ++ error.intoInner.message)
          { run with result := .ok page }
      | _ => run
    else relayDirect texts config request weather

end Gvpn
