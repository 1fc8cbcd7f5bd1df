import Gvpn.Data.Runs
import Gvpn.Fronter.Cache
import Gvpn.Fronter.Quota
import Gvpn.Fronter.Relay

/-! Concurrent direct attempts, counted against the quotas of accounts. -/

namespace Gvpn

def quotaMarks : List Text :=
  [lit "quota", lit "daily limit", lit "rate limit", lit "too many times", lit "service invoked",
    lit "bandwidth", lit "bandbreitenkontingent", lit "datenübertragungsrate",
    lit "transfer rate", lit "limit exceeded"]

def looksLikeQuotaError (message : Text) : Bool :=
  quotaMarks.any fun mark => contains mark (lower message)

def isQuotaLikeFronterError : FronterError → Bool
  | .relay message => looksLikeQuotaError message
  | .nonRetryable inner => isQuotaLikeFronterError inner
  | _ => false

inductive AttemptStage where
  -- In front of the look at the account's stop.
  | entered
  -- Not stopped, and about to be counted.
  | admitted
  -- Counted, and on its way to the script.
  | dispatched
  -- The failure is counted, and the account to be stopped.
  | blaming (error : FronterError)
  | finished (result : Except Stop Bytes)

structure AttemptCall where
  scriptId : Text
  method : Text
  payloadLength : Nat
  stage : AttemptStage

structure Accounting where
  tracker : QuotaTracker
  calls : List AttemptCall
  -- Every dispatch: its account, and the end of its window.
  dispatches : List (Text × Option Nat)

inductive AccountingEvent where
  | enter (scriptId method : Text) (payloadLength : Nat)
  -- The next step, with the time and what the transports come to.
  | advance (call now : Nat) (attempt : Attempt)
  | roll (now : Nat)

namespace Accounting

def start (tracker : QuotaTracker) : Accounting := ⟨tracker, [], []⟩

def move (state : Accounting) (id : Nat) (call : AttemptCall) (tracker : QuotaTracker)
    (stage : AttemptStage) : Accounting :=
  { state with tracker := tracker, calls := state.calls.set id { call with stage := stage } }

variable (texts : LibraryTexts) (config : RelayConfig)

def check (state : Accounting) (id : Nat) (call : AttemptCall) : Accounting :=
  if state.tracker.isHardStopped call.scriptId then
    state.move id call state.tracker (.finished (.error (.failed (.relay (lit "account " ++
      maskScriptId call.scriptId ++ lit " is quota-hard-stopped; skipping dispatch")))))
  else state.move id call state.tracker .admitted

def dispatch (state : Accounting) (id : Nat) (call : AttemptCall) (now : Nat) : Accounting :=
  let tracker := state.tracker.recordAttempt call.scriptId call.payloadLength now
  let counted := (call.scriptId, (tracker.entry call.scriptId).nextResetAt)
  { state.move id call tracker .dispatched with dispatches := counted :: state.dispatches }

def settle (state : Accounting) (id : Nat) (call : AttemptCall) (attempt : Attempt) :
    Option Accounting :=
  let result := (doRelayOnceInner texts config call.method attempt).result
  match result with
  | .ok bytes =>
    let tracker := state.tracker.recordSuccess call.scriptId bytes.length
    some (state.move id call tracker (.finished result))
  | .error (.failed error) =>
    let isQuota := isQuotaLikeFronterError error
    let tracker := state.tracker.recordFailure call.scriptId isQuota
    some (state.move id call tracker (if isQuota then .blaming error else .finished result))
  -- A call dropped while it waits counts no more.
  | .error .expired => some (state.move id call state.tracker (.finished result))
  -- A panic ends the whole program.
  | .error .panicked => none

def blame (state : Accounting) (id : Nat) (call : AttemptCall) (error : FronterError) :
    Accounting :=
  state.move id call (state.tracker.markExhausted call.scriptId error.message)
    (.finished (.error (.failed error)))

def step (state : Accounting) : AccountingEvent → Option Accounting
  | .enter scriptId method payloadLength =>
    some { state with calls := state.calls ++ [⟨scriptId, method, payloadLength, .entered⟩] }
  | .advance id now attempt =>
    match state.calls[id]? with
    | some call =>
      match call.stage with
      | .entered => some (state.check id call)
      | .admitted => some (state.dispatch id call now)
      | .dispatched => state.settle texts config id call attempt
      | .blaming error => some (state.blame id call error)
      | .finished _ => none
    | none => none
  | .roll now => some { state with tracker := state.tracker.rollExpiredWindows now }

end Accounting

end Gvpn
