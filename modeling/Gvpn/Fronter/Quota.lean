import Gvpn.Data.Table
import Gvpn.Data.Text

/-! The quota of every account: what is used, and whether it is stopped. -/

namespace Gvpn

def windowSeconds : Nat := 86400

structure AccountBucket where
  maskedId : Text := []
  -- What was counted in the current window.
  requestsUsed : Nat := 0
  failedRequests : Nat := 0
  bytesUp : Nat := 0
  bytesDown : Nat := 0
  bytesTotal : Nat := 0
  lastRequestAt : Option Nat := none
  -- When the current window ends.
  nextResetAt : Option Nat := none
  exhausted : Bool := false
  hardStopped : Bool := false
  exhaustionReason : Option Text := none
  quotaErrorCount : Nat := 0
  deriving DecidableEq

def usageText (used dailyLimit safetyBuffer : Nat) : Text :=
  decimal used ++ lit "/" ++ decimal dailyLimit ++ lit " requests used (limit " ++
    decimal dailyLimit ++ lit ", buffer " ++ decimal safetyBuffer ++ lit ")"

namespace AccountBucket

def restart (bucket : AccountBucket) (now : Nat) : AccountBucket :=
  { bucket with
    requestsUsed := 0
    failedRequests := 0
    bytesUp := 0
    bytesDown := 0
    bytesTotal := 0
    nextResetAt := some (now + windowSeconds)
    exhausted := false
    hardStopped := false
    exhaustionReason := none
    quotaErrorCount := 0 }

def openWindow (bucket : AccountBucket) (now : Nat) : AccountBucket :=
  match bucket.nextResetAt with
  | some resetAt => if resetAt ≤ now then bucket.restart now else bucket
  | none => { bucket with nextResetAt := some (now + windowSeconds) }

def rollExpired (bucket : AccountBucket) (now : Nat) : AccountBucket :=
  match bucket.nextResetAt with
  | some resetAt => if resetAt ≤ now then bucket.restart now else bucket
  | none => bucket

def stop (bucket : AccountBucket) (reason : Text) : AccountBucket :=
  { bucket with exhausted := true, hardStopped := true, exhaustionReason := some reason }

def charge (bucket : AccountBucket) (dailyLimit safetyBuffer bytesUp now : Nat) : AccountBucket :=
  let nextUsed := bucket.requestsUsed + 1
  let remaining := dailyLimit - nextUsed
  let checked :=
    if !bucket.hardStopped && decide (remaining < safetyBuffer) then
      bucket.stop (lit "safety buffer crossed: " ++ usageText nextUsed dailyLimit safetyBuffer)
    else bucket
  { checked with
    requestsUsed := nextUsed
    bytesUp := checked.bytesUp + bytesUp
    bytesTotal := checked.bytesTotal + bytesUp
    lastRequestAt := some now }

def checkSafetyBuffer (bucket : AccountBucket) (dailyLimit safetyBuffer : Nat) : AccountBucket :=
  if bucket.hardStopped then bucket
  else if dailyLimit - bucket.requestsUsed < safetyBuffer then
    bucket.stop (lit "safety buffer crossed on load: " ++
      usageText bucket.requestsUsed dailyLimit safetyBuffer)
  else bucket

end AccountBucket

structure QuotaState where
  buckets : Table Text AccountBucket := ∅
  totalRelayCalls : Nat := 0
  relayTodayDay : Nat := 0

structure QuotaTracker where
  state : QuotaState
  scriptIds : List Text
  dailyLimit : Nat
  safetyBuffer : Nat

def maskId (id : Text) : Text :=
  if id.length ≤ 8 then lit "***" else id.take 4 ++ lit "..." ++ id.drop (id.length - 4)

def newBucket (scriptId : Text) : AccountBucket := { maskedId := maskId scriptId }

def ensureBuckets (scriptIds : List Text) (buckets : Table Text AccountBucket) :
    Table Text AccountBucket :=
  scriptIds.foldl (fun buckets scriptId =>
    match AList.lookup scriptId buckets with
    | some _ => buckets
    | none => AList.insert scriptId (newBucket scriptId) buckets) buckets

def checkAllSafetyBuffers (state : QuotaState) (dailyLimit safetyBuffer : Nat) : QuotaState :=
  { state with
    buckets := Table.mapValues
      (fun bucket => bucket.checkSafetyBuffer dailyLimit safetyBuffer) state.buckets }

namespace QuotaTracker

def load (scriptIds : List Text) (dailyLimit safetyBuffer : Nat) (saved : Option QuotaState) :
    QuotaTracker :=
  let state := saved.getD {}
  let complete := { state with buckets := ensureBuckets scriptIds state.buckets }
  ⟨checkAllSafetyBuffers complete dailyLimit safetyBuffer, scriptIds, dailyLimit, safetyBuffer⟩

def entry (tracker : QuotaTracker) (scriptId : Text) : AccountBucket :=
  (AList.lookup scriptId tracker.state.buckets).getD (newBucket scriptId)

def put (tracker : QuotaTracker) (scriptId : Text) (bucket : AccountBucket) : QuotaTracker :=
  { tracker with state :=
      { tracker.state with buckets := AList.insert scriptId bucket tracker.state.buckets } }

def modify (tracker : QuotaTracker) (scriptId : Text) (change : AccountBucket → AccountBucket) :
    QuotaTracker :=
  match AList.lookup scriptId tracker.state.buckets with
  | some bucket => tracker.put scriptId (change bucket)
  | none => tracker

def recordAttempt (tracker : QuotaTracker) (scriptId : Text) (bytesUp now : Nat) : QuotaTracker :=
  tracker.put scriptId (((tracker.entry scriptId).openWindow now).charge tracker.dailyLimit
    tracker.safetyBuffer bytesUp now)

def recordSuccess (tracker : QuotaTracker) (scriptId : Text) (bytesDown : Nat) : QuotaTracker :=
  tracker.modify scriptId fun bucket =>
    { bucket with
      bytesDown := bucket.bytesDown + bytesDown
      bytesTotal := bucket.bytesTotal + bytesDown }

def recordFailure (tracker : QuotaTracker) (scriptId : Text) (isQuotaError : Bool) :
    QuotaTracker :=
  tracker.modify scriptId fun bucket =>
    { bucket with
      failedRequests := bucket.failedRequests + 1
      quotaErrorCount :=
        if isQuotaError then bucket.quotaErrorCount + 1 else bucket.quotaErrorCount }

def markExhausted (tracker : QuotaTracker) (scriptId reason : Text) : QuotaTracker :=
  tracker.put scriptId ((tracker.entry scriptId).stop reason)

def isHardStopped (tracker : QuotaTracker) (scriptId : Text) : Bool :=
  ((AList.lookup scriptId tracker.state.buckets).map (·.hardStopped)).getD false

def isGloballyHardStopped (tracker : QuotaTracker) : Bool :=
  if tracker.scriptIds.isEmpty then false
  else if tracker.scriptIds.all tracker.isHardStopped then true
  else
    let buckets := tracker.scriptIds.filterMap fun scriptId =>
      AList.lookup scriptId tracker.state.buckets
    -- The sum is only looked at once the script says a quota is spent.
    if (buckets.map (·.quotaErrorCount)).sum = 0 then false
    else
      let totalRemaining := tracker.dailyLimit * tracker.scriptIds.length -
        (buckets.map (·.requestsUsed)).sum
      decide (totalRemaining < tracker.safetyBuffer * tracker.scriptIds.length)

def rollExpiredWindows (tracker : QuotaTracker) (now : Nat) : QuotaTracker :=
  { tracker with state :=
      { tracker.state with
        buckets := Table.mapValues (fun bucket => bucket.rollExpired now) tracker.state.buckets } }

def recordRelay (tracker : QuotaTracker) (now : Nat) : QuotaTracker :=
  let today := now / windowSeconds
  let state :=
    if tracker.state.relayTodayDay ≠ today then
      { tracker.state with relayTodayDay := today, totalRelayCalls := 0 }
    else tracker.state
  { tracker with state := { state with totalRelayCalls := state.totalRelayCalls + 1 } }

variable (tracker : QuotaTracker) (scriptId : Text)

theorem isHardStopped_eq :
    tracker.isHardStopped scriptId = (tracker.entry scriptId).hardStopped := by
  unfold isHardStopped entry
  cases AList.lookup scriptId tracker.state.buckets with
  | none => rfl
  | some bucket => rfl

@[simp]
theorem entry_put_self (bucket : AccountBucket) :
    (tracker.put scriptId bucket).entry scriptId = bucket := by
  simp [entry, put]

@[simp]
theorem entry_put_other {scriptId other : Text} (bucket : AccountBucket)
    (different : other ≠ scriptId) :
    (tracker.put scriptId bucket).entry other = tracker.entry other := by
  simp [entry, put, AList.lookup_insert_ne different]

theorem entry_modify_self (change : AccountBucket → AccountBucket) :
    (tracker.modify scriptId change).entry scriptId = change (tracker.entry scriptId) ∨
      (tracker.modify scriptId change).entry scriptId = tracker.entry scriptId := by
  unfold modify
  cases found : AList.lookup scriptId tracker.state.buckets with
  | none => exact .inr rfl
  | some bucket =>
    have there : tracker.entry scriptId = bucket := by simp [entry, found]
    rw [there]
    exact .inl (tracker.entry_put_self scriptId (change bucket))

@[simp]
theorem entry_modify_other {scriptId other : Text} (change : AccountBucket → AccountBucket)
    (different : other ≠ scriptId) :
    (tracker.modify scriptId change).entry other = tracker.entry other := by
  unfold modify
  cases AList.lookup scriptId tracker.state.buckets with
  | none => rfl
  | some bucket => simp [different]

@[simp]
theorem entry_rollExpiredWindows (now : Nat) :
    (tracker.rollExpiredWindows now).entry scriptId =
      (tracker.entry scriptId).rollExpired now := by
  unfold entry rollExpiredWindows
  simp only [Table.lookup_mapValues]
  cases AList.lookup scriptId tracker.state.buckets with
  | none => rfl
  | some bucket => rfl

end QuotaTracker

end Gvpn
