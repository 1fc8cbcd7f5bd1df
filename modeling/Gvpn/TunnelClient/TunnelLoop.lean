import Gvpn.Data.Utf8
import Gvpn.TunnelClient.Loop

/-! The loop of a session: replies, uploads, polls, and its depth. -/

namespace Gvpn

def inflightIdle : Nat := 1

def inflightOptimist : Nat := 2

def inflightActive : Nat := 6

def maxElevatedTotal : Nat := 10

def saturatingSucc (n : Nat) : Nat := min (n + 1) (2 ^ 32 - 1)

structure InflightMeta where
  seq : Nat
  wasEmptyPoll : Bool
  deriving DecidableEq

structure HeldReply where
  response : TunnelResponse
  wasEmptyPoll : Bool

inductive ReplyOutcome where
  | ok (response : TunnelResponse)
  | batchErr
  | timeout
  | dropped

inductive LoopStage where
  -- At the top of the main loop.
  | top
  -- About to look at how many permits are taken.
  | loading
  -- About to take a permit, which was free when it looked.
  | adding
  -- Out of the loop, about to give its permit back.
  | leaving
  | ended
  -- Returned in the middle of the loop: the client could not be written to.
  | returned
  deriving DecidableEq

structure TunnelLoop where
  sid : Text
  maxInflight : Nat := min inflightOptimist inflightActive
  consecutiveEmpty : Nat := 0
  idleTier : Nat := 0
  consecutiveData : Nat := 0
  isElevated : Bool := false
  totalDownloadBytes : Nat := 0
  seqs : SendSeqs := {}
  nextWriteSeq : Nat := 0
  eofSeen : Bool := false
  clientClosed : Bool := false
  pendingWrites : SeqMap HeldReply := SeqMap.empty
  -- Upload data that waits for room in the pipeline.
  bufferedUpload : Option Bytes := none
  inflight : List InflightMeta := []
  -- The timer of another poll, and how often it ran out.
  refillArmed : Bool := false
  refillSteps : Nat := 0
  stage : LoopStage := .top
  -- Everything handed to the mux so far.
  sent : List (MuxMsg Nat) := []

inductive ClientRead where
  | data (bytes : Bytes)
  -- The end, or an error.
  | closed

inductive LoopEvent where
  -- Nothing is in flight, and one side is done.
  | finish
  -- A reply in the grace period behind the end of the stream, or its end.
  | grace (id : Nat) (outcome : ReplyOutcome)
  | graceOver
  -- Nothing in flight: the client is read from, or silent until a poll.
  | idle (allLegacy : Bool) (read : Option ClientRead)
  | refill
  -- A reply comes, and all the writes it leads to go through or only so many.
  | reply (id : Nat) (outcome : ReplyOutcome) (working : Option Nat)
  | read (read : ClientRead)
  | load
  | add
  | leave

inductive Permit where
  | keep
  | acquire
  | release

def Permit.apply : Permit → Nat → Nat
  | .keep, taken => taken
  | .acquire, taken => taken + 1
  | .release, 0 => 2 ^ 64 - 1
  | .release, taken + 1 => taken

namespace TunnelLoop

def pushPoll (loop : TunnelLoop) : TunnelLoop :=
  let (msg, seqs) := sendEmptyPoll loop.sid loop.seqs
  { loop with
    seqs
    sent := loop.sent ++ [msg]
    inflight := loop.inflight ++ [{ seq := loop.seqs.nextSendSeq, wasEmptyPoll := true }] }

def pushData (loop : TunnelLoop) (data : Bytes) : TunnelLoop :=
  let (msg, seqs) := sendDataOp loop.sid data loop.seqs
  { loop with
    seqs
    sent := loop.sent ++ [msg]
    inflight := loop.inflight ++ [{ seq := loop.seqs.nextSendSeq, wasEmptyPoll := false }] }

def pushPolls : Nat → TunnelLoop → TunnelLoop
  | 0, loop => loop
  | count + 1, loop => pushPolls count loop.pushPoll

def opening (sid : Text) (pendingClientData : Option Bytes) : TunnelLoop :=
  match pendingClientData with
  | some (byte :: bytes) => ({ sid } : TunnelLoop).pushData (byte :: bytes)
  | _ => { sid }

def start (sid : Text) (pendingClientData : Option Bytes) : TunnelLoop :=
  let loop := opening sid pendingClientData
  let loop := pushPolls (loop.maxInflight - loop.inflight.length) loop
  if loop.inflight.length < loop.maxInflight then
    { loop with refillArmed := true, refillSteps := 0 }
  else loop

def countData (loop : TunnelLoop) (response : TunnelResponse) : TunnelLoop :=
  let bytes := (response.d.map fun d => (toUtf8 d).length * 3 / 4).getD 0
  { loop with
    -- A small reply does not wake the session up.
    consecutiveEmpty := if 1024 ≤ bytes then 0 else loop.consecutiveEmpty
    idleTier := if 1024 ≤ bytes then loop.idleTier / 2 else loop.idleTier - 1
    consecutiveData := saturatingSucc loop.consecutiveData
    totalDownloadBytes := loop.totalDownloadBytes + bytes }

def countEmpty (loop : TunnelLoop) (wasEmptyPoll : Bool) : TunnelLoop :=
  -- An older poll does not end the streak.
  if wasEmptyPoll ∧ 0 < loop.consecutiveData then loop
  else
    { loop with
      consecutiveEmpty := saturatingSucc loop.consecutiveEmpty
      idleTier := saturatingSucc loop.idleTier
      consecutiveData := 0 }

def passReply (loop : TunnelLoop) (response : TunnelResponse) : TunnelLoop :=
  { loop with
    nextWriteSeq := loop.nextWriteSeq + 1
    eofSeen := loop.eofSeen || response.isEof }

def popHeld (loop : TunnelLoop) : TunnelLoop :=
  { loop with pendingWrites := loop.pendingWrites.dropFirst 1 }

def flush : Nat → Option Nat → TunnelLoop → TunnelLoop
  | 0, _, loop => loop
  | rounds + 1, working, loop =>
    match loop.pendingWrites.entries with
    | [] => loop
    | (key, held) :: _ =>
      if key ≠ loop.nextWriteSeq then loop
      else
        match writeTunnelResponse held.response with
        -- Only this loop is left; the reply's number is not passed.
        | .badBase64 => loop.popHeld
        | .noData =>
          flush rounds working ((loop.popHeld.countEmpty held.wasEmptyPoll).passReply held.response)
        | .wrote _ =>
          match working with
          | some 0 => { loop.popHeld with stage := .returned }
          | _ =>
            flush rounds (working.map (· - 1))
              ((loop.popHeld.countData held.response).passReply held.response)

def deliver (loop : TunnelLoop) (info : InflightMeta) (response : TunnelResponse)
    (working : Option Nat) : TunnelLoop :=
  if info.seq = loop.nextWriteSeq then
    match writeTunnelResponse response with
    | .badBase64 => { loop with stage := .leaving }
    | .noData =>
      ((loop.countEmpty info.wasEmptyPoll).passReply response).flush
        loop.pendingWrites.entries.length working
    | .wrote _ =>
      match working with
      | some 0 => { loop with stage := .returned }
      | _ =>
        ((loop.countData response).passReply response).flush loop.pendingWrites.entries.length
          (working.map (· - 1))
  else
    { loop with
      pendingWrites :=
        loop.pendingWrites.insert info.seq { response, wasEmptyPoll := info.wasEmptyPoll } }

def sendBuffered (loop : TunnelLoop) : TunnelLoop :=
  match loop.bufferedUpload with
  | none => loop
  | some data =>
    if loop.inflight.length < loop.maxInflight then
      { ({ loop with bufferedUpload := none } : TunnelLoop).pushData data with
        consecutiveEmpty := 0 }
    else loop

def scheduleRefill (loop : TunnelLoop) : TunnelLoop :=
  if !loop.eofSeen ∧ loop.inflight.length < loop.maxInflight ∧ !loop.refillArmed ∧
      ¬ (loop.maxInflight ≤ inflightIdle ∧ 2 ≤ loop.consecutiveEmpty) then
    { loop with refillArmed := true, refillSteps := 0 }
  else loop

def manageDepth (loop : TunnelLoop) : TunnelLoop × Permit :=
  if 2 ≤ loop.consecutiveEmpty ∧ inflightIdle < loop.maxInflight then
    let lowered := { loop with maxInflight := min inflightIdle inflightActive, isElevated := false }
    (lowered.scheduleRefill, if loop.isElevated then .release else .keep)
  else if 1 ≤ loop.consecutiveData ∧ loop.maxInflight < inflightOptimist then
    let raised := { loop with maxInflight := min inflightOptimist inflightActive }
    (raised.scheduleRefill, .keep)
  else if 2 ≤ loop.consecutiveData ∧ inflightOptimist ≤ loop.maxInflight ∧
      loop.maxInflight < inflightActive ∧ 32 * 1024 ≤ loop.totalDownloadBytes then
    if loop.isElevated then
      let raised := { loop with maxInflight := min (loop.maxInflight + 1) inflightActive }
      (raised.scheduleRefill, .keep)
    else ({ loop with stage := .loading }, .keep)
  else (loop.scheduleRefill, .keep)

def onOk (loop : TunnelLoop) (info : InflightMeta) (response : TunnelResponse)
    (working : Option Nat) : TunnelLoop × Permit :=
  -- Without numbered replies there is no pipeline.
  let loop := if response.seq.isNone then { loop with maxInflight := 1 } else loop
  if response.e.isSome then ({ loop with stage := .leaving }, .keep)
  else
    let loop := loop.deliver info response working
    if loop.stage ≠ .top then (loop, .keep)
    else if response.seq.isSome then loop.sendBuffered.manageDepth
    else (loop.sendBuffered.scheduleRefill, .keep)

def onReply (loop : TunnelLoop) (info : InflightMeta) (outcome : ReplyOutcome)
    (working : Option Nat) : TunnelLoop × Permit :=
  match outcome with
  | .ok response => loop.onOk info response working
  | .timeout =>
    -- Given up, without its number being passed.
    ({ loop with
      consecutiveEmpty := saturatingSucc loop.consecutiveEmpty
      idleTier := saturatingSucc loop.idleTier }, .keep)
  | .batchErr | .dropped => ({ loop with stage := .leaving }, .keep)

def onGrace (loop : TunnelLoop) (info : InflightMeta) : ReplyOutcome → TunnelLoop
  | .ok response =>
    if info.seq = loop.nextWriteSeq then
      let (_, next, pending) := loop.pendingWrites.popRun (loop.nextWriteSeq + 1)
      { loop with nextWriteSeq := next, pendingWrites := pending }
    else
      { loop with
        pendingWrites :=
          loop.pendingWrites.insert info.seq { response, wasEmptyPoll := info.wasEmptyPoll } }
  | _ => { loop with stage := .leaving }

def onIdleRead (loop : TunnelLoop) : ClientRead → TunnelLoop
  | .data bytes => { loop with consecutiveEmpty := 0, idleTier := 0 }.pushData bytes
  | .closed => { loop with stage := .leaving }

def onIdle (loop : TunnelLoop) (allLegacy : Bool) (read : Option ClientRead) :
    Option TunnelLoop :=
  if allLegacy ∧ (1 < loop.idleTier ∨ 3 < loop.consecutiveEmpty) ∧ !loop.clientClosed then
    -- Only the client can wake the session up.
    read.map loop.onIdleRead
  else
    match read with
    | none => some loop.pushPoll
    | some read =>
      if 0 < loop.idleTier ∧ !loop.clientClosed then some (loop.onIdleRead read) else none

def onRefill (loop : TunnelLoop) : TunnelLoop :=
  let loop := { loop with refillArmed := false }
  if !loop.eofSeen ∧ loop.inflight.length < loop.maxInflight then
    if 10 ≤ loop.refillSteps + 1 then
      let sending : TunnelLoop :=
        match loop.bufferedUpload with
        | some data => ({ loop with bufferedUpload := none } : TunnelLoop).pushData data
        | none => loop.pushPoll
      { sending with
        refillSteps := 0
        refillArmed := sending.inflight.length < sending.maxInflight ∧
          inflightIdle < sending.maxInflight }
    else { loop with refillSteps := loop.refillSteps + 1, refillArmed := true }
  else loop

def onRead (loop : TunnelLoop) : ClientRead → TunnelLoop
  | .closed => { loop with clientClosed := true }
  | .data bytes =>
    -- Uploads may use two places more than polls.
    if loop.inflight.length < loop.maxInflight + 2 then
      { loop.pushData bytes with consecutiveEmpty := 0 }
    else
      { loop with
        bufferedUpload :=
          match loop.bufferedUpload with
          | some held => some (held ++ bytes)
          | none => some bytes }

def canRead (loop : TunnelLoop) : Bool :=
  !loop.clientClosed && !loop.eofSeen && loop.inflight.length < loop.maxInflight + 2

def takeInflight (loop : TunnelLoop) (id : Nat) : Option (InflightMeta × TunnelLoop) :=
  loop.inflight[id]?.map fun info => (info, { loop with inflight := loop.inflight.eraseIdx id })

def stepTop (loop : TunnelLoop) (event : LoopEvent) : Option (TunnelLoop × Permit) :=
  if loop.inflight.isEmpty ∧ (loop.eofSeen ∨ loop.clientClosed) then
    match event with
    | .finish => some ({ loop with stage := .leaving }, .keep)
    | _ => none
  else if loop.eofSeen then
    match event with
    | .grace id outcome =>
      (loop.takeInflight id).map fun (info, loop) => (loop.onGrace info outcome, .keep)
    | .graceOver => some ({ loop with stage := .leaving }, .keep)
    | _ => none
  else if loop.inflight.isEmpty then
    match event with
    | .idle allLegacy read => (loop.onIdle allLegacy read).map (·, .keep)
    | _ => none
  else
    match event with
    | .refill => if loop.refillArmed then some (loop.onRefill, .keep) else none
    | .reply id outcome working =>
      match loop.takeInflight id with
      | none => none
      | some (info, loop) =>
        let after := loop.onReply info outcome working
        -- A write that fails is one that is made.
        if working.isSome ∧ after.1.stage ≠ .returned then none else some after
    | .read read => if loop.canRead then some (loop.onRead read, .keep) else none
    | _ => none

def step (maxElevated taken : Nat) (loop : TunnelLoop) (event : LoopEvent) :
    Option (TunnelLoop × Permit) :=
  match loop.stage, event with
  | .top, event => loop.stepTop event
  | .loading, .load =>
    if taken < maxElevated then some ({ loop with stage := .adding }, .keep)
    else some ({ loop with stage := .top }.scheduleRefill, .keep)
  | .adding, .add =>
    let raised :=
      { loop with
        isElevated := true
        maxInflight := min (loop.maxInflight + 1) inflightActive
        stage := .top }
    some (raised.scheduleRefill, .acquire)
  | .leaving, .leave =>
    some ({ loop with stage := .ended }, if loop.isElevated then .release else .keep)
  | _, _ => none

def move (maxElevated : Nat) (loop : TunnelLoop) (event : Nat × LoopEvent) : Option TunnelLoop :=
  (loop.step maxElevated event.1 event.2).map Prod.fst

end TunnelLoop

end Gvpn
