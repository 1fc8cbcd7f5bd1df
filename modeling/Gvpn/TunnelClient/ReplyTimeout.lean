import Gvpn.TunnelClient.TunnelLoop

/-! How long a session waits for replies, and how long batches take. -/

namespace Gvpn

def seconds (count : Nat) : Nat := count * 1000000000

def batchTimeout (requestTimeoutSecs : Nat) : Nat := seconds (max 5 (min requestTimeoutSecs 300))

def replyTimeoutSlack : Nat := seconds 5

def replyTimeout : Nat := seconds 20

def muxReplyTimeout (requestTimeoutSecs : Nat) : Nat :=
  batchTimeout requestTimeoutSecs + replyTimeoutSlack

def prefillDelay : Nat := 100000000

inductive Answer where
  | ok (response : TunnelResponse)
  | err
  -- The other end of the channel is dropped.
  | dropped

def Answer.outcome : Answer → ReplyOutcome
  | .ok response => .ok response
  | .err => .batchErr
  | .dropped => .dropped

structure TimedOp where
  queuedAt : Nat
  -- The wait begins when the reply is first polled.
  firstPoll : Option Nat := none
  firedAt : Option Nat := none
  answer : Option Answer := none

def wrapReply (wait now : Nat) (op : TimedOp) : Option ReplyOutcome :=
  match op.answer with
  | some answer => some answer.outcome
  | none =>
    match op.firstPoll with
    | some first => if first + wait ≤ now then some .timeout else none
    | none => none

structure TimedLoop where
  now : Nat
  loop : TunnelLoop
  ops : List TimedOp

inductive TimedEvent where
  | wait (duration : Nat)
  -- A batch is fired, and its round trip ends.
  | fire (seq : Nat)
  | complete (seq : Nat) (answer : Answer)
  -- The loop looks at a reply.
  | poll (id : Nat) (working : Option Nat)
  -- Anything else happens in the loop.
  | loop (taken : Nat) (event : LoopEvent)

def LoopEvent.isReply : LoopEvent → Bool
  | .reply _ _ _ | .grace _ _ => true
  | _ => false

namespace TimedLoop

def start (sid : Text) (pendingClientData : Option Bytes) : TimedLoop :=
  let opened := TunnelLoop.opening sid pendingClientData
  let polls := opened.maxInflight - opened.inflight.length
  { now := (polls - 1) * prefillDelay
    loop := TunnelLoop.start sid pendingClientData
    ops := opened.inflight.map (fun _ => { queuedAt := 0 }) ++
      (List.range polls).map fun i => { queuedAt := i * prefillDelay } }

def follow (state : TimedLoop) (loop : TunnelLoop) : TimedLoop :=
  { state with
    loop
    ops := state.ops ++
      List.replicate (loop.seqs.nextSendSeq - state.ops.length) { queuedAt := state.now } }

def onOp (state : TimedLoop) (seq : Nat) (change : TimedOp → Option TimedOp) : Option TimedLoop :=
  (state.ops[seq]?.bind change).map fun op => { state with ops := state.ops.set seq op }

def step (maxElevated wait : Nat) (state : TimedLoop) : TimedEvent → Option TimedLoop
  | .wait duration => some { state with now := state.now + duration }
  | .fire seq =>
    state.onOp seq fun op =>
      if op.firedAt.isNone then some { op with firedAt := some state.now } else none
  | .complete seq answer =>
    state.onOp seq fun op =>
      if op.firedAt.isSome ∧ op.answer.isNone then some { op with answer := some answer } else none
  | .poll id working =>
    match state.loop.inflight[id]? with
    | none => none
    | some info =>
      match state.ops[info.seq]?.bind (wrapReply wait state.now) with
      | some outcome =>
        let event := if state.loop.eofSeen then .grace id outcome else .reply id outcome working
        (state.loop.move maxElevated (0, event)).map state.follow
      | none =>
        if state.loop.stage = .top then
          state.onOp info.seq fun op =>
            if op.firstPoll.isNone then some { op with firstPoll := some state.now } else none
        else none
  | .loop taken event =>
    if event.isReply then none
    else (state.loop.move maxElevated (taken, event)).map state.follow

end TimedLoop

end Gvpn
