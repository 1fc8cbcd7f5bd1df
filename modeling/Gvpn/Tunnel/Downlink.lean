import Gvpn.Data.Runs
import Gvpn.TunnelClient.Loop
import Gvpn.TunnelNode.Session

/-! One session end to end: the client's loop, the node's buffer, and what is in flight. -/

namespace Gvpn

inductive OpStage where
  | unsent
  -- Sent, and being drained by the batch that carries it.
  | draining
  -- Drained, with the reply on its way back.
  | answered
  | delivered
  deriving DecidableEq

structure Downlink where
  client : LoopState := {}
  inner : SessionInner := {}
  -- All the reader task has read so far.
  received : Bytes := []
  stage : Nat → OpStage := fun _ => .unsent
  -- What each operation's drains gathered so far.
  allData : Nat → Bytes := fun _ => []
  finalEof : Nat → Bool := fun _ => false

inductive DownlinkEvent where
  -- The loop sends its next operation.
  | send (data : Option Bytes)
  -- The reader task appends what it read, or marks the end.
  | readerAppend (chunk : Bytes)
  | readerEof
  -- A batch drains once, with the end flag it loaded and the budget left.
  | drain (seq : Nat) (rawEof : Bool) (maxBytes : Nat)
  -- The batch answers the operation.
  | answer (seq : Nat)
  -- The reply comes back to the loop.
  | deliver (seq : Nat)
  -- The loop breaks out, for whatever reason.
  | stop

namespace Downlink

def reply (sid : Text) (world : Downlink) (seq : Nat) : TunnelResponse :=
  tcpDrainResponse sid (world.allData seq) (world.finalEof seq) (some seq)

def setStage (world : Downlink) (seq : Nat) (stage : OpStage) : Downlink :=
  { world with stage := Function.update world.stage seq stage }

def sent (sid : Text) (seqs : SendSeqs) (data : Option Bytes) : SendSeqs :=
  match data with
  | none => (sendEmptyPoll sid seqs).2
  | some data => (sendDataOp sid data seqs).2

def step (sid : Text) (world : Downlink) : DownlinkEvent → Option Downlink
  | .send data =>
    if world.client.running then
      let client := { world.client with seqs := sent sid world.client.seqs data }
      some { world.setStage world.client.seqs.nextSendSeq .draining with client := client }
    else none
  | .readerAppend chunk =>
    if world.inner.eof then none
    else some { world with
      inner := world.inner.readerAppend chunk, received := world.received ++ chunk }
  | .readerEof => some { world with inner := world.inner.readerEof }
  | .drain seq rawEof maxBytes =>
    -- Loaded before the lock: the flag may be older than the buffer, never newer.
    if world.stage seq = .draining ∧ (rawEof = true → world.inner.eof = true) then
      let (data, eof, rest) := drainNow rawEof world.inner.readBuf maxBytes
      some { world with
        inner := { world.inner with readBuf := rest }
        allData := Function.update world.allData seq (world.allData seq ++ data)
        finalEof := Function.update world.finalEof seq (world.finalEof seq || eof) }
    else none
  | .answer seq => if world.stage seq = .draining then some (world.setStage seq .answered) else none
  | .deliver seq =>
    if world.stage seq = .answered ∧ world.client.running = true then
      some { world.setStage seq .delivered with
        client := world.client.recv seq (world.reply sid seq) }
    else none
  | .stop => some { world with client := { world.client with running := false } }

/-- A drain that takes bytes comes before those of larger numbers. -/
def drainsInOrder (world : Downlink) : DownlinkEvent → Prop
  | .drain seq _ maxBytes =>
    world.inner.readBuf ≠ [] → 0 < maxBytes → ∀ later, seq < later → world.allData later = []
  | _ => True

end Downlink

end Gvpn
