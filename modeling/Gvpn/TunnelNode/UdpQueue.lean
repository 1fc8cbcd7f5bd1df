import Gvpn.Data.DropOldest
import Gvpn.Data.Handed
import Gvpn.Data.Runs
import Gvpn.TunnelNode.Session

/-! The receive queue of one UDP session: its reader and its drains. -/

namespace Gvpn

def udpQueueLimit : Nat := 256

inductive UdpOutcome where
  | datagram (bytes : Bytes)
  | failed

inductive UdpReaderStage where
  | receiving
  -- A datagram has come, and the lock is waited for.
  | holding (datagram : Bytes)
  -- The datagram is queued, and its count to be stored.
  | queued
  -- The count is stored, and the activity is to be noted.
  | counted
  -- The socket failed, and the end is to be marked.
  | failing
  | ended
  -- Stopped from outside.
  | aborted
  deriving DecidableEq

inductive UdpDrainStage where
  | started
  -- The queue is emptied, and its count is to be stored.
  | emptied (packets : List Bytes)
  -- The count is stored, and the end flag is to be loaded.
  | counted (packets : List Bytes)
  | finished (packets : List Bytes) (eof : Bool)
  deriving DecidableEq

inductive QueueHolder where
  | reader
  | drain (id : Nat)
  deriving DecidableEq

inductive QueueEntry where
  | received (datagram : Bytes)
  | drained (id : Nat)
  deriving DecidableEq

structure UdpQueue where
  packets : List Bytes := []
  pktCount : Nat := 0
  queueDrops : Nat := 0
  eof : Bool := false
  locked : Option QueueHolder := none
  reader : UdpReaderStage := .receiving
  drains : List UdpDrainStage := []
  -- All that was done under the lock, in order.
  history : List QueueEntry := []

inductive UdpQueueEvent where
  -- The reader's next step, with what it receives.
  | reader (outcome : UdpOutcome)
  | call
  -- A drain takes its next step.
  | drain (id : Nat)
  -- The reader is stopped where it waits.
  | abort

namespace UdpQueue

def enqueue (state : UdpQueue) (datagram : Bytes) : UdpQueue :=
  { state with
    packets := pushDropOldest udpQueueLimit state.packets datagram
    queueDrops := state.queueDrops + if udpQueueLimit ≤ state.packets.length then 1 else 0
    history := state.history ++ [.received datagram] }

def readerStep (state : UdpQueue) (outcome : UdpOutcome) : Option UdpQueue :=
  match state.reader with
  | .receiving =>
    match outcome with
    -- An empty datagram is passed over.
    | .datagram [] => some state
    | .datagram datagram => some { state with reader := .holding datagram }
    | .failed => some { state with reader := .failing }
  | .holding datagram =>
    if state.locked.isSome then none
    else some { state.enqueue datagram with locked := some .reader, reader := .queued }
  | .queued => some { state with pktCount := state.packets.length, reader := .counted }
  | .counted => some { state with locked := none, reader := .receiving }
  | .failing => some { state with eof := true, reader := .ended }
  | .ended | .aborted => none

def advance (state : UdpQueue) (id : Nat) (stage : UdpDrainStage) : UdpQueue :=
  { state with drains := state.drains.set id stage }

def drainStep (state : UdpQueue) (id : Nat) : UdpDrainStage → Option UdpQueue
  | .started =>
    if state.locked.isSome then none
    else
      some { state.advance id (.emptied state.packets) with
        packets := []
        locked := some (.drain id)
        history := state.history ++ [.drained id] }
  | .emptied packets => some { state.advance id (.counted packets) with pktCount := 0 }
  | .counted packets =>
    -- The end flag is loaded under the lock.
    some { state.advance id (.finished packets state.eof) with locked := none }
  | .finished _ _ => none

def abort (state : UdpQueue) : Option UdpQueue :=
  match state.reader with
  | .receiving | .holding _ => some { state with reader := .aborted }
  -- The lock is released with the task.
  | .counted => some { state with locked := none, reader := .aborted }
  | .queued | .failing | .ended | .aborted => none

def step (state : UdpQueue) : UdpQueueEvent → Option UdpQueue
  | .reader outcome => state.readerStep outcome
  | .call => some { state with drains := state.drains ++ [.started] }
  | .drain id =>
    match state.drains[id]? with
    | some stage => state.drainStep id stage
    | none => none
  | .abort => state.abort

end UdpQueue

end Gvpn
