import Gvpn.Data.Reorder
import Gvpn.TunnelNode.Protocol

/-! The node's sessions, and what one operation does to them. -/

namespace Gvpn

def tcpDrainMaxBytes : Nat := 16 * 1024 * 1024

def batchResponseBudget : Nat := 32 * 1024 * 1024

structure SessionInner where
  -- Everything handed to the upstream writer so far.
  written : Bytes := []
  readBuf : Bytes := []
  eof : Bool := false
  -- The next number, learned from the first write to arrive.
  nextWriteSeq : Option Nat := none
  pendingWrites : SeqMap Bytes := SeqMap.empty

structure UdpSessionInner where
  -- Every datagram handed to the upstream socket so far.
  sent : List Bytes := []
  packets : List Bytes := []
  eof : Bool := false

structure AppState where
  sessions : Text → Option SessionInner
  udpSessions : Text → Option UdpSessionInner

namespace SessionInner

/-- Write one numbered payload, hold it until its turn, or skip it as a duplicate. -/
def writeSeq (inner : SessionInner) (wseq : Nat) (bytes : Bytes) : SessionInner :=
  -- The first write decides what number is expected.
  let expected := inner.nextWriteSeq.getD wseq
  if wseq < expected then { inner with nextWriteSeq := some expected }
  else if wseq = expected then
    -- In order: write, then flush what waited behind it.
    let (run, next, pending) := inner.pendingWrites.popRun (expected + 1)
    { inner with
      written := inner.written ++ bytes ++ run.flatten
      nextWriteSeq := some next
      pendingWrites := pending }
  else
    { inner with
      nextWriteSeq := some expected
      pendingWrites := inner.pendingWrites.insert wseq bytes }

def write (inner : SessionInner) (wseq : Option Nat) (bytes : Bytes) : SessionInner :=
  match wseq with
  | none => { inner with written := inner.written ++ bytes }
  | some wseq => inner.writeSeq wseq bytes

def readerAppend (inner : SessionInner) (chunk : Bytes) : SessionInner :=
  { inner with readBuf := inner.readBuf ++ chunk }

def readerEof (inner : SessionInner) : SessionInner := { inner with eof := true }

end SessionInner

/--
Take up to a budget from the read buffer, with the end flag loaded before the lock; answer with what
was drained, whether the stream ended, and what stays.
-/
def drainNow (rawEof : Bool) (readBuf : Bytes) (maxBytes : Nat) : Bytes × Bool × Bytes :=
  let cap := min maxBytes tcpDrainMaxBytes
  if readBuf.length ≤ cap then (readBuf, rawEof, [])
  -- A partial drain leaves the tail for the next poll.
  else (readBuf.take cap, false, readBuf.drop cap)

def drainUdpNow (inner : UdpSessionInner) : (List Bytes × Bool) × UdpSessionInner :=
  ((inner.packets, inner.eof), { inner with packets := [] })

namespace AppState

def setSession (state : AppState) (sid : Text) (inner : Option SessionInner) : AppState :=
  { state with sessions := fun name => if name = sid then inner else state.sessions name }

def setUdpSession (state : AppState) (sid : Text) (inner : Option UdpSessionInner) : AppState :=
  { state with udpSessions := fun name => if name = sid then inner else state.udpSessions name }

variable (state : AppState)

@[simp] theorem setSession_same (sid : Text) (inner : Option SessionInner) :
    (state.setSession sid inner).sessions sid = inner := by simp [setSession]

theorem setSession_other {sid name : Text} (inner : Option SessionInner) (differs : name ≠ sid) :
    (state.setSession sid inner).sessions name = state.sessions name := by
  simp [setSession, differs]

@[simp] theorem setUdpSession_sessions (sid : Text) (inner : Option UdpSessionInner) :
    (state.setUdpSession sid inner).sessions = state.sessions :=
  rfl

end AppState

def handleClose (state : AppState) (sid : Option Text) : TunnelResponse × AppState :=
  match usableSid sid with
  | none => (.error "missing sid".toList, state)
  | some sid =>
    ({ sid := some sid, eof := some true }, (state.setSession sid none).setUdpSession sid none)

inductive Phase1 where
  -- The answer is known already.
  | answered (response : TunnelResponse)
  -- The answer is what a later drain of the session finds.
  | tcpDrain (sid : Text) (inner : SessionInner)
  | udpDrain (sid : Text) (inner : UdpSessionInner)
  -- A task was spawned, and brings the answer.
  | spawned

/-- The payload of a data operation; a missing or empty one is a poll. -/
def decodePayload (d : Option Text) : Except Text Bytes :=
  match d with
  | none => .ok []
  | some text =>
    match Base64.decode text with
    | some bytes => .ok bytes
    | none => .error text

section

-- The Base64 library's text for what it refuses.
variable (decodeError : Text → Text)

def phase1Data (state : AppState) (op : BatchOp) : Phase1 × AppState :=
  match usableSid op.sid with
  | none => (.answered (.error "missing sid".toList), state)
  | some sid =>
    match state.sessions sid with
    | none => (.answered (eofResponse sid op.seq), state)
    | some inner =>
      match decodePayload op.d with
      | .error text =>
        (.answered (.error ("bad base64: ".toList ++ decodeError text)), state)
      | .ok bytes =>
        -- An empty poll writes nothing.
        if bytes.isEmpty then (.tcpDrain sid inner, state)
        else
          let inner := inner.write op.wseq bytes
          (.tcpDrain sid inner, state.setSession sid (some inner))

def phase1UdpData (state : AppState) (op : BatchOp) : Phase1 × AppState :=
  match usableSid op.sid with
  | none => (.answered (.error "missing sid".toList), state)
  | some sid =>
    match state.udpSessions sid with
    | none => (.answered (eofResponse sid op.seq), state)
    | some inner =>
      match decodePayload op.d with
      | .error text =>
        (.answered (.error ("bad base64: ".toList ++ decodeError text)), state)
      | .ok bytes =>
        if bytes.isEmpty then (.udpDrain sid inner, state)
        else
          let inner := { inner with sent := inner.sent ++ [bytes] }
          (.udpDrain sid inner, state.setUdpSession sid (some inner))

def phase1 (state : AppState) (op : BatchOp) : Phase1 × AppState :=
  match op.op with
  -- Spawned tasks connect, so that the others are not held up.
  | .connect | .connectData | .udpOpen => (.spawned, state)
  | .data => phase1Data decodeError state op
  | .udpData => phase1UdpData decodeError state op
  | .close =>
    let (response, state) := handleClose state op.sid
    (.answered response, state)
  | .other name => (.answered (.unsupportedOp name), state)

end

end Gvpn
