import Gvpn.Data.Reorder
import Gvpn.TunnelClient.Send

/-! How a session's loop writes the replies to its local client in order. -/

namespace Gvpn

inductive WriteOutcome where
  | wrote (bytes : Bytes)
  | noData
  | badBase64
  deriving DecidableEq

def writeTunnelResponse (response : TunnelResponse) : WriteOutcome :=
  match response.d with
  | none => .noData
  | some text =>
    if text.isEmpty then .noData
    else
      match Base64.decode text with
      | some (byte :: bytes) => .wrote (byte :: bytes)
      | some [] => .noData
      | none => .badBase64

def WriteOutcome.written : WriteOutcome → Bytes
  | .wrote bytes => bytes
  | .noData => []
  | .badBase64 => []

structure LoopState where
  seqs : SendSeqs := {}
  nextWriteSeq : Nat := 0
  pendingWrites : SeqMap TunnelResponse := SeqMap.empty
  eofSeen : Bool := false
  -- Cleared once the loop has broken out.
  running : Bool := true
  -- Everything written to the client so far.
  output : Bytes := []

def TunnelResponse.isEof (response : TunnelResponse) : Bool := response.eof.getD false

/--
Write the held replies whose turn has come, up to one that does not decode; answer with the entries
removed, the next number, the end flag and the bytes.
-/
def flushReplies (next : Nat) (eofSeen : Bool) :
    List (Nat × TunnelResponse) → Nat × Nat × Bool × Bytes
  | [] => (0, next, eofSeen, [])
  | (key, response) :: rest =>
    if key ≠ next then (0, next, eofSeen, [])
    else
      match writeTunnelResponse response with
      | .badBase64 => (1, next, eofSeen, [])
      | outcome =>
        let (removed, stop, eofSeen, bytes) :=
          flushReplies (next + 1) (eofSeen || response.isEof) rest
        (removed + 1, stop, eofSeen, outcome.written ++ bytes)

namespace LoopState

def recvReply (state : LoopState) (seq : Nat) (response : TunnelResponse) : LoopState :=
  -- An error ends the loop before any write.
  if response.e.isSome then { state with running := false }
  else if seq = state.nextWriteSeq then
    match writeTunnelResponse response with
    | .badBase64 => { state with running := false }
    | outcome =>
      let (removed, next, eofSeen, bytes) := flushReplies (state.nextWriteSeq + 1)
        (state.eofSeen || response.isEof) state.pendingWrites.entries
      { state with
        nextWriteSeq := next
        pendingWrites := state.pendingWrites.dropFirst removed
        eofSeen := eofSeen
        output := state.output ++ outcome.written ++ bytes }
  else { state with pendingWrites := state.pendingWrites.insert seq response }

/-- Handle one reply behind the end of the stream; errors are passed over. -/
def recvGrace (state : LoopState) (seq : Nat) (response : TunnelResponse) : LoopState :=
  if seq = state.nextWriteSeq then
    let (run, next, pending) := state.pendingWrites.popRun (state.nextWriteSeq + 1)
    { state with
      nextWriteSeq := next
      pendingWrites := pending
      output := state.output ++
        ((response :: run).map fun reply => (writeTunnelResponse reply).written).flatten }
  else { state with pendingWrites := state.pendingWrites.insert seq response }

def recv (state : LoopState) (seq : Nat) (response : TunnelResponse) : LoopState :=
  if state.eofSeen then state.recvGrace seq response else state.recvReply seq response

end LoopState

end Gvpn
