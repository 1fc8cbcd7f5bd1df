import Gvpn.TunnelClient.Mux

/-! How a session's loop numbers the operations it sends. -/

namespace Gvpn

/-- The reply numbers, of all operations, and the write numbers, of those with data. -/
structure SendSeqs where
  nextSendSeq : Nat := 0
  nextDataWriteSeq : Nat := 0

def sendEmptyPoll (sid : Text) (seqs : SendSeqs) : MuxMsg Nat × SendSeqs :=
  let seq := seqs.nextSendSeq
  (.data sid [] (some seq) none seq, { seqs with nextSendSeq := seq + 1 })

def sendDataOp (sid : Text) (data : Bytes) (seqs : SendSeqs) : MuxMsg Nat × SendSeqs :=
  let seq := seqs.nextSendSeq
  let wseq := seqs.nextDataWriteSeq
  (.data sid data (some seq) (some wseq) seq,
    { seqs with nextSendSeq := seq + 1, nextDataWriteSeq := wseq + 1 })

def sendAll (sid : Text) (seqs : SendSeqs) : List (Option Bytes) → List (MuxMsg Nat)
  | [] => []
  | none :: rest =>
    let (msg, seqs) := sendEmptyPoll sid seqs
    msg :: sendAll sid seqs rest
  | some data :: rest =>
    let (msg, seqs) := sendDataOp sid data seqs
    msg :: sendAll sid seqs rest

def MuxMsg.wireOp {ρ : Type} (msg : MuxMsg ρ) : Option BatchOp :=
  msg.batched.map fun (pending, _, _) => encodePending pending

def sessionOps (sid : Text) (sends : List (Option Bytes)) : List BatchOp :=
  (sendAll sid {} sends).filterMap MuxMsg.wireOp

end Gvpn
