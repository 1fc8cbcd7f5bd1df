import Gvpn.TunnelNode.Protocol

/-! The multiplexer that packs the operations of all sessions into batches. -/

namespace Gvpn

inductive MuxMsg (ρ : Type) where
  | connect (host : Text) (port : UInt16) (reply : ρ)
  | connectData (host : Text) (port : UInt16) (data : Bytes) (reply : ρ)
  | data (sid : Text) (data : Bytes) (seq wseq : Option Nat) (reply : ρ)
  | udpOpen (host : Text) (port : UInt16) (data : Bytes) (reply : ρ)
  | udpData (sid : Text) (data : Bytes) (reply : ρ)
  | close (sid : Text)

structure PendingOp where
  op : OpKind
  sid : Option Text := none
  host : Option Text := none
  port : Option UInt16 := none
  data : Option Bytes := none
  -- Only `connect_data` sends an empty payload field.
  encodeEmpty : Bool := false
  seq : Option Nat := none
  wseq : Option Nat := none

def encodePending (pending : PendingOp) : BatchOp :=
  { op := pending.op
    sid := pending.sid
    host := pending.host
    port := pending.port
    d := match pending.data with
      | some [] => if pending.encodeEmpty then some [] else none
      | some bytes => some (Base64.encode bytes)
      | none => none
    seq := pending.seq
    wseq := pending.wseq }

def encodedLen (n : Nat) : Nat := (n + 2) / 3 * 4

def nonemptyData (data : Bytes) : Option Bytes := if data.isEmpty then none else some data

/-- The batch entry of a message, unless it is a plain connect or a close. -/
def MuxMsg.batched {ρ : Type} : MuxMsg ρ → Option (PendingOp × Nat × ρ)
  | .connect _ _ _ => none
  | .connectData host port payload reply =>
    some ({ op := .connectData, host := some host, port := some port, data := some payload,
            encodeEmpty := true }, encodedLen payload.length, reply)
  | .data sid payload seq wseq reply =>
    some ({ op := .data, sid := some sid, data := nonemptyData payload, seq := seq, wseq := wseq },
      encodedLen payload.length, reply)
  | .udpOpen host port payload reply =>
    some ({ op := .udpOpen, host := some host, port := some port, data := nonemptyData payload },
      encodedLen payload.length, reply)
  | .udpData sid payload reply =>
    some ({ op := .udpData, sid := some sid, data := nonemptyData payload },
      encodedLen payload.length, reply)
  | .close _ => none

def MuxMsg.closed {ρ : Type} : MuxMsg ρ → Option Text
  | .close sid => some sid
  | _ => none

def closeOp (sid : Text) : PendingOp := { op := .close, sid := some sid }

def maxBatchOps : Nat := 50

def maxBatchPayloadBytes : Nat := 4 * 1024 * 1024

def shouldFire (pendingLen payloadBytes opBytes : Nat) : Bool :=
  0 < pendingLen ∧
    (maxBatchOps ≤ pendingLen ∨ maxBatchPayloadBytes < min (payloadBytes + opBytes) (2 ^ 64 - 1))

structure FiredBatch (ρ : Type) where
  ops : List PendingOp
  replies : List (Nat × ρ)

structure BatchAccum (ρ : Type) where
  pendingOps : List PendingOp := []
  dataReplies : List (Nat × ρ) := []
  payloadBytes : Nat := 0

namespace BatchAccum

variable {ρ : Type}

def pushOrFire (accum : BatchAccum ρ) (op : PendingOp) (opBytes : Nat) (reply : ρ) :
    List (FiredBatch ρ) × BatchAccum ρ :=
  let (fired, accum) :=
    if shouldFire accum.pendingOps.length accum.payloadBytes opBytes then
      ([⟨accum.pendingOps, accum.dataReplies⟩], {})
    else ([], accum)
  (fired,
    { pendingOps := accum.pendingOps ++ [op]
      dataReplies := accum.dataReplies ++ [(accum.pendingOps.length, reply)]
      payloadBytes := accum.payloadBytes + opBytes })

def pushAll (accum : BatchAccum ρ) : List (PendingOp × Nat × ρ) → List (FiredBatch ρ) × BatchAccum ρ
  | [] => ([], accum)
  | (op, opBytes, reply) :: rest =>
    let (fired, accum) := accum.pushOrFire op opBytes reply
    let (later, accum) := accum.pushAll rest
    (fired ++ later, accum)

end BatchAccum

def muxWindow {ρ : Type} (msgs : List (MuxMsg ρ)) : List (FiredBatch ρ) :=
  let (fired, accum) := ({} : BatchAccum ρ).pushAll (msgs.filterMap MuxMsg.batched)
  let ops := accum.pendingOps ++ (msgs.filterMap MuxMsg.closed).map closeOp
  if ops.isEmpty then fired else fired ++ [⟨ops, accum.dataReplies⟩]

/-- Hand out the answers of a batch by position, and an error past their end. -/
def dispatchReplies {ρ : Type} (scriptId : Text) (replies : List (Nat × ρ))
    (answers : List TunnelResponse) : List (ρ × Except Text (TunnelResponse × Text)) :=
  replies.map fun (idx, reply) =>
    match answers[idx]? with
    | some response => (reply, .ok (response, scriptId))
    | none =>
      (reply, .error ("missing response in batch from script ".toList ++ scriptId.take 8))

end Gvpn
