import Gvpn.TunnelNode.Session

/-! Numbered writes with the node's 64-bit counter, and a log of them. -/

namespace Gvpn

def seqLimit : Nat := 2 ^ 64

namespace SessionInner

/--
Write or hold one numbered payload, answering with the writes by number; the counter wraps around,
but not among held numbers.
-/
def writeNumbered (inner : SessionInner) (wseq : UInt64) (bytes : Bytes) :
    List (Nat × Bytes) × SessionInner :=
  let expected := inner.nextWriteSeq.getD wseq.toNat
  -- Stale or a duplicate: skip.
  if wseq.toNat < expected then ([], { inner with nextWriteSeq := some expected })
  else if wseq.toNat = expected then
    -- In order: write, then flush what waited behind it.
    let start := (expected + 1) % seqLimit
    let count := SeqMap.runLength start inner.pendingWrites.entries
    let run := inner.pendingWrites.entries.take count
    ((expected, bytes) :: run,
      { inner with
        written := inner.written ++ bytes ++ (run.map Prod.snd).flatten
        nextWriteSeq := some ((start + count) % seqLimit)
        pendingWrites := inner.pendingWrites.dropFirst count })
  else
    -- Out of order: hold for later.
    ([], { inner with
      nextWriteSeq := some expected
      pendingWrites := inner.pendingWrites.insert wseq.toNat bytes })

def writeAll (inner : SessionInner) :
    List (UInt64 × Bytes) → List (Nat × Bytes) × SessionInner
  | [] => ([], inner)
  | (wseq, bytes) :: rest =>
    let (now, inner) := inner.writeNumbered wseq bytes
    let (later, inner) := inner.writeAll rest
    (now ++ later, inner)

end SessionInner

structure NumberedOp where
  wseq : UInt64
  -- The payload, Base64-encoded.
  d : Option Text

namespace NumberedOp

def arrival (op : NumberedOp) : Option (UInt64 × Bytes) :=
  match decodePayload op.d with
  | .ok (byte :: bytes) => some (op.wseq, byte :: bytes)
  | _ => none

def handle (inner : SessionInner) (op : NumberedOp) : List (Nat × Bytes) × SessionInner :=
  match decodePayload op.d with
  | .error _ => ([], inner)
  | .ok bytes => if bytes.isEmpty then ([], inner) else inner.writeNumbered op.wseq bytes

def handleAll (inner : SessionInner) : List NumberedOp → List (Nat × Bytes) × SessionInner
  | [] => ([], inner)
  | op :: rest =>
    let (now, inner) := handle inner op
    let (later, inner) := handleAll inner rest
    (now ++ later, inner)

end NumberedOp

end Gvpn
