import Gvpn.AppsScript.Dns

/-! The walks over a name server's message, with every read checked. -/

namespace Gvpn

inductive WalkFault where
  | outside (i : Nat)
  | endless

def readByte (bytes : Bytes) (i : Nat) : Except WalkFault Nat :=
  match bytes[i]? with
  | some byte => .ok byte.toNat
  | none => .error (.outside i)

def readWord (bytes : Bytes) (i : Nat) : Except WalkFault Nat := do
  let high ← readByte bytes i
  let low ← readByte bytes (i + 1)
  return high * 256 + low

def readLabel (bytes : Bytes) : Nat → Nat → Except WalkFault Text
  | _, 0 => .ok []
  | off, len + 1 => do
    let c ← readByte bytes off
    let rest ← readLabel bytes (off + 1) len
    return Char.ofNat (if 65 ≤ c ∧ c ≤ 90 then c + 32 else c) :: rest

def walkQuestionName (bytes : Bytes) :
    Nat → Nat → List Text → Nat → Except WalkFault (Option (Nat × List Text))
  | 0, off, labels, _ => if off < bytes.length then .error .endless else .ok (some (off, labels))
  | fuel + 1, off, labels, nameLen =>
    if off < bytes.length then do
      let len ← readByte bytes off
      if len = 0 then return some (off + 1, labels)
      else if len &&& 0xC0 ≠ 0 then return none
      else if 63 < len then return none
      else if bytes.length < off + 1 + len then return none
      else
        let label ← readLabel bytes (off + 1) len
        if 255 < nameLen + len + 1 then return none
        else walkQuestionName bytes fuel (off + 1 + len) (labels ++ [label]) (nameLen + len + 1)
    else .ok (some (off, labels))

def walkQuestion (bytes : Bytes) : Except WalkFault (Option Question) :=
  if bytes.length < 12 then .ok none
  else do
    let qdcount ← readWord bytes 4
    if qdcount ≠ 1 then return none
    else
      match ← walkQuestionName bytes bytes.length 12 [] 0 with
      | none => return none
      | some (off, labels) =>
        if bytes.length < off + 4 then return none
        else
          let qtype ← readWord bytes off
          let txid ← readWord bytes 0
          return some { txid, qname := (lit ".").intercalate labels, qtype }

def walkSkipName (bytes : Bytes) : Nat → Nat → Except WalkFault (Option Nat)
  | 0, off => if off < bytes.length then .error .endless else .ok none
  | fuel + 1, off =>
    if off < bytes.length then do
      let len ← readByte bytes off
      if len = 0 then return some (off + 1)
      else if len &&& 0xC0 = 0xC0 then
        if bytes.length < off + 2 then return none else return some (off + 2)
      else if len &&& 0xC0 ≠ 0 then return none
      else if 63 < len then return none
      else walkSkipName bytes fuel (off + 1 + len)
    else .ok none

def walkQuestions (bytes : Bytes) : Nat → Nat → Except WalkFault (Option Nat)
  | 0, off => .ok (some off)
  | count + 1, off => do
    match ← walkSkipName bytes bytes.length off with
    | none => return none
    | some behind =>
      if bytes.length < behind + 4 then return none else walkQuestions bytes count (behind + 4)

def walkRecords (bytes : Bytes) : Nat → Nat → Option Nat → Except WalkFault (Option Nat)
  | 0, _, least => .ok least
  | count + 1, off, least => do
    match ← walkSkipName bytes bytes.length off with
    | none => return none
    | some behind =>
      if bytes.length < behind + 10 then return none
      else
        let high ← readByte bytes (behind + 4)
        let second ← readByte bytes (behind + 5)
        let third ← readByte bytes (behind + 6)
        let low ← readByte bytes (behind + 7)
        let sum := high * 0x1000000 + second * 0x10000 + third * 0x100 + low
        let ttl := if 0x7FFFFFFF < sum then 0 else sum
        let rdlen ← readWord bytes (behind + 8)
        if bytes.length < behind + 10 + rdlen then return none
        else walkRecords bytes count (behind + 10 + rdlen) (some (least.elim ttl (min ttl)))

def walkMinTtl (bytes : Bytes) : Except WalkFault (Option Nat) :=
  if bytes.length < 12 then .ok none
  else do
    let qdcount ← readWord bytes 4
    let ancount ← readWord bytes 6
    let nscount ← readWord bytes 8
    match ← walkQuestions bytes qdcount 12 with
    | none => return none
    | some off => walkRecords bytes (ancount + nscount) off none

end Gvpn
