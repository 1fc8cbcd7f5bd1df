import Gvpn.Data.Chunked

/-! Blocks of addresses: what is in one, and what it is scanned for. -/

namespace Gvpn

def addU32 (left right : Nat) : Except Fault Nat :=
  if left + right < 2 ^ 32 then .ok (left + right) else .error .overflow

def subUnsigned (left right : Nat) : Except Fault Nat :=
  if right ≤ left then .ok (left - right) else .error .overflow

def shlU32 (value bits : Nat) : Except Fault Nat :=
  if bits < 32 then .ok (value <<< bits % 2 ^ 32) else .error .overflow

def joinOctets (a b c d : Nat) : Nat := a <<< 24 ||| b <<< 16 ||| c <<< 8 ||| d

def ipToU32 (ip : Text) : Option Nat :=
  let octets := ip.splitOn '.'
  if octets.length ≠ 4 then none
  else
    match octets.filterMap (parseUnsigned 256) with
    | [a, b, c, d] => some (joinOctets a b c d)
    | _ => none

def dotted (ip : Nat) : Text :=
  decimal (ip >>> 24 &&& 0xFF) ++ '.' :: decimal (ip >>> 16 &&& 0xFF) ++
    '.' :: decimal (ip >>> 8 &&& 0xFF) ++ '.' :: decimal (ip &&& 0xFF)

def cidrMask (prefixLen : Nat) : Except Fault Nat :=
  if prefixLen = 0 then .ok 0
  else if 32 ≤ prefixLen then .ok (2 ^ 32 - 1)
  else do
    let block ← shlU32 1 (← subUnsigned 32 prefixLen)
    let low ← subUnsigned block 1
    -- All the bits but the low ones.
    pure (2 ^ 32 - 1 - low)

def ipInCidr (ip cidr : Text) : Except Fault Bool :=
  match cidr.splitOn '/' with
  | [baseIp, length] =>
    match parseUnsigned 256 length, ipToU32 ip, ipToU32 baseIp with
    | some prefixLen, some ipNum, some baseNum => do
      let mask ← cidrMask prefixLen
      pure (ipNum &&& mask = baseNum &&& mask)
    | _, _, _ => pure false
  | _ => pure false

def scannedCidr (cidr : Text) : Option (Nat × Nat) :=
  match cidr.splitOn '/' with
  | [baseIp, length] =>
    match parseUnsigned 256 length, (baseIp.splitOn '.').map (parseUnsigned 256) with
    | some prefixLen, [some a, some b, some c, some d] =>
      if 32 < prefixLen then none else some (joinOctets a b c d, prefixLen)
    | _, _ => none
  | _ => none

def ipsFrom (base : Nat) : List Nat → Except Fault (List Text)
  | [] => pure []
  | i :: later => do
    let ip ← addU32 base i
    pure (dotted ip :: (← ipsFrom base later))

def numHosts (hostBits : Nat) : Except Fault Nat :=
  if 32 ≤ hostBits then .ok (2 ^ 32 - 1) else shlU32 1 hostBits

def cidrToIps (cidr : Text) : Except Fault (List Text) :=
  match scannedCidr cidr with
  | none => pure []
  | some (base, prefixLen) => do
    let hostBits ← subUnsigned 32 prefixLen
    let limit := min (← numHosts hostBits) 256
    if limit < 2 then pure []
    else
      let last ← subUnsigned limit 1
      ipsFrom base (List.range' 1 (last - 1))

end Gvpn
