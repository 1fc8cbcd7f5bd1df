import Gvpn.Proxy.Routing
import Gvpn.TunnelNode.Udpgw

/-! The SOCKS5 port: requests of clients, and the packets of a relay. -/

namespace Gvpn

open Udpgw (Octets takeHost)

def ipv4Text (octets : Bytes) : Text :=
  ['.'].intercalate (octets.map fun octet => decimal octet.toNat)

def ipv6Segments : Bytes → List Nat
  | high :: low :: rest => (high.toNat * 256 + low.toNat) :: ipv6Segments rest
  | _ => []

structure Span where
  start : Nat := 0
  len : Nat := 0

def longestZeros : Nat → Span → Span → List Nat → Span
  | _, _, longest, [] => longest
  | i, current, longest, segment :: rest =>
    if segment = 0 then
      let grown : Span := ⟨if current.len = 0 then i else current.start, current.len + 1⟩
      longestZeros (i + 1) grown (if longest.len < grown.len then grown else longest) rest
    else longestZeros (i + 1) {} longest rest

def segmentsText (segments : List Nat) : Text :=
  [':'].intercalate (segments.map fun segment => Nat.toDigits 16 segment)

def ipv6Text (octets : Bytes) : Text :=
  match octets with
  -- IPv4 in the form of IPv6 is written with dots.
  | [0, 0, 0, 0, 0, 0, 0, 0, 0, 0, 0xff, 0xff, a, b, c, d] =>
    "::ffff:".toList ++ ipv4Text [a, b, c, d]
  | _ =>
    let segments := ipv6Segments octets
    let zeros := longestZeros 0 {} {} segments
    if 1 < zeros.len then
      segmentsText (segments.take zeros.start) ++ "::".toList ++
        segmentsText (segments.drop (zeros.start + zeros.len))
    else segmentsText segments

example : ipv6Text [0x20, 1, 0xd, 0xb8, 0, 0, 0, 0, 0, 1, 0, 0, 0, 0, 0, 1] =
    "2001:db8::1:0:0:1".toList := by decide

def socksIpv4 : UInt8 := 0x01

def socksDomain : UInt8 := 0x03

def socksIpv6 : UInt8 := 0x04

structure SocksUdpTarget where
  host : Text
  port : UInt16
  atyp : UInt8
  addr : Bytes
  deriving DecidableEq

def parseSocks5UdpTarget (atyp : UInt8) (rest : Bytes) : Option (SocksUdpTarget × Nat) :=
  if atyp = socksIpv4 then
    (takeHost 4 rest).map fun (addr, port, _) =>
      ({ host := ipv4Text addr.val, port, atyp, addr := addr.val }, 4 + 4 + 2)
  else if atyp = socksDomain then
    match rest with
    | [] => none
    | len :: rest =>
      if len = 0 then none
      else
        (takeHost len.toNat rest).bind fun (addr, port, _) =>
          -- A name that is no text is refused.
          (fromUtf8 addr.val).map fun host =>
            ({ host, port, atyp, addr := addr.val }, 4 + 1 + len.toNat + 2)
  else if atyp = socksIpv6 then
    (takeHost 16 rest).map fun (addr, port, _) =>
      ({ host := ipv6Text addr.val, port, atyp, addr := addr.val }, 4 + 16 + 2)
  else none

def parseSocks5UdpPacketOffsets : Bytes → Option (SocksUdpTarget × Nat)
  | first :: second :: fragment :: atyp :: rest =>
    if first ≠ 0 ∨ second ≠ 0 ∨ fragment ≠ 0 then none else parseSocks5UdpTarget atyp rest
  | _ => none

def parseSocks5UdpPacket (buf : Bytes) : Option (SocksUdpTarget × Bytes) :=
  (parseSocks5UdpPacketOffsets buf).map fun (target, off) => (target, buf.drop off)

def buildSocks5UdpPacket (target : SocksUdpTarget) (payload : Bytes) : Bytes :=
  [0, 0, 0, target.atyp] ++
    (if target.atyp = socksDomain then UInt8.ofNat target.addr.length :: target.addr
    else target.addr) ++
    u16ToBe target.port ++ payload

inductive IpAddr where
  | v4 (ip : Octets 4)
  | v6 (ip : Octets 16)
  deriving DecidableEq

structure PeerAddr where
  ip : IpAddr
  port : UInt16
  flowinfo : UInt32 := 0
  scopeId : UInt32 := 0
  deriving DecidableEq

structure SocksCtx extends RewriteCtx where
  blockQuic : Bool
  blockStun : Bool

def stunPorts : List UInt16 := [3478, 5349, 19302]

def socks5Reply (rep : UInt8) : Option PeerAddr → Bytes
  | none => [0x05, rep, 0x00, socksIpv4] ++ [0, 0, 0, 0] ++ u16ToBe 0
  | some addr =>
    match addr.ip with
    | .v4 ip => [0x05, rep, 0x00, socksIpv4] ++ ip.val ++ u16ToBe addr.port
    | .v6 ip => [0x05, rep, 0x00, socksIpv6] ++ ip.val ++ u16ToBe addr.port

inductive Socks5Outcome where
  -- The client is gone, or no socket could be bound.
  | failed (written : Bytes)
  | closed (written : Bytes)
  -- A tunnel handler owns the connection now.
  | connected (written : Bytes) (host : Text) (port : UInt16) (rest : Bytes)
  -- The relay runs until the connection ends.
  | relaying (written : Bytes)
  deriving DecidableEq

def readExact (count : Nat) (bytes : Bytes) : Option (Bytes × Bytes) :=
  if count ≤ bytes.length then some (bytes.take count, bytes.drop count) else none

def readSocks5Host (atyp : UInt8) (bytes : Bytes) : Option (Option (Text × Bytes)) :=
  if atyp = socksIpv4 then
    (readExact 4 bytes).map fun (ip, rest) => some (ipv4Text ip, rest)
  else if atyp = socksDomain then
    match bytes with
    | [] => none
    | len :: bytes =>
      (readExact len.toNat bytes).map fun (name, rest) => some (fromUtf8Lossy name, rest)
  else if atyp = socksIpv6 then
    (readExact 16 bytes).map fun (ip, rest) => some (ipv6Text ip, rest)
  else some none

def startUdpAssociate (ctx : SocksCtx) (bound : Option PeerAddr) (written : Bytes) :
    Socks5Outcome :=
  if ctx.mode ≠ .full then .closed (written ++ socks5Reply 0x07 none)
  else if !ctx.hasMux then .closed (written ++ socks5Reply 0x01 none)
  else
    match bound with
    | none => .failed written
    | some addr => .relaying (written ++ socks5Reply 0x00 (some addr))

def startConnect (ctx : SocksCtx) (isUnreachable : Text → UInt16 → Bool) (written : Bytes)
    (host : Text) (port : UInt16) (rest : Bytes) : Socks5Outcome :=
  if ctx.hasMux ∧ isUnreachable host port then .closed (written ++ socks5Reply 0x04 none)
  else if ctx.blockStun ∧ port ∈ stunPorts then .closed (written ++ socks5Reply 0x05 none)
  else .connected (written ++ socks5Reply 0x00 none) host port rest

def serveSocks5Request (ctx : SocksCtx) (isUnreachable : Text → UInt16 → Bool)
    (bound : Option PeerAddr) (written bytes : Bytes) : Socks5Outcome :=
  match bytes with
  | version :: cmd :: _ :: atyp :: bytes =>
    if version ≠ 0x05 then .closed written
    else if cmd ≠ 0x01 ∧ cmd ≠ 0x03 then .closed (written ++ socks5Reply 0x07 none)
    else
      match readSocks5Host atyp bytes with
      | none => .failed written
      | some none => .closed (written ++ socks5Reply 0x08 none)
      | some (some (host, bytes)) =>
        match bytes with
        | high :: low :: rest =>
          -- The address of a relay request is not looked at.
          if cmd = 0x03 then startUdpAssociate ctx bound written
          else startConnect ctx isUnreachable written host (u16FromBe high low) rest
        | _ => .failed written
  | _ => .failed written

def handleSocks5Client (ctx : SocksCtx) (isUnreachable : Text → UInt16 → Bool)
    (bound : Option PeerAddr) : Bytes → Socks5Outcome
  | version :: count :: bytes =>
    if version ≠ 0x05 then .closed []
    else
      match readExact count.toNat bytes with
      | none => .failed []
      | some (methods, bytes) =>
        -- Only clients without authentication are served.
        if 0x00 ∉ methods then .closed [0x05, 0xff]
        else serveSocks5Request ctx isUnreachable bound [0x05, 0x00] bytes
  | _ => .failed []

end Gvpn
